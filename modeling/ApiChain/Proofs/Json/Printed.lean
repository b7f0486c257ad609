import ApiChain.Json.Printer
import ApiChain.Proofs.Json.Texts
import ApiChain.Text.Blank

/-!
# Strings in the compact text

The compact text of a value has each of its strings between quotes, with the quote, the backslash and
the control characters escaped. An escape starts with a backslash and goes on with letters and digits,
or with a quote or a backslash; so every other mark stands where it stood in the string.

* **`Unescaped.mem_escaped_iff`**: a mark stands in an escaped text exactly if it stands in the text;
* **`trimStart_escaped_iff`**: the blanks at the start and what follows them are read as before exactly
  if nothing is escaped;
* **`standsIn_of_mem_leaves`**: a leaf of a value stands in its compact text where it says it does, and
  **`map_text_leaves`**: the leaves are the strings of the value.
-/

namespace ApiChain.Json

/-! ## Escapes -/

/-- A text as it stands between quotes. -/
def escaped (s : List Char) : List Char := s.flatMap escapeChar

@[simp] theorem escaped_nil : escaped [] = [] := rfl

theorem escaped_cons (c : Char) (s : List Char) : escaped (c :: s) = escapeChar c ++ escaped s := rfl

@[simp] theorem escaped_append (s t : List Char) : escaped (s ++ t) = escaped s ++ escaped t :=
  List.flatMap_append

theorem quoted_eq (s : List Char) : quoted s = '"' :: (escaped s ++ ['"']) := rfl

/-- What a character is escaped to is longer than the character and starts with a backslash. -/
theorem escapeChar_cases (c : Char) :
    escapeChar c = [c] ∨ ∃ x more, escapeChar c = '\\' :: x :: more := by
  unfold escapeChar
  repeat' split
  all_goals first
    | exact .inl rfl
    | exact .inr ⟨_, _, rfl⟩

/-- The characters that escapes are made of. -/
def isEscapeMark (x : Char) : Bool := x == '\\' || x == '"' || x.isAlphanum

theorem isEscapeMark_hexDigit {n : Nat} (h : n < 16) : isEscapeMark (hexDigit n) = true := by
  have hall : ∀ n < 16, isEscapeMark (hexDigit n) = true := by decide
  exact hall n h

theorem mem_escapeChar {x c : Char} (h : x ∈ escapeChar c) : x = c ∨ isEscapeMark x = true := by
  suffices hmarks : escapeChar c = [c] ∨ (escapeChar c).all isEscapeMark = true by
    rcases hmarks with hself | hmarks
    · exact .inl (List.mem_singleton.mp (hself ▸ h))
    · exact .inr (List.all_eq_true.mp hmarks x h)
  unfold escapeChar
  repeat' split
  any_goals exact .inr rfl
  · -- a control character is below thirty-two, so both of its digits are hexadecimal
    have hhigh := isEscapeMark_hexDigit (n := c.toNat / 16) (by omega)
    have hlow := isEscapeMark_hexDigit (n := c.toNat % 16) (by omega)
    right
    simp only [List.all_cons, hhigh, hlow, List.all_nil, Bool.and_true]
    rfl
  · exact .inl rfl

/-- The character is written as itself, and in no escape of another one. -/
structure Unescaped (x : Char) : Prop where
  self : escapeChar x = [x]
  only : ∀ c, x ∈ escapeChar c → x = c

/-- The marks of templates and paths. -/
def marks : List Char := ['{', '}', '.', '[', '*', ']']

theorem unescaped_of_mem_marks {x : Char} (h : x ∈ marks) : Unescaped x := by
  have hself : marks.all (fun x => escapeChar x == [x]) = true := by rfl
  have hmark : marks.all (fun x => !isEscapeMark x) = true := by rfl
  have hx : isEscapeMark x = false := by simpa using List.all_eq_true.mp hmark x h
  refine ⟨by simpa using List.all_eq_true.mp hself x h, fun c hc => ?_⟩
  exact (mem_escapeChar hc).resolve_right (by simp [hx])

theorem Unescaped.mem_escaped_iff {x : Char} (h : Unescaped x) (s : List Char) :
    x ∈ escaped s ↔ x ∈ s := by
  rw [escaped, List.mem_flatMap]
  constructor
  · rintro ⟨c, hc, hx⟩
    exact h.only c hx ▸ hc
  · intro hx
    exact ⟨x, hx, h.self ▸ List.mem_singleton_self x⟩

theorem escaped_marks {s : List Char} (h : ∀ x ∈ s, x ∈ marks) : escaped s = s := by
  induction s with
  | nil => rfl
  | cons x s ih =>
    obtain ⟨hx, hs⟩ := List.forall_mem_cons.mp h
    rw [escaped_cons, (unescaped_of_mem_marks hx).self, ih hs]
    rfl

theorem length_le_escaped (s : List Char) : s.length ≤ (escaped s).length := by
  induction s with
  | nil => exact Nat.le_refl 0
  | cons c s ih =>
    rw [escaped_cons, List.length_append, List.length_cons]
    rcases escapeChar_cases c with h | ⟨x, more, h⟩
    · rw [h, List.length_singleton]
      omega
    · rw [h, List.length_cons]
      omega

theorem escaped_ne_nil {s : List Char} (h : s ≠ []) : escaped s ≠ [] := by
  have hlength := length_le_escaped s
  have hpos := List.length_pos_iff.mpr h
  exact List.length_pos_iff.mp (by omega)

/-- An escape at the start is no blank, and an escape behind the start makes the text longer. -/
theorem trimStart_escaped_iff (s : List Char) :
    Text.trimStart (escaped s) = Text.trimStart s ↔ escaped s = s := by
  induction s with
  | nil => exact ⟨fun _ => rfl, fun _ => rfl⟩
  | cons c s ih =>
    rcases escapeChar_cases c with h | ⟨x, more, h⟩
    · rw [escaped_cons, h, List.singleton_append]
      cases hblank : Text.isBlank c with
      | true =>
        simp only [Text.trimStart, List.dropWhile_cons_of_pos hblank, List.cons.injEq, true_and]
        exact ih
      | false =>
        have hkept : ∀ t, Text.trimStart (c :: t) = c :: t :=
          fun t => List.dropWhile_cons_of_neg (by simp [hblank])
        rw [hkept, hkept]
    · have hlength := length_le_escaped s
      have htrimmed : (Text.trimStart (c :: s)).length ≤ (c :: s).length :=
        (List.dropWhile_suffix _).length_le
      have hkept : Text.trimStart (escaped (c :: s)) = escaped (c :: s) := by
        rw [escaped_cons, h]
        rfl
      have hlonger : (c :: s).length < (escaped (c :: s)).length := by
        rw [escaped_cons, h]
        simp only [List.length_cons, List.length_append]
        omega
      rw [hkept]
      constructor
      · intro heq
        rw [heq] at hlonger
        omega
      · intro heq
        rw [heq] at hlonger
        omega

/-! ## Leaves -/

/-- A string at one place of a value, and what the compact text has before its quotes there. -/
structure Leaf where
  before : List Char
  text : String

mutual

/-- The leaves of a value whose compact text stands behind `before`. -/
def leavesFrom : Json → List Char → List Leaf
  | .string s, before => [⟨before, s⟩]
  | .array items, before => itemLeavesFrom items (before ++ ['['])
  | .object members, before => memberLeavesFrom members (before ++ ['{'])
  | .null, _ => []
  | .bool _, _ => []
  | .number _, _ => []

/-- The leaves of some items. -/
def itemLeavesFrom : List Json → List Char → List Leaf
  | [], _ => []
  | j :: rest, before =>
    leavesFrom j before ++ itemLeavesFrom rest (before ++ j.printChars ++ [','])

/-- The leaves of some members; a key is none. -/
def memberLeavesFrom : List (String × Json) → List Char → List Leaf
  | [], _ => []
  | (k, j) :: rest, before =>
    leavesFrom j (before ++ quoted k.toList ++ [':'])
      ++ memberLeavesFrom rest (before ++ quoted k.toList ++ [':'] ++ j.printChars ++ [','])

end

/-- The leaves of a value, in order. -/
def leaves (j : Json) : List Leaf := leavesFrom j []

/-- The text holds the leaf in quotes, behind what the leaf says stands before it. -/
def Leaf.StandsIn (leaf : Leaf) (s : List Char) : Prop :=
  leaf.before ++ quoted leaf.text.toList <+: s

theorem Leaf.StandsIn.append {leaf : Leaf} {s : List Char} (h : leaf.StandsIn s) (t : List Char) :
    leaf.StandsIn (s ++ t) :=
  h.trans (List.prefix_append s t)

/-- The leaves of the value stand in its compact text, whatever that stands behind. -/
def LeavesStand (j : Json) : Prop :=
  ∀ before, ∀ leaf ∈ leavesFrom j before, leaf.StandsIn (before ++ j.printChars)

theorem printItems_cons (j : Json) (rest : List Json) :
    printItems (j :: rest)
      = j.printChars ++ if rest = [] then [] else ',' :: printItems rest := by
  cases rest with
  | nil => simp [printItems]
  | cons k rest => simp [printItems]

theorem printMembers_cons (k : String) (j : Json) (rest : List (String × Json)) :
    printMembers ((k, j) :: rest)
      = quoted k.toList ++ [':'] ++ j.printChars
        ++ if rest = [] then [] else ',' :: printMembers rest := by
  cases rest with
  | nil => simp [printMembers]
  | cons m rest => simp [printMembers]

theorem standsIn_items {items : List Json} (h : ∀ j ∈ items, LeavesStand j) (before : List Char) :
    ∀ leaf ∈ itemLeavesFrom items before, leaf.StandsIn (before ++ printItems items) := by
  induction items generalizing before with
  | nil => simp [itemLeavesFrom]
  | cons j rest ih =>
    obtain ⟨hfirst, hrest⟩ := List.forall_mem_cons.mp h
    intro leaf hleaf
    rw [printItems_cons, ← List.append_assoc]
    rcases List.mem_append.mp hleaf with hleaf | hleaf
    · exact (hfirst before leaf hleaf).append _
    · have hne : rest ≠ [] := by
        rintro rfl
        simp [itemLeavesFrom] at hleaf
      have hstands := ih hrest _ leaf hleaf
      rw [if_neg hne]
      rwa [List.append_assoc (before ++ j.printChars), List.singleton_append] at hstands

theorem standsIn_members {members : List (String × Json)} (h : ∀ m ∈ members, LeavesStand m.2)
    (before : List Char) :
    ∀ leaf ∈ memberLeavesFrom members before, leaf.StandsIn (before ++ printMembers members) := by
  induction members generalizing before with
  | nil => simp [memberLeavesFrom]
  | cons m rest ih =>
    obtain ⟨k, j⟩ := m
    obtain ⟨hfirst, hrest⟩ := List.forall_mem_cons.mp h
    intro leaf hleaf
    rw [printMembers_cons]
    simp only [← List.append_assoc]
    rcases List.mem_append.mp hleaf with hleaf | hleaf
    · exact (hfirst _ leaf hleaf).append _
    · have hne : rest ≠ [] := by
        rintro rfl
        simp [memberLeavesFrom] at hleaf
      have hstands := ih hrest _ leaf hleaf
      rw [if_neg hne]
      rwa [List.append_assoc _ [','], List.singleton_append] at hstands

theorem leavesStand (j : Json) : LeavesStand j := by
  induction j using cases_induction with
  | null => simp [LeavesStand, leavesFrom]
  | bool b => simp [LeavesStand, leavesFrom]
  | number n => simp [LeavesStand, leavesFrom]
  | string s =>
    intro before leaf hleaf
    obtain rfl := List.mem_singleton.mp hleaf
    exact List.prefix_refl _
  | array items ih =>
    intro before leaf hleaf
    have hstands := (standsIn_items ih _ leaf hleaf).append [']']
    rwa [List.append_assoc, List.append_assoc] at hstands
  | object members ih =>
    intro before leaf hleaf
    have hstands := (standsIn_members ih _ leaf hleaf).append ['}']
    rwa [List.append_assoc, List.append_assoc] at hstands

theorem standsIn_of_mem_leaves {j : Json} {leaf : Leaf} (h : leaf ∈ j.leaves) :
    leaf.StandsIn j.printChars :=
  leavesStand j [] leaf h

theorem map_text_leavesFrom (j : Json) :
    ∀ before, (leavesFrom j before).map Leaf.text = j.texts := by
  induction j using cases_induction with
  | null => exact fun _ => rfl
  | bool b => exact fun _ => rfl
  | number n => exact fun _ => rfl
  | string s => exact fun _ => rfl
  | array items ih =>
    have hitems : ∀ before, (itemLeavesFrom items before).map Leaf.text = itemTexts items := by
      induction items with
      | nil => exact fun _ => rfl
      | cons j rest ihrest =>
        obtain ⟨hfirst, hrest⟩ := List.forall_mem_cons.mp ih
        intro before
        rw [itemLeavesFrom, List.map_append, hfirst, ihrest hrest, itemTexts]
    exact fun before => hitems _
  | object members ih =>
    have hmembers : ∀ before, (memberLeavesFrom members before).map Leaf.text
        = memberTexts members := by
      induction members with
      | nil => exact fun _ => rfl
      | cons m rest ihrest =>
        obtain ⟨hfirst, hrest⟩ := List.forall_mem_cons.mp ih
        intro before
        rw [memberLeavesFrom, List.map_append, hfirst, ihrest hrest, memberTexts]
    exact fun before => hmembers _

/-- The leaves of a value are its strings. -/
theorem map_text_leaves (j : Json) : j.leaves.map Leaf.text = j.texts := map_text_leavesFrom j []

end ApiChain.Json
