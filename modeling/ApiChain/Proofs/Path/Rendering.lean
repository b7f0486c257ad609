import Mathlib
import ApiChain.Proofs.Mapping.Fields
import ApiChain.Proofs.Path.Slots
import ApiChain.Template.Substitute

/-!
# The two texts of a result

What a path finds stands in a request as text, and in a table as the text of the value that went into a
record. Both put commas between the slots of a broadcast and leave an undefined slot empty. They part
where a broadcast inside another one found nothing: such a row is empty in a request, while its value
is an array of `null`s and shows its commas.

* **`requestChars_eq_valueChars_iff`**: the texts are the same unless a row of two slots or more found
  nothing;
* **`text?_eq_settled`**: the text in a request is that of the value in which each such row counts as
  one undefined slot;
* **`texts_agree_iff`** says this of the request and of the cell.
-/

namespace ApiChain

/-! ## Joined texts -/

theorem Text.length_joinWith (c : Char) (pieces : List (List Char)) :
    (joinWith [c] pieces).length = (pieces.map List.length).sum + (pieces.length - 1) := by
  unfold joinWith
  induction pieces with
  | nil => rfl
  | cons piece rest ih =>
    cases rest with
    | nil => simp
    | cons next more =>
      rw [List.intercalate_cons_cons]
      simp only [List.length_append, List.length_cons, List.map_cons, List.sum_cons] at ih ⊢
      simp only [List.length_nil]
      omega

theorem Json.plainChars_array (items : List Json) :
    (array items).plainChars = Text.joinWith [','] (items.map plainChars) := by
  rw [plainChars]
  induction items with
  | nil => rfl
  | cons x rest ih =>
    cases rest with
    | nil => simp [plainItems, Text.joinWith]
    | cons y more =>
      unfold Text.joinWith at ih ⊢
      rw [plainItems, ih, List.map_cons, List.map_cons, List.map_cons,
        List.intercalate_cons_cons, List.append_assoc, List.singleton_append]

namespace Resolved

/-! ## Induction over results -/

theorem cases_induction {motive : Resolved → Prop} (undefined : motive .undefined)
    (scalar : ∀ v, motive (.scalar v))
    (sequence : ∀ slots, (∀ r ∈ slots, motive r) → motive (.sequence slots)) : ∀ r, motive r
  | .undefined => undefined
  | .scalar v => scalar v
  | .sequence slots => sequence slots fun r _ => cases_induction undefined scalar sequence r
termination_by r => sizeOf r
decreasing_by
  have hlt := List.sizeOf_lt_of_mem ‹_ ∈ slots›
  simp only [Resolved.sequence.sizeOf_spec]
  omega

theorem allUnresolved_iff (slots : List Resolved) :
    allUnresolved slots = true ↔ ∀ r ∈ slots, r.isUnresolved = true := by
  induction slots with
  | nil => simp [allUnresolved]
  | cons r rest ih => simp [allUnresolved, ih]

/-- A broadcast found nothing if it has slots and found nothing in any. -/
theorem isUnresolved_sequence_iff (slots : List Resolved) :
    (sequence slots).isUnresolved = true ↔ slots ≠ [] ∧ ∀ r ∈ slots, r.isUnresolved = true := by
  rw [isUnresolved, Bool.and_eq_true, allUnresolved_iff]
  simp

/-! ## The two texts -/

/-- The text of the result in a request, empty where nothing was found. -/
def requestChars (r : Resolved) : List Char := r.textChars?.getD []

/-- The text of the result as a value. -/
def valueChars (r : Resolved) : List Char := (r.toJson?.getD .null).plainChars

theorem requestChars_of_unresolved {r : Resolved} (h : r.isUnresolved = true) :
    r.requestChars = [] := by
  rw [requestChars, (textChars?_eq_none_iff r).mpr h, Option.getD_none]

theorem textChars?_of_found {r : Resolved} (h : r.isUnresolved = false) :
    r.textChars? = some r.requestChars := by
  cases htext : r.textChars? with
  | none =>
    rw [(textChars?_eq_none_iff r).mp htext] at h
    exact absurd h (by simp)
  | some t => rw [requestChars, htext, Option.getD_some]

theorem requestChars_sequence {slots : List Resolved} (h : (sequence slots).isUnresolved = false) :
    (sequence slots).requestChars = Text.joinWith [','] (slots.map requestChars) := by
  have hslots : ∀ rs : List Resolved, slotTexts rs = rs.map requestChars := by
    intro rs
    induction rs with
    | nil => rfl
    | cons r rest ih => rw [slotTexts, ih, List.map_cons, requestChars]
  rw [isUnresolved] at h
  rw [requestChars, textChars?, h, hslots]
  rfl

theorem valueChars_sequence (slots : List Resolved) :
    (sequence slots).valueChars = Text.joinWith [','] (slots.map valueChars) := by
  have hslots : ∀ rs : List Resolved, (slotValues rs).map Json.plainChars = rs.map valueChars := by
    intro rs
    induction rs with
    | nil => rfl
    | cons r rest ih => rw [slotValues, List.map_cons, ih, List.map_cons, valueChars]
  rw [valueChars, toJson?, Option.getD_some, Json.plainChars_array, hslots]

/-! ## Blank rows -/

/-- Somewhere in the result stands a row of two slots or more in which nothing was found. -/
inductive HasBlankRow : Resolved → Prop
  | here {slots : List Resolved} (hmany : 2 ≤ slots.length)
      (hnothing : (sequence slots).isUnresolved = true) : HasBlankRow (.sequence slots)
  | inside {slots : List Resolved} {r : Resolved} (hmem : r ∈ slots) (hrow : HasBlankRow r) :
      HasBlankRow (.sequence slots)

theorem length_requestChars_le (r : Resolved) : r.requestChars.length ≤ r.valueChars.length := by
  induction r using cases_induction with
  | undefined => exact Nat.le_refl _
  | scalar v => exact Nat.le_refl _
  | sequence slots ih =>
    cases h : (sequence slots).isUnresolved with
    | true =>
      rw [requestChars_of_unresolved h]
      exact Nat.zero_le _
    | false =>
      rw [requestChars_sequence h, valueChars_sequence, Text.length_joinWith, Text.length_joinWith,
        List.map_map, List.map_map, List.length_map, List.length_map]
      exact Nat.add_le_add_right (List.sum_le_sum ih) _

/-- A blank row has commas as a value, and none in a request. -/
theorem length_requestChars_lt {r : Resolved} (h : r.HasBlankRow) :
    r.requestChars.length < r.valueChars.length := by
  induction h with
  | @here slots hmany hnothing =>
    rw [requestChars_of_unresolved hnothing, valueChars_sequence, Text.length_joinWith,
      List.length_map, List.length_nil]
    omega
  | @inside slots r hmem _ ih =>
    -- no slot is longer in the request, and the one with the blank row is shorter
    have hsum : (slots.map fun s => s.requestChars.length).sum
        < (slots.map fun s => s.valueChars.length).sum :=
      List.sum_lt_sum _ _ (fun s _ => length_requestChars_le s) ⟨r, hmem, ih⟩
    rw [valueChars_sequence, Text.length_joinWith, List.map_map, List.length_map]
    cases h : (sequence slots).isUnresolved with
    | true =>
      rw [requestChars_of_unresolved h, List.length_nil]
      exact Nat.lt_add_right _ (Nat.lt_of_le_of_lt (Nat.zero_le _) hsum)
    | false =>
      rw [requestChars_sequence h, Text.length_joinWith, List.map_map, List.length_map]
      exact Nat.add_lt_add_right hsum _

theorem requestChars_eq_valueChars {r : Resolved} (h : ¬ r.HasBlankRow) :
    r.requestChars = r.valueChars := by
  induction r using cases_induction with
  | undefined => rfl
  | scalar v => rfl
  | sequence slots ih =>
    have hslots : slots.map requestChars = slots.map valueChars :=
      List.map_congr_left fun r hr => ih r hr fun hrow => h (.inside hr hrow)
    cases hnothing : (sequence slots).isUnresolved with
    | false => rw [requestChars_sequence hnothing, valueChars_sequence, hslots]
    | true =>
      -- the row is not blank, so it is one slot, and that slot found nothing
      obtain ⟨hne, hall⟩ := (isUnresolved_sequence_iff slots).mp hnothing
      have hone : slots.length < 2 := Nat.lt_of_not_le fun hmany => h (.here hmany hnothing)
      obtain ⟨r, rfl⟩ : ∃ r, slots = [r] := by
        cases slots with
        | nil => exact absurd rfl hne
        | cons r rest =>
          cases rest with
          | nil => exact ⟨r, rfl⟩
          | cons _ _ => simp at hone
      rw [requestChars_of_unresolved hnothing, valueChars_sequence, ← hslots, List.map_singleton,
        requestChars_of_unresolved (hall r List.mem_cons_self)]
      rfl

/-- The texts are the same unless a row is blank. -/
theorem requestChars_eq_valueChars_iff (r : Resolved) :
    r.requestChars = r.valueChars ↔ ¬ r.HasBlankRow := by
  constructor
  · intro heq hrow
    -- equal texts have equal lengths
    have hlt := length_requestChars_lt hrow
    rw [heq] at hlt
    exact Nat.lt_irrefl _ hlt
  · exact requestChars_eq_valueChars

/-! ## Rows taken for slots -/

mutual

/-- The result in which every row that found nothing is taken for one undefined slot. -/
def settled : Resolved → Resolved
  | .undefined => .undefined
  | .scalar v => .scalar v
  | .sequence slots =>
    if !slots.isEmpty && allUnresolved slots then .undefined else .sequence (settledSlots slots)

def settledSlots : List Resolved → List Resolved
  | [] => []
  | r :: rest => settled r :: settledSlots rest

end

theorem settled_of_unresolved {r : Resolved} (h : r.isUnresolved = true) :
    r.settled = .undefined := by
  cases r with
  | undefined => rfl
  | scalar v => simp [isUnresolved] at h
  | sequence slots =>
    rw [isUnresolved] at h
    rw [settled, if_pos h]

theorem settled_sequence {slots : List Resolved} (h : (sequence slots).isUnresolved = false) :
    (sequence slots).settled = .sequence (slots.map settled) := by
  have hslots : ∀ rs : List Resolved, settledSlots rs = rs.map settled := by
    intro rs
    induction rs with
    | nil => rfl
    | cons r rest ih => rw [settledSlots, ih, List.map_cons]
  rw [isUnresolved] at h
  rw [settled, h, hslots]
  rfl

theorem valueChars_settled (r : Resolved) : r.settled.valueChars = r.requestChars := by
  induction r using cases_induction with
  | undefined => rfl
  | scalar v => rfl
  | sequence slots ih =>
    cases h : (sequence slots).isUnresolved with
    | true =>
      rw [settled_of_unresolved h, requestChars_of_unresolved h]
      rfl
    | false =>
      rw [settled_sequence h, valueChars_sequence, requestChars_sequence h, List.map_map]
      exact congrArg _ (List.map_congr_left ih)

/-- A result that found something has a value, and its text is `valueChars`. -/
theorem plain_toJson?_of_ne_undefined {r : Resolved} (h : r ≠ .undefined) :
    ∃ value, r.toJson? = some value ∧ value.plain = String.ofList r.valueChars := by
  cases r with
  | undefined => exact absurd rfl h
  | scalar v => exact ⟨v, rfl, rfl⟩
  | sequence slots => exact ⟨_, rfl, rfl⟩

theorem text?_eq_settled (r : Resolved) : r.text? = r.settled.toJson?.map Json.plain := by
  cases h : r.isUnresolved with
  | true =>
    rw [(text?_eq_none_iff r).mpr h, settled_of_unresolved h]
    rfl
  | false =>
    have hne : r.settled ≠ .undefined := by
      cases r with
      | undefined => simp [isUnresolved] at h
      | scalar v => simp [settled]
      | sequence slots => simp [settled_sequence h]
    obtain ⟨value, hvalue, hplain⟩ := plain_toJson?_of_ne_undefined hne
    rw [text?, textChars?_of_found h, hvalue, Option.map_some, Option.map_some, hplain,
      valueChars_settled]

end Resolved

/-! ## Holes and cells -/

/-- A hole is filled with the text of what its path finds. -/
theorem Template.fillPiece_of_found {root : Json} {path : String}
    (h : (root.resolve path).isUnresolved = false) {api : String} {inner : List Char}
    (hinner : Placeholder.parseChars inner = ⟨api, path⟩) :
    fillPiece root api (.hole inner) = (root.resolve path).requestChars := by
  rw [fillPiece, replacement?, hinner]
  simp only [if_true, Resolved.textChars?_of_found h, Option.getD_some]

namespace Resolved

/-- **The text in a request and the text in a cell.** A result that found something has a text and a
value. The value's text is the same exactly if no row of two slots or more in the result found nothing;
in general the text is that of the value in which each such row is one undefined slot. This text fills
every hole with a path that has this result, and the value's text stands in the cell of every field that
is mapped from such a path. -/
theorem texts_agree_iff (r : Resolved) (hfound : r.isUnresolved = false) :
    ∃ (text : String) (value : Json), r.text? = some text ∧ r.toJson? = some value ∧
      (text = value.plain ↔ ¬ r.HasBlankRow) ∧
      r.settled.toJson?.map Json.plain = some text ∧
      ∀ (root : Json) (path : String), root.resolve path = r →
        (∀ (api : String) (inner : List Char), Placeholder.parseChars inner = ⟨api, path⟩ →
          Template.fillPiece root api (.hole inner) = text.toList) ∧
        ∀ (rules : List Rule) (rule : Rule), Mapping.lastRule? rules rule.target = some rule →
          Mapping.itemPath rule.source = path →
          Table.cell ((Mapping.recordOf root rules).get? rule.target) = value.plain.toList := by
  have hne : r ≠ .undefined := by
    rintro rfl
    simp [isUnresolved] at hfound
  have htext : r.text? = some (String.ofList r.requestChars) := by
    rw [text?, textChars?_of_found hfound, Option.map_some]
  obtain ⟨value, hvalue, hplain⟩ := plain_toJson?_of_ne_undefined hne
  refine ⟨_, value, htext, hvalue, ?_, ?_, ?_⟩
  · rw [hplain, String.ofList_inj, requestChars_eq_valueChars_iff]
  · rw [← text?_eq_settled, htext]
  · rintro root path rfl
    refine ⟨?_, ?_⟩
    · intro api inner hinner
      rw [Template.fillPiece_of_found hfound hinner, String.toList_ofList]
    · intro rules rule hlast hsource
      rw [Mapping.get?_recordOf, hlast, Option.bind_some, hsource, hvalue, Table.cell,
        Option.map_some, Option.getD_some, Json.plain, String.toList_ofList]

/-- The tags of some users, row by row. -/
def tagRows (rows : List (List Json)) : Json :=
  .object [("rows", .array (rows.map fun tags => .object [("tags", .array tags)]))]

def namedTag : Json := .object [("name", .string "a")]

def bareTag : Json := .object []

/-- A row with a name and without one, a row without tags, and a row of one tag without a name. -/
def raggedRows : Json := tagRows [[namedTag, bareTag], [], [bareTag]]

theorem texts_agree_iff_ragged :
    (raggedRows.resolve "rows[*].tags[*].name").isUnresolved = false ∧
      ¬ (raggedRows.resolve "rows[*].tags[*].name").HasBlankRow ∧
      Template.fillPiece raggedRows "users" (.hole " users.rows[*].tags[*].name ".toList)
        = "a,,,".toList ∧
      Table.cell ((Mapping.recordOf raggedRows [⟨"rows[*].tags[*].name", "names"⟩]).get? "names")
        = "a,,,".toList := by
  have hresult : raggedRows.resolve "rows[*].tags[*].name"
      = .sequence [.sequence [.scalar (.string "a"), .undefined], .sequence [],
          .sequence [.undefined]] := by cbv
  have hfound : (raggedRows.resolve "rows[*].tags[*].name").isUnresolved = false := by
    rw [hresult]
    rfl
  obtain ⟨text, value, htext, hvalue, hagree, -, huse⟩ := texts_agree_iff _ hfound
  obtain ⟨hhole, hcell⟩ := huse raggedRows _ rfl
  have hinner : Placeholder.parseChars " users.rows[*].tags[*].name ".toList
      = ⟨"users", "rows[*].tags[*].name"⟩ := by cbv
  have hplain : value.plain = "a,,," := by
    rw [hresult] at hvalue
    rw [← Option.some.inj hvalue]
    cbv
  obtain rfl : text = "a,,," := by
    rw [hresult] at htext
    rw [← Option.some.inj htext]
    cbv
  refine ⟨hfound, hagree.mp hplain.symm, hhole _ _ hinner, ?_⟩
  rw [← hplain]
  exact hcell _ ⟨"rows[*].tags[*].name", "names"⟩ rfl (by cbv)

/-- A row of two tags without names, and one with a name. -/
def blankRows : Json := tagRows [[bareTag, bareTag], [namedTag]]

/-- The request shows one comma, the value two. -/
theorem texts_differ_blank :
    (blankRows.resolve "rows[*].tags[*].name").isUnresolved = false ∧
      (blankRows.resolve "rows[*].tags[*].name").text? = some ",a" ∧
      (blankRows.resolve "rows[*].tags[*].name").toJson?.map Json.plain = some ",,a" := by
  have hresult : blankRows.resolve "rows[*].tags[*].name"
      = .sequence [.sequence [.undefined, .undefined], .sequence [.scalar (.string "a")]] := by cbv
  rw [hresult]
  refine ⟨rfl, ?_, ?_⟩ <;> cbv

end Resolved

end ApiChain
