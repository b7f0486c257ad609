import ApiChain.Proofs.Path.Grammar
import ApiChain.Proofs.Text.Parts
import ApiChain.Proofs.Text.Trim
import ApiChain.Template.Placeholder

/-!
# Stars in a path

A path broadcasts through a star between brackets, and the reader lets blanks stand around the star. The
search for the mark of a broadcast lets none stand there.

* **`Written.broadcast_mem_iff`**: the steps of a written path hold a broadcast exactly if somewhere in
  its text a star stands between brackets, blanks around it or not;
* **`broadcast_mem_iff_sequence`**: exactly then a value exists in which the path finds a sequence;
* **`Placeholder.isBroadcast_agrees_iff`**: the search for the mark finds no other path, and misses
  exactly those in which blanks pad every star.
-/

namespace ApiChain

/-! ## Starred groups -/

namespace Path

/-- A star stands between brackets in the text, with the blanks `left` and `right` around it. -/
structure Starred (s left right : List Char) : Prop where
  blankLeft : ∀ c ∈ left, Text.isBlank c = true
  blankRight : ∀ c ∈ right, Text.isBlank c = true
  group : '[' :: (left ++ '*' :: (right ++ [']'])) <:+: s

variable {s t : List Char}

theorem Starred.mono {left right : List Char} (h : Starred s left right) (hst : s <:+: t) :
    Starred t left right where
  blankLeft := h.blankLeft
  blankRight := h.blankRight
  group := h.group.trans hst

/-- Behind a text without an opening bracket there are no other starred groups. -/
theorem starred_append_iff (hs : '[' ∉ s) {left right : List Char} :
    Starred (s ++ t) left right ↔ Starred t left right :=
  ⟨fun h => ⟨h.blankLeft, h.blankRight, Text.infix_of_notMem hs h.group⟩,
    fun h => h.mono (List.suffix_append s t).isInfix⟩

/-- No dot stands in a starred group. -/
theorem starred_append_dot_iff {left right : List Char} :
    Starred (s ++ '.' :: t) left right ↔ Starred s left right ∨ Starred t left right := by
  constructor
  · rintro ⟨hleft, hright, hgroup⟩
    have hblank : Text.isBlank '.' = false := by decide
    have hfree : '.' ∉ '[' :: (left ++ '*' :: (right ++ [']'])) := by
      simp [Text.notMem_of_blank hblank hleft, Text.notMem_of_blank hblank hright]
    exact ((Text.infix_append_cons_iff hfree).mp hgroup).imp (⟨hleft, hright, ·⟩)
      (⟨hleft, hright, ·⟩)
  · rintro (h | h)
    · exact h.mono (List.prefix_append s _).isInfix
    · exact h.mono ((List.suffix_cons '.' t).trans (List.suffix_append s _)).isInfix

theorem Selects.bracket_notMem {inner : List Char} {step : Step} (h : Selects inner step) :
    '[' ∉ inner := by
  obtain ⟨left, right, hleft, hright, hinner⟩ := Text.exists_trim inner
  have hblank : Text.isBlank '[' = false := by decide
  have htrim : '[' ∉ Text.trim inner := by
    cases h with
    | broadcast hstar =>
      rw [hstar]
      decide
    | index hwrites _ =>
      intro hmem
      exact absurd (hwrites.isDigit_or_plus '[' hmem) (by decide)
  rw [hinner, List.mem_append, List.mem_append, not_or, not_or]
  exact ⟨Text.notMem_of_blank hblank hleft, htrim, Text.notMem_of_blank hblank hright⟩

theorem selects_broadcast_iff {inner : List Char} :
    Selects inner .broadcast ↔ ∃ left right, (∀ c ∈ left, Text.isBlank c = true) ∧
      (∀ c ∈ right, Text.isBlank c = true) ∧ inner = left ++ '*' :: right := by
  rw [← Text.trim_eq_singleton_iff (by decide)]
  constructor
  · intro h
    cases h with
    | broadcast hstar => exact hstar
  · exact .broadcast

theorem Selects.unique {inner : List Char} {step step' : Step} (h : Selects inner step)
    (h' : Selects inner step') : step = step' := by
  rw [← selector?_eq_some_iff] at h h'
  exact Option.some.inj (h.symm.trans h')

/-- The first group is starred if it selects the broadcast, the others if they are without it. -/
theorem exists_starred_group_iff {inner rest : List Char} {step : Step} (hfree : ']' ∉ inner)
    (hselects : Selects inner step) :
    (∃ left right, Starred ('[' :: (inner ++ ']' :: rest)) left right) ↔
      step = .broadcast ∨ ∃ left right, Starred rest left right := by
  constructor
  · rintro ⟨left, right, hleft, hright, hgroup⟩
    rcases List.infix_cons_iff.mp hgroup with hprefix | hinfix
    · -- both groups start here, and both end at the first closing bracket
      obtain ⟨after, hafter⟩ := (List.cons_prefix_cons.mp hprefix).2
      have hends : (left ++ '*' :: right) ++ ']' :: after = inner ++ ']' :: rest := by
        rw [← hafter]
        simp
      have hblank : Text.isBlank ']' = false := by decide
      have hclosing : ']' ∉ left ++ '*' :: right := by
        simp [Text.notMem_of_blank hblank hleft, Text.notMem_of_blank hblank hright]
      have hinner := Text.eq_of_append_cons_eq hclosing hfree hends
      have hbroadcast := selects_broadcast_iff.mpr ⟨left, right, hleft, hright, hinner.symm⟩
      exact .inl (hselects.unique hbroadcast)
    · have hopen : '[' ∉ inner ++ [']'] := by simp [hselects.bracket_notMem]
      have hsplit : inner ++ ']' :: rest = (inner ++ [']']) ++ rest := by simp
      rw [hsplit] at hinfix
      exact .inr ⟨left, right, hleft, hright, Text.infix_of_notMem hopen hinfix⟩
  · rintro (rfl | ⟨left, right, hstarred⟩)
    · obtain ⟨left, right, hleft, hright, rfl⟩ := selects_broadcast_iff.mp hselects
      exact ⟨left, right, hleft, hright, [], rest, by simp⟩
    · refine ⟨left, right, hstarred.mono ?_⟩
      exact ⟨'[' :: (inner ++ [']']), [], by simp⟩

theorem Groups.broadcast_mem_iff {steps : Path} (h : Groups s steps) :
    .broadcast ∈ steps ↔ ∃ left right, Starred s left right := by
  induction h with
  | nil =>
    refine ⟨fun hmem => absurd hmem List.not_mem_nil, ?_⟩
    rintro ⟨left, right, hstarred⟩
    exact absurd (List.infix_nil.mp hstarred.group) (by simp)
  | group hfree hselects _ ih =>
    rw [exists_starred_group_iff hfree hselects, List.mem_cons, ih, eq_comm]

theorem Segment.broadcast_mem_iff {steps : Path} (h : Segment s steps) :
    .broadcast ∈ steps ↔ ∃ left right, Starred s left right := by
  cases h with
  | keyed hkey hgroups _ => simp [starred_append_iff hkey, hgroups.broadcast_mem_iff]
  | bare _ hgroups => exact hgroups.broadcast_mem_iff

/-- The steps hold a broadcast exactly if a star stands between brackets in the text. -/
theorem Written.broadcast_mem_iff {steps : Path} (h : Written s steps) :
    .broadcast ∈ steps ↔ ∃ left right, Starred s left right := by
  induction h with
  | last _ hsegment => exact hsegment.broadcast_mem_iff
  | more _ hsegment _ ih =>
    rw [List.mem_append, hsegment.broadcast_mem_iff, ih]
    simp only [starred_append_dot_iff, exists_or]

/-! ## Sequences -/

/-- The steps hold a broadcast exactly if there is a value in which they find a sequence. -/
theorem broadcast_mem_iff_sequence (p : Path) :
    .broadcast ∈ p ↔ ∃ v slots, resolve p v = .sequence slots := by
  induction p with
  | nil => simp [resolve]
  | cons step rest ih =>
    cases step with
    | broadcast => exact ⟨fun _ => ⟨.null, _, rfl⟩, fun _ => List.mem_cons_self⟩
    | key name =>
      have hrest : .broadcast ∈ Step.key name :: rest ↔ .broadcast ∈ rest := by simp
      rw [hrest, ih]
      constructor
      · rintro ⟨v, slots, hv⟩
        exact ⟨.object [(name, v)], slots, by simpa [resolve, Json.child?, Entries.get?] using hv⟩
      · rintro ⟨v, slots, hv⟩
        rw [resolve] at hv
        split at hv
        · exact ⟨_, slots, hv⟩
        · exact absurd hv (by simp)
    | index n =>
      have hrest : .broadcast ∈ Step.index n :: rest ↔ .broadcast ∈ rest := by simp
      rw [hrest, ih]
      constructor
      · rintro ⟨v, slots, hv⟩
        refine ⟨.array (List.replicate n .null ++ [v]), slots, ?_⟩
        simpa [resolve, Json.element?] using hv
      · rintro ⟨v, slots, hv⟩
        rw [resolve] at hv
        split at hv
        · exact ⟨_, slots, hv⟩
        · exact absurd hv (by simp)

end Path

/-! ## The search for the mark -/

namespace Placeholder

theorem isBroadcast_iff_starred (p : Placeholder) :
    p.isBroadcast = true ↔ Path.Starred p.path.toList [] [] := by
  rw [isBroadcast, Text.occursIn_iff]
  exact ⟨fun h => ⟨by simp, by simp, h⟩, Path.Starred.group⟩

/-- **The mark of a broadcast and the reader of paths.** Where the path of a placeholder is read, its
steps hold a broadcast exactly if in some value it finds a sequence, and exactly if in its text a star
stands between brackets. A placeholder that is taken for a broadcast is one. The other way round one is
missed exactly if blanks pad every star that stands between brackets. -/
theorem isBroadcast_agrees_iff (p : Placeholder) (steps : Path)
    (h : Path.parse? p.path = some steps) :
    (.broadcast ∈ steps ↔ ∃ root slots, Json.resolve root p.path = .sequence slots) ∧
    (.broadcast ∈ steps ↔ ∃ left right, Path.Starred p.path.toList left right) ∧
    (p.isBroadcast = true → .broadcast ∈ steps) ∧
    ((p.isBroadcast = true ↔ .broadcast ∈ steps) ↔
      ∀ left right, Path.Starred p.path.toList left right → Path.Starred p.path.toList [] []) := by
  have hstarred := (Path.parseChars?_eq_some_iff.mp h).broadcast_mem_iff
  rw [isBroadcast_iff_starred, hstarred]
  refine ⟨?_, Iff.rfl, fun hmark => ⟨[], [], hmark⟩, ?_⟩
  · rw [← hstarred]
    by_cases hempty : p.path = ""
    · rw [hempty] at h ⊢
      obtain rfl : [.key ""] = steps := Option.some.inj h
      simp [Json.resolve]
    · simp only [Json.resolve_of_parse? hempty h]
      exact Path.broadcast_mem_iff_sequence steps
  · constructor
    · intro hagree left right hstar
      exact hagree.mpr ⟨left, right, hstar⟩
    · intro hplain
      refine ⟨fun hmark => ⟨[], [], hmark⟩, ?_⟩
      rintro ⟨left, right, hstar⟩
      exact hplain left right hstar

/-- A placeholder with one star that is padded and one that is not. -/
def twiceStarred : Placeholder := ⟨"users", "pages[2][ * ].tags[*]"⟩

theorem isBroadcast_agrees_iff_twiceStarred :
    Path.parse? twiceStarred.path
        = some [.key "pages", .index 2, .broadcast, .key "tags", .broadcast] ∧
      twiceStarred.isBroadcast = true ∧
      ∃ root slots, Json.resolve root twiceStarred.path = .sequence slots := by
  have hread : Path.parse? twiceStarred.path
      = some [.key "pages", .index 2, .broadcast, .key "tags", .broadcast] := by rfl
  have hmark : twiceStarred.isBroadcast = true := by cbv
  obtain ⟨hsequence, -, hbroadcast, -⟩ := isBroadcast_agrees_iff twiceStarred _ hread
  exact ⟨hread, hmark, hsequence.mp (hbroadcast hmark)⟩

/-- Where blanks pad the only star, the reader sees a broadcast and the search does not. -/
theorem isBroadcast_misses_padded :
    ∃ steps : Path, Path.parse? (parse "users.data[ * ].id").path = some steps ∧
      .broadcast ∈ steps ∧ (parse "users.data[ * ].id").isBroadcast = false := by
  exact ⟨[.key "data", .broadcast, .key "id"], by cbv, by decide, by cbv⟩

end Placeholder

end ApiChain
