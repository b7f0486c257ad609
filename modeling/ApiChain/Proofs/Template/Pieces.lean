import ApiChain.Template.Substitute
import Mathlib.Data.List.TakeWhile

/-!
# The pieces of a template

A scan loses nothing: the pieces of a text, written one after the other, are the text. Filling works on
the pieces one by one, so what becomes of a hole does not depend on what stands around it.

* **`holeAt?_eq_some_iff`** says where a hole starts, and which;
* **`scan_append_of_quiet`, `scan_hole_append`**: how a text is scanned that starts with characters at
  which no hole starts, and one that starts with a hole;
* **`flatMap_chars_scan`**: the pieces are the text;
* **`toList_fill`**: a text that is filled without a scan has no hole;
* **`fill_of_scan`**: what becomes of one hole in a text.
-/

namespace ApiChain.Template

/-! ## Where a hole starts -/

theorem hole_chars_append (inner after : List Char) :
    (Piece.hole inner).chars ++ after = '{' :: '{' :: (inner ++ '}' :: '}' :: after) := by
  simp [Piece.chars]

/-- A hole starts a text if the text goes on with the hole as written: braces around at least one
character, none of them a closing brace. -/
theorem holeAt?_eq_some_iff (s inner : List Char) :
    holeAt? s = some inner ↔
      inner ≠ [] ∧ '}' ∉ inner ∧ ∃ after, s = (Piece.hole inner).chars ++ after := by
  constructor
  · intro h
    unfold holeAt? at h
    split at h
    · rename_i rest
      dsimp only at h
      split at h
      · rename_i after hclose
        split at h
        · exact absurd h (by simp)
        · rename_i hne
          rw [Option.some.injEq] at h
          subst h
          -- what is taken stops at the first closing brace, and another one stands behind it
          have hsplit := List.takeWhile_append_dropWhile (p := (· ≠ '}')) (l := rest)
          rw [hclose] at hsplit
          refine ⟨by simpa using hne, fun hmem => ?_, after, ?_⟩
          · simpa using List.mem_takeWhile_imp hmem
          · rw [hole_chars_append, hsplit]
      · exact absurd h (by simp)
    · exact absurd h (by simp)
  · rintro ⟨hne, hfree, after, rfl⟩
    have hall : ∀ c ∈ inner, (decide (c ≠ '}')) = true := by
      intro c hc
      simpa using fun heq : c = '}' => hfree (heq ▸ hc)
    have htake : (inner ++ '}' :: '}' :: after).takeWhile (· ≠ '}') = inner := by
      rw [List.takeWhile_append_of_pos hall]
      simp
    have hdrop : (inner ++ '}' :: '}' :: after).dropWhile (· ≠ '}') = '}' :: '}' :: after := by
      rw [List.dropWhile_append_of_pos hall]
      simp
    have hempty : inner.isEmpty = false := by simpa using hne
    rw [hole_chars_append]
    simp only [holeAt?, htake, hdrop, hempty, Bool.false_eq_true, if_false]

/-- The text starts with a hole as written. -/
def StartsHole (s : List Char) : Prop :=
  ∃ inner, inner ≠ [] ∧ '}' ∉ inner ∧ (Piece.hole inner).chars <+: s

theorem holeAt?_eq_none_iff (s : List Char) : holeAt? s = none ↔ ¬ StartsHole s := by
  rw [Option.eq_none_iff_forall_ne_some]
  constructor
  · rintro h ⟨inner, hne, hfree, after, rfl⟩
    exact h inner ((holeAt?_eq_some_iff _ _).mpr ⟨hne, hfree, after, rfl⟩)
  · intro h inner heq
    obtain ⟨hne, hfree, after, rfl⟩ := (holeAt?_eq_some_iff _ _).mp heq
    exact h ⟨inner, hne, hfree, List.prefix_append _ _⟩

/-- A hole starts with two opening braces. -/
theorem StartsHole.braces {s : List Char} (h : StartsHole s) : ['{', '{'] <+: s := by
  obtain ⟨inner, -, -, after, rfl⟩ := h
  rw [hole_chars_append]
  exact List.prefix_append ['{', '{'] _

/-! ## Gaps -/

/-- At no place in the gap a hole starts, where the text goes on with `after`. -/
def Quiet (gap after : List Char) : Prop :=
  ∀ rest, rest <:+ gap → rest ≠ [] → ¬ StartsHole (rest ++ after)

theorem quiet_nil (after : List Char) : Quiet [] after := by
  intro rest hrest hne
  exact absurd (List.suffix_nil.mp hrest) hne

theorem quiet_cons_iff {c : Char} {gap after : List Char} :
    Quiet (c :: gap) after ↔ ¬ StartsHole (c :: (gap ++ after)) ∧ Quiet gap after := by
  constructor
  · intro h
    exact ⟨h _ (List.suffix_refl _) (List.cons_ne_nil c gap),
      fun rest hrest => h rest (hrest.trans (List.suffix_cons c gap))⟩
  · rintro ⟨hfirst, hgap⟩ rest hrest hne
    rcases List.suffix_cons_iff.mp hrest with rfl | hrest
    · exact hfirst
    · exact hgap rest hrest hne

/-- No hole starts among characters that are no opening braces. -/
theorem quiet_of_notMem {gap : List Char} (h : '{' ∉ gap) (after : List Char) : Quiet gap after := by
  intro rest hrest hne hstarts
  cases rest with
  | nil => exact hne rfl
  | cons c rest =>
    have hc : '{' = c := (List.cons_prefix_cons.mp hstarts.braces).1
    exact h (hrest.subset (hc ▸ List.mem_cons_self))

/-- No hole starts in a text without two opening braces in a row. -/
theorem quiet_of_no_braces {s : List Char} (h : ¬ ['{', '{'] <:+: s) : Quiet s [] := by
  intro rest hrest _ hstarts
  rw [List.append_nil] at hstarts
  exact h (hstarts.braces.isInfix.trans hrest.isInfix)

theorem scan_cons_of_none {c : Char} {rest : List Char} (h : holeAt? (c :: rest) = none) :
    scan (c :: rest) = .char c :: scan rest := by
  rw [scan, scanFrom, h]
  rfl

theorem scan_cons_of_some {c : Char} {rest inner : List Char}
    (h : holeAt? (c :: rest) = some inner) :
    scan (c :: rest) = .hole inner :: scan (rest.drop (inner.length + 3)) := by
  rw [scan, scanFrom, h, ← scanFrom_eq_scan_drop]

/-- The scan takes a gap character by character. -/
theorem scan_append_of_quiet {gap after : List Char} (h : Quiet gap after) :
    scan (gap ++ after) = gap.map .char ++ scan after := by
  induction gap with
  | nil => rfl
  | cons c rest ih =>
    obtain ⟨hfirst, hrest⟩ := quiet_cons_iff.mp h
    rw [List.cons_append, scan_cons_of_none ((holeAt?_eq_none_iff _).mpr hfirst), ih hrest]
    rfl

/-- The scan takes a hole as one piece. -/
theorem scan_hole_append {inner : List Char} (hne : inner ≠ []) (hfree : '}' ∉ inner)
    (after : List Char) :
    scan ((Piece.hole inner).chars ++ after) = .hole inner :: scan after := by
  have hhole := (holeAt?_eq_some_iff _ _).mpr ⟨hne, hfree, after, rfl⟩
  -- the scan goes on behind the closing braces
  have hrest : ('{' :: (inner ++ '}' :: '}' :: after)).drop (inner.length + 3) = after := by
    rw [List.drop_succ_cons, ← List.drop_drop]
    simp
  rw [hole_chars_append] at hhole ⊢
  rw [scan_cons_of_some hhole, hrest]

/-- Induction along a scan: over the characters at which no hole starts, and hole by hole. -/
theorem scan_induction {motive : List Char → Prop} (nil : motive [])
    (char : ∀ c rest, ¬ StartsHole (c :: rest) → motive rest → motive (c :: rest))
    (hole : ∀ inner after, inner ≠ [] → '}' ∉ inner → motive after →
      motive ((Piece.hole inner).chars ++ after)) : ∀ s, motive s
  | [] => nil
  | c :: rest => by
    by_cases hstarts : StartsHole (c :: rest)
    · obtain ⟨inner, hne, hfree, after, hsplit⟩ := hstarts
      rw [← hsplit]
      exact hole inner after hne hfree (scan_induction nil char hole after)
    · exact char c rest hstarts (scan_induction nil char hole rest)
termination_by s => s.length
decreasing_by
  · rw [← hsplit, List.length_append]
    simp only [Piece.chars, List.length_append, List.length_cons]
    omega
  · simp

/-! ## The pieces are the text -/

theorem flatMap_chars_scan (s : List Char) : (scan s).flatMap Piece.chars = s := by
  induction s using scan_induction with
  | nil => rfl
  | char c rest hstarts ih =>
    rw [scan_cons_of_none ((holeAt?_eq_none_iff _).mpr hstarts), List.flatMap_cons, ih]
    rfl
  | hole inner after hne hfree ih => rw [scan_hole_append hne hfree, List.flatMap_cons, ih]

/-- The holes among some pieces, in order. -/
def holesOf (ps : List Piece) : List (List Char) :=
  ps.filterMap fun
    | .char _ => none
    | .hole inner => some inner

theorem mem_holesOf_iff {inner : List Char} {ps : List Piece} :
    inner ∈ holesOf ps ↔ Piece.hole inner ∈ ps := by
  rw [holesOf, List.mem_filterMap]
  constructor
  · rintro ⟨p, hp, heq⟩
    cases p with
    | char c => simp at heq
    | hole e => rwa [← Option.some.inj heq]
  · intro h
    exact ⟨_, h, rfl⟩

theorem holesOf_append (ps qs : List Piece) : holesOf (ps ++ qs) = holesOf ps ++ holesOf qs :=
  List.filterMap_append

theorem holesOf_hole_cons (inner : List Char) (ps : List Piece) :
    holesOf (.hole inner :: ps) = inner :: holesOf ps := rfl

theorem holesOf_gap (gap : List Char) : holesOf (gap.map .char) = [] := by
  simp [holesOf, List.filterMap_map]

theorem placeholders_eq (text : String) :
    placeholders text = (holesOf (scan text.toList)).map Placeholder.parseChars := by
  rw [placeholders, holesOf, List.map_filterMap]
  congr 1
  funext piece
  cases piece <;> rfl

/-! ## Filled texts -/

/-- A gap stays as it is, whatever is filled in behind it. -/
theorem fillChars_append_of_quiet (payload : Json) (api : String) {gap after : List Char}
    (h : Quiet gap after) :
    fillChars payload api (gap ++ after) = gap ++ fillChars payload api after := by
  have hgap : (gap.map Piece.char).flatMap (fillPiece payload api) = gap := by
    simp [List.flatMap_map, fillPiece]
  rw [fillChars, scan_append_of_quiet h, List.flatMap_append, hgap, fillChars]

/-- A text without two opening braces in a row has no hole, so it may be left unscanned. -/
theorem toList_fill (payload : Json) (api : String) (text : String) :
    (fill payload api text).toList = fillChars payload api text.toList := by
  unfold fill
  split
  · rw [String.toList_ofList]
  · rename_i hnone
    rw [Text.occursIn_iff] at hnone
    have hfilled := fillChars_append_of_quiet payload api (quiet_of_no_braces hnone)
    rw [List.append_nil] at hfilled
    rw [hfilled]
    simp [fillChars, scan, scanFrom]

/-- A filled text is its filled pieces: the hole in the middle, and what comes before and after. -/
theorem fill_of_scan (payload : Json) (api : String) {text : String} {before after : List Piece}
    {piece : Piece} (h : scan text.toList = before ++ piece :: after) :
    (fill payload api text).toList
      = before.flatMap (fillPiece payload api) ++ fillPiece payload api piece
        ++ after.flatMap (fillPiece payload api) := by
  rw [toList_fill, fillChars, h, List.flatMap_append, List.flatMap_cons, List.append_assoc]

end ApiChain.Template
