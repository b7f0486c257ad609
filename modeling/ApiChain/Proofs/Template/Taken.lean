import ApiChain.Proofs.Template.Passes

/-!
# Where a scan takes a hole

A hole as written need not be one of the holes of its text: an opening pair of braces before it may
still wait for its closing pair, and then a hole starts there and reaches over it. A text in which no
pair waits is settled, and behind a settled text every hole as written is taken.

* **`takesHole_iff`** says where a scan takes a hole, without the scan;
* **`containsBroadcast_iff`**: the search for a broadcast looks at the holes that a scan takes.
-/

namespace ApiChain.Template

/-- The scan of a text takes a hole with `inner` in it, and `before` is what stands before the hole. -/
def TakesHole (s before inner : List Char) : Prop :=
  ∃ ps qs, scan s = ps ++ .hole inner :: qs ∧ ps.flatMap Piece.chars = before

/-! ## Settled texts -/

/-- No pair of opening braces in the text waits for a closing brace. A single brace at the end is
ready to be one of a pair, so the text is looked at with one more brace behind it. -/
def Settled (s : List Char) : Prop :=
  ∀ before after, s ++ ['{'] = before ++ '{' :: '{' :: after → '}' ∈ after

theorem settled_nil : Settled [] := by
  intro before after h
  have hlength := congrArg List.length h
  simp only [List.nil_append, List.length_append, List.length_cons, List.length_nil] at hlength
  omega

theorem settled_cons_iff {c : Char} {s : List Char} :
    Settled (c :: s) ↔
      Settled s ∧ ∀ after, c = '{' → s ++ ['{'] = '{' :: after → '}' ∈ after := by
  constructor
  · intro h
    refine ⟨fun before after hs => h (c :: before) after (congrArg (List.cons c) hs), ?_⟩
    rintro after rfl hs
    exact h [] after (congrArg (List.cons '{') hs)
  · rintro ⟨hs, hfirst⟩ before after h
    cases before with
    | nil => exact hfirst after (List.cons.inj h).1 (List.cons.inj h).2
    | cons d before => exact hs before after (List.cons.inj h).2

theorem settled_of_notMem {s : List Char} (h : '{' ∉ s) : Settled s := by
  induction s with
  | nil => exact settled_nil
  | cons c s ih =>
    rw [List.mem_cons, not_or] at h
    exact settled_cons_iff.mpr ⟨ih h.2, fun _ hc => absurd hc.symm h.1⟩

/-- A closing brace settles all that stands before it. -/
theorem settled_append_closing (u t : List Char) : Settled (u ++ '}' :: t) ↔ Settled t := by
  induction u with
  | nil =>
    rw [List.nil_append, settled_cons_iff]
    exact ⟨And.left, fun h => ⟨h, fun _ hc => absurd hc (by decide)⟩⟩
  | cons c u ih =>
    rw [List.cons_append, settled_cons_iff, ih]
    refine ⟨And.left, fun h => ⟨h, fun after _ heq => ?_⟩⟩
    cases u with
    | nil => exact absurd (List.cons.inj heq).1 (by decide)
    | cons d u =>
      rw [← (List.cons.inj heq).2]
      simp

theorem settled_hole_append (inner t : List Char) :
    Settled ((Piece.hole inner).chars ++ t) ↔ Settled t := by
  have hclosing : (Piece.hole inner).chars ++ t = ('{' :: '{' :: inner ++ ['}']) ++ '}' :: t := by
    simp [Piece.chars]
  rw [hclosing, settled_append_closing]

/-- Where a hole stands behind a text that is not settled at its first character, a hole starts there
already. -/
theorem startsHole_of_waiting {after inner rest : List Char} (hafter : '}' ∉ after)
    (hfree : '}' ∉ inner) :
    StartsHole ('{' :: '{' :: (after ++ '{' :: (inner ++ '}' :: '}' :: rest))) := by
  refine ⟨after ++ '{' :: inner, by simp, by simp [hafter, hfree], rest, ?_⟩
  simp [Piece.chars]

/-! ## The holes that are taken -/

/-- A hole as written, behind a settled text. -/
structure Stands (s before inner : List Char) : Prop where
  ne_nil : inner ≠ []
  free : '}' ∉ inner
  settled : Settled before
  text : ∃ after, s = before ++ (Piece.hole inner).chars ++ after

theorem takesHole_char_iff {c : Char} {rest : List Char} (hstarts : ¬ StartsHole (c :: rest))
    (before inner : List Char) :
    TakesHole (c :: rest) before inner ↔
      ∃ more, before = c :: more ∧ TakesHole rest more inner := by
  rw [TakesHole, scan_cons_of_none ((holeAt?_eq_none_iff _).mpr hstarts)]
  constructor
  · rintro ⟨ps, qs, hscan, rfl⟩
    cases ps with
    | nil => simp at hscan
    | cons p ps =>
      obtain ⟨rfl, hrest⟩ := List.cons.inj hscan
      exact ⟨_, rfl, ps, qs, hrest, rfl⟩
  · rintro ⟨_, rfl, ps, qs, hscan, rfl⟩
    exact ⟨.char c :: ps, qs, congrArg (List.cons (Piece.char c)) hscan, rfl⟩

theorem takesHole_hole_iff {e : List Char} (hne : e ≠ []) (hfree : '}' ∉ e)
    (rest before inner : List Char) :
    TakesHole ((Piece.hole e).chars ++ rest) before inner ↔
      (before = [] ∧ inner = e) ∨
        ∃ more, before = (Piece.hole e).chars ++ more ∧ TakesHole rest more inner := by
  rw [TakesHole, scan_hole_append hne hfree]
  constructor
  · rintro ⟨ps, qs, hscan, rfl⟩
    cases ps with
    | nil =>
      obtain ⟨hhole, -⟩ := List.cons.inj hscan
      exact .inl ⟨rfl, (Piece.hole.inj hhole).symm⟩
    | cons p ps =>
      obtain ⟨rfl, hrest⟩ := List.cons.inj hscan
      exact .inr ⟨_, rfl, ps, qs, hrest, rfl⟩
  · rintro (⟨rfl, rfl⟩ | ⟨_, rfl, ps, qs, hscan, rfl⟩)
    · exact ⟨[], _, rfl, rfl⟩
    · exact ⟨.hole e :: ps, qs, congrArg (List.cons (Piece.hole e)) hscan, rfl⟩

theorem stands_char_iff {c : Char} {rest : List Char} (hstarts : ¬ StartsHole (c :: rest))
    (before inner : List Char) :
    Stands (c :: rest) before inner ↔ ∃ more, before = c :: more ∧ Stands rest more inner := by
  constructor
  · rintro ⟨hne, hfree, hsettled, after, htext⟩
    cases before with
    | nil =>
      rw [List.nil_append] at htext
      exact absurd ⟨inner, hne, hfree, after, htext.symm⟩ hstarts
    | cons d more =>
      obtain ⟨rfl, hrest⟩ := List.cons.inj htext
      exact ⟨more, rfl, hne, hfree, (settled_cons_iff.mp hsettled).1, after, hrest⟩
  · rintro ⟨more, rfl, hne, hfree, hsettled, after, rfl⟩
    refine ⟨hne, hfree, settled_cons_iff.mpr ⟨hsettled, ?_⟩, after, rfl⟩
    rintro waiting rfl hwaiting
    by_contra hclosing
    -- the pair of braces and the hole behind it make a hole of their own
    apply hstarts
    have htext : more ++ (Piece.hole inner).chars ++ after
        = (more ++ ['{']) ++ '{' :: (inner ++ '}' :: '}' :: after) := by
      simp [Piece.chars]
    rw [htext, hwaiting]
    exact startsHole_of_waiting hclosing hfree

theorem stands_hole_iff {e : List Char} (hne : e ≠ []) (hfree : '}' ∉ e)
    (rest before inner : List Char) :
    Stands ((Piece.hole e).chars ++ rest) before inner ↔
      (before = [] ∧ inner = e) ∨
        ∃ more, before = (Piece.hole e).chars ++ more ∧ Stands rest more inner := by
  constructor
  · rintro ⟨hne', hfree', hsettled, after, htext⟩
    rw [List.append_assoc] at htext
    by_cases hbefore : before = []
    · left
      subst hbefore
      rw [List.nil_append] at htext
      have hfirst := (holeAt?_eq_some_iff _ _).mpr ⟨hne, hfree, rest, rfl⟩
      have hsecond := (holeAt?_eq_some_iff _ _).mpr ⟨hne', hfree', after, htext⟩
      rw [hfirst, Option.some.injEq] at hsecond
      exact ⟨rfl, hsecond.symm⟩
    · right
      rcases List.append_eq_append_iff.mp htext with ⟨more, rfl, hrest⟩ | ⟨u, hu, hrest⟩
      · refine ⟨more, rfl, hne', hfree', (settled_hole_append e more).mp hsettled, after, ?_⟩
        rw [hrest, List.append_assoc]
      · -- the hole that starts the text would reach over the end of a settled text
        rcases hole_chars_parted hfree hbefore hu with (rfl | ⟨t, rfl⟩) | rfl | ⟨w, rfl, hw⟩
        · refine ⟨[], ?_, hne', hfree', settled_nil, after, ?_⟩
          · rw [hu, List.append_nil, List.append_nil]
          · rw [List.nil_append, hrest, List.nil_append]
        · rw [hole_chars_append] at hrest
          exact absurd (List.cons.inj hrest).1 (by decide)
        · exact absurd (hsettled [] [] rfl) (List.not_mem_nil)
        · have hclosing := hsettled [] (w ++ ['{']) rfl
          exact absurd hclosing (by simp [hw])
  · rintro (⟨rfl, rfl⟩ | ⟨more, rfl, hne', hfree', hsettled, after, rfl⟩)
    · exact ⟨hne, hfree, settled_nil, rest, by rw [List.nil_append]⟩
    · refine ⟨hne', hfree', (settled_hole_append e more).mpr hsettled, after, ?_⟩
      rw [List.append_assoc, List.append_assoc, List.append_assoc]

/-- A scan takes a hole wherever one is written behind a settled text, and nowhere else. -/
theorem takesHole_iff (s before inner : List Char) :
    TakesHole s before inner ↔ Stands s before inner := by
  -- both sides go along the scan in the same way
  induction s using scan_induction generalizing before with
  | nil =>
    constructor
    · rintro ⟨ps, qs, hscan, -⟩
      simp [scan, scanFrom] at hscan
    · rintro ⟨-, -, -, after, htext⟩
      simp [Piece.chars] at htext
  | char c rest hstarts ih =>
    rw [takesHole_char_iff hstarts, stands_char_iff hstarts]
    simp only [ih]
  | hole e rest hne hfree ih =>
    rw [takesHole_hole_iff hne hfree, stands_hole_iff hne hfree]
    simp only [ih]

/-! ## Broadcasts -/

/-- What stands in the hole is a broadcast over the response of the call. -/
def BroadcastsOver (inner : List Char) (api : String) : Prop :=
  (Placeholder.parseChars inner).api = api ∧ (Placeholder.parseChars inner).isBroadcast = true

/-- The scan of a text takes a hole behind `before` that is a broadcast over the response of the
call. -/
structure HoldsBroadcast (s before inner : List Char) (api : String) : Prop where
  takes : TakesHole s before inner
  broadcasts : BroadcastsOver inner api

theorem mem_holesOf_scan_iff (s inner : List Char) :
    inner ∈ holesOf (scan s) ↔ ∃ before, TakesHole s before inner := by
  rw [mem_holesOf_iff, List.mem_iff_append]
  constructor
  · rintro ⟨ps, qs, hscan⟩
    exact ⟨_, ps, qs, hscan, rfl⟩
  · rintro ⟨_, ps, qs, hscan, -⟩
    exact ⟨ps, qs, hscan⟩

theorem containsBroadcast_iff (text api : String) :
    containsBroadcast text api = true ↔
      ∃ before inner, HoldsBroadcast text.toList before inner api := by
  simp only [containsBroadcast, placeholders_eq, List.any_map, List.any_eq_true,
    Function.comp_apply, Bool.and_eq_true, beq_iff_eq, mem_holesOf_scan_iff]
  constructor
  · rintro ⟨inner, ⟨before, htakes⟩, hover⟩
    exact ⟨before, inner, htakes, hover⟩
  · rintro ⟨before, inner, htakes, hover⟩
    exact ⟨inner, ⟨before, htakes⟩, hover⟩

end ApiChain.Template
