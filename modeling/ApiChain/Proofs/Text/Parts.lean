/-!
# Parts of a text

A character parts a text at its first place, and a piece without the character lies on one side of every
place of it.
-/

namespace ApiChain.Text

variable {c d : Char} {s t u v : List Char}

/-! ## The first place of a character -/

theorem takeWhile_append_cons (hs : d ∉ s) (t : List Char) :
    (s ++ d :: t).takeWhile (· ≠ d) = s := by
  induction s with
  | nil => exact List.takeWhile_cons_of_neg (by simp)
  | cons c s ih =>
    rw [List.mem_cons, not_or] at hs
    rw [List.cons_append, List.takeWhile_cons_of_pos (by simpa using Ne.symm hs.1), ih hs.2]

theorem dropWhile_append_cons (hs : d ∉ s) (t : List Char) :
    (s ++ d :: t).dropWhile (· ≠ d) = d :: t := by
  induction s with
  | nil => exact List.dropWhile_cons_of_neg (by simp)
  | cons c s ih =>
    rw [List.mem_cons, not_or] at hs
    rw [List.cons_append, List.dropWhile_cons_of_pos (by simpa using Ne.symm hs.1), ih hs.2]

theorem eq_of_append_cons_eq (hs : d ∉ s) (ht : d ∉ t) (h : s ++ d :: u = t ++ d :: v) : s = t := by
  rw [← takeWhile_append_cons hs u, h, takeWhile_append_cons ht v]

/-! ## Pieces -/

/-- A piece that starts with a character lies behind a text without that character. -/
theorem infix_of_notMem (hc : c ∉ s) (h : c :: u <:+: s ++ t) : c :: u <:+: t := by
  induction s with
  | nil => exact h
  | cons e s ih =>
    rw [List.mem_cons, not_or] at hc
    rcases List.infix_cons_iff.mp h with hstart | hbehind
    · exact absurd (List.cons_prefix_cons.mp hstart).1 hc.1
    · exact ih hc.2 hbehind

/-- A piece without the character that starts a text ends before the character. -/
theorem prefix_of_notMem (hd : d ∉ u) (h : u <+: s ++ d :: t) : u <+: s := by
  induction s generalizing u with
  | nil =>
    cases u with
    | nil => exact List.prefix_refl []
    | cons e u =>
      obtain rfl := (List.cons_prefix_cons.mp h).1
      exact absurd List.mem_cons_self hd
  | cons e s ih =>
    cases u with
    | nil => exact List.nil_prefix
    | cons f u =>
      obtain ⟨rfl, hrest⟩ := List.cons_prefix_cons.mp h
      exact List.cons_prefix_cons.mpr ⟨rfl, ih (List.not_mem_of_not_mem_cons hd) hrest⟩

/-- A piece without the character lies on one side of it. -/
theorem infix_append_cons_iff (hd : d ∉ u) :
    u <:+: s ++ d :: t ↔ u <:+: s ∨ u <:+: t := by
  constructor
  · intro h
    induction s with
    | nil =>
      rcases List.infix_cons_iff.mp h with hstart | hbehind
      · exact .inl (prefix_of_notMem (s := []) hd hstart).isInfix
      · exact .inr hbehind
    | cons e s ih =>
      rcases List.infix_cons_iff.mp h with hstart | hbehind
      · exact .inl (prefix_of_notMem hd hstart).isInfix
      · exact (ih hbehind).imp List.infix_cons id
  · rintro (h | h)
    · exact h.trans (List.prefix_append s _).isInfix
    · exact h.trans ((List.suffix_cons d t).trans (List.suffix_append s _)).isInfix

end ApiChain.Text
