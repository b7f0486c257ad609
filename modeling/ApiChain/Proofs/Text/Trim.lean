import ApiChain.Text.Blank
import Mathlib.Data.List.DropRight

/-!
# Trimmed texts

Trimming takes blanks from the two ends of a text and stops at a character that is no blank.
`trimStart_append_cons` and `trimEnd_append_cons` say where it stops, and `exists_trim` what it takes.
-/

namespace ApiChain.Text

theorem trimStart_append_cons {c : Char} (hc : isBlank c = false) (s t : List Char) :
    trimStart (s ++ c :: t) = trimStart s ++ c :: t := by
  have hkept : (c :: t).dropWhile isBlank = c :: t := List.dropWhile_cons_of_neg (by simp [hc])
  rw [trimStart, List.dropWhile_append, hkept]
  split
  · rename_i hblank
    rw [trimStart, List.isEmpty_iff.mp hblank, List.nil_append]
  · rfl

theorem trimEnd_append_cons {c : Char} (hc : isBlank c = false) (s t : List Char) :
    trimEnd (s ++ c :: t) = s ++ c :: trimEnd t := by
  have hreverse : (s ++ c :: t).reverse = t.reverse ++ c :: s.reverse := by simp
  rw [trimEnd, hreverse, ← trimStart, trimStart_append_cons hc, trimStart, trimEnd]
  simp

theorem trimStart_isSuffix (s : List Char) : trimStart s <:+ s := List.dropWhile_suffix isBlank

theorem trimEnd_isPrefix (s : List Char) : trimEnd s <+: s := List.rdropWhile_prefix isBlank s

theorem mem_of_mem_trim {c : Char} {s : List Char} (h : c ∈ trim s) : c ∈ s :=
  (trimStart_isSuffix s).subset ((trimEnd_isPrefix _).subset h)

theorem trimStart_of_blank {s : List Char} (h : ∀ c ∈ s, isBlank c = true) : trimStart s = [] :=
  List.dropWhile_eq_nil_iff.mpr h

theorem trimEnd_of_blank {s : List Char} (h : ∀ c ∈ s, isBlank c = true) : trimEnd s = [] :=
  List.rdropWhile_eq_nil_iff.mpr h

theorem notMem_of_blank {c : Char} (hc : isBlank c = false) {s : List Char}
    (h : ∀ x ∈ s, isBlank x = true) : c ∉ s := by
  intro hmem
  rw [h c hmem] at hc
  exact absurd hc (by decide)

/-- Trimming takes blanks and nothing else. -/
theorem exists_trim (s : List Char) :
    ∃ left right, (∀ c ∈ left, isBlank c = true) ∧ (∀ c ∈ right, isBlank c = true) ∧
      s = left ++ (trim s ++ right) := by
  have hblank : ∀ t : List Char, ∀ c ∈ t.takeWhile isBlank, isBlank c = true :=
    fun _ _ hc => List.mem_takeWhile_imp hc
  refine ⟨s.takeWhile isBlank, ((trimStart s).reverse.takeWhile isBlank).reverse, hblank s, ?_, ?_⟩
  · intro c hc
    exact hblank _ c (List.mem_reverse.mp hc)
  · rw [trim, trimEnd, ← List.reverse_append, List.takeWhile_append_dropWhile, List.reverse_reverse,
      trimStart, List.takeWhile_append_dropWhile]

/-- A text without blanks is trimmed. -/
theorem trim_eq_self {s : List Char} (h : ∀ c ∈ s, isBlank c = false) : trim s = s := by
  obtain ⟨left, right, hleft, hright, hs⟩ := exists_trim s
  have hnone : ∀ t : List Char, (∀ c ∈ t, isBlank c = true) → (∀ c ∈ t, c ∈ s) → t = [] := by
    intro t hblank hmem
    refine List.eq_nil_iff_forall_not_mem.mpr fun c hc => ?_
    exact absurd (hblank c hc) (by simp [h c (hmem c hc)])
  have hleft' : left = [] := hnone left hleft fun c hc => by rw [hs]; simp [hc]
  have hright' : right = [] := hnone right hright fun c hc => by rw [hs]; simp [hc]
  rw [hleft', hright', List.nil_append, List.append_nil] at hs
  exact hs.symm

/-- A text is trimmed to a single character that is no blank if there are blanks around it. -/
theorem trim_eq_singleton_iff {c : Char} (hc : isBlank c = false) (s : List Char) :
    trim s = [c] ↔ ∃ left right, (∀ x ∈ left, isBlank x = true) ∧
      (∀ x ∈ right, isBlank x = true) ∧ s = left ++ c :: right := by
  constructor
  · intro h
    obtain ⟨left, right, hleft, hright, hs⟩ := exists_trim s
    rw [h] at hs
    exact ⟨left, right, hleft, hright, hs⟩
  · rintro ⟨left, right, hleft, hright, rfl⟩
    rw [trim, trimStart_append_cons hc, trimEnd_append_cons hc, trimStart_of_blank hleft,
      trimEnd_of_blank hright, List.nil_append]

theorem isBlank_of_isDigit {c : Char} (h : c.isDigit = true) : isBlank c = false := by
  have hrange : 48 ≤ c.toNat ∧ c.toNat ≤ 57 := by
    simpa [Char.isDigit, UInt32.le_iff_toNat_le] using h
  cases hblank : isBlank c with
  | false => rfl
  | true =>
    simp only [isBlank, Bool.or_eq_true, Bool.and_eq_true, decide_eq_true_eq, beq_iff_eq] at hblank
    omega

end ApiChain.Text
