import ApiChain.Number.Natural

/-!
# Written whole numbers

A whole number is written with decimal digits, at least one, zeros at the front allowed, and perhaps a
plus sign before them. `ofText?_eq_some_iff` says that these are the texts that are read, up to a bound,
and `writes_decimal` that the decimal digits of a number are one of them.
-/

namespace ApiChain.Number

/-- The text is decimal digits, perhaps behind a plus sign, and stands for the number. -/
def Writes (s : List Char) (n : Nat) : Prop :=
  ∃ digits, (s = digits ∨ s = '+' :: digits) ∧ digits ≠ [] ∧
    (∀ c ∈ digits, c.isDigit = true) ∧ Nat.ofDigitChars 10 digits 0 = n

theorem digitIn?_ten (c : Char) :
    digitIn? 10 c = if c.isDigit = true then some (c.toNat - '0'.toNat) else none := by
  have hdigit : c.isDigit = true ↔ '0' ≤ c ∧ c ≤ '9' := by
    simp [Char.isDigit, Char.le_def]
  have hletter : ∀ a : Char, ¬ c.toNat - a.toNat + 10 < 10 := fun a => by omega
  rw [digitIn?, digitValue?]
  by_cases h : '0' ≤ c ∧ c ≤ '9'
  · have hbelow : c.toNat - '0'.toNat < 10 := by
      have h9 : c.toNat ≤ '9'.toNat := h.2
      have hten : '9'.toNat = '0'.toNat + 9 := rfl
      omega
    rw [if_pos h, if_pos (hdigit.mpr h), Option.filter_some, if_pos (by simpa using hbelow)]
  · rw [if_neg h, if_neg (mt hdigit.mp h)]
    split
    · simp
    · split <;> simp

theorem readDigits_ten_eq_some_iff {s : List Char} {acc n : Nat} :
    readDigits 10 acc s = some n ↔
      (∀ c ∈ s, c.isDigit = true) ∧ Nat.ofDigitChars 10 s acc = n := by
  induction s generalizing acc with
  | nil => simp [readDigits]
  | cons c rest ih =>
    rw [readDigits, digitIn?_ten, List.forall_mem_cons, Nat.ofDigitChars_cons]
    by_cases hc : c.isDigit = true
    · rw [if_pos hc, Option.bind_some, ih, Nat.mul_comm 10 acc]
      simp [hc]
    · simp [hc]

theorem ofDigits?_ten_eq_some_iff {s : List Char} {n : Nat} :
    ofDigits? 10 s = some n ↔
      s ≠ [] ∧ (∀ c ∈ s, c.isDigit = true) ∧ Nat.ofDigitChars 10 s 0 = n := by
  cases s with
  | nil => simp [ofDigits?]
  | cons c rest =>
    have hread : ofDigits? 10 (c :: rest) = readDigits 10 0 (c :: rest) := rfl
    rw [hread, readDigits_ten_eq_some_iff]
    simp

/-- The numbers up to a bound are read from the texts that write them, and from no others. -/
theorem ofText?_eq_some_iff {bound n : Nat} {s : List Char} :
    ofText? bound s = some n ↔ Writes s n ∧ n ≤ bound := by
  have hplus : ¬ '+'.isDigit = true := by decide
  unfold ofText?
  simp only [Option.filter_eq_some_iff, decide_eq_true_eq, and_congr_left_iff,
    ofDigits?_ten_eq_some_iff]
  intro _
  split
  · rename_i rest
    constructor
    · exact fun h => ⟨rest, .inr rfl, h⟩
    · rintro ⟨digits, rfl | h, hdigits⟩
      · exact absurd (hdigits.2.1 '+' List.mem_cons_self) hplus
      · rwa [(List.cons.inj h).2]
  · rename_i hsign
    constructor
    · exact fun h => ⟨s, .inl rfl, h⟩
    · rintro ⟨digits, rfl | h, hdigits⟩
      · exact hdigits
      · exact absurd h (hsign digits)

theorem writes_decimal (n : Nat) : Writes (decimal n) n :=
  ⟨decimal n, .inl rfl, Nat.toDigits_ne_nil,
    fun _ hc => Nat.isDigit_of_mem_toDigits (by decide) (by decide) hc,
    Nat.ofDigitChars_toDigits (by decide) (by decide)⟩

/-- What writes a number is digits and a plus sign. -/
theorem Writes.isDigit_or_plus {s : List Char} {n : Nat} (h : Writes s n) :
    ∀ c ∈ s, c.isDigit = true ∨ c = '+' := by
  obtain ⟨digits, rfl | rfl, -, hdigits, -⟩ := h
  · exact fun c hc => .inl (hdigits c hc)
  · intro c hc
    rcases List.mem_cons.mp hc with rfl | hc
    · exact .inr rfl
    · exact .inl (hdigits c hc)

end ApiChain.Number
