/-!
# Cutting texts apart

Pieces between separators, the first cut, and the search for a text inside another one, all on lists of
characters. `splitOn_append_cons` and `splitOn_append_of_notMem` say where the pieces begin and end,
`splitOnce_eq` where the first cut is, and `occursIn_iff` what the search finds.
-/

namespace ApiChain.Text

/-- The pieces between the separators; `n` separators give `n + 1` pieces. -/
def splitOn (sep : Char) : List Char → List (List Char)
  | [] => [[]]
  | c :: rest =>
    if c = sep then [] :: splitOn sep rest
    else
      match splitOn sep rest with
      | [] => [[c]]
      | piece :: pieces => (c :: piece) :: pieces

theorem splitOn_ne_nil (sep : Char) (s : List Char) : splitOn sep s ≠ [] := by
  cases s with
  | nil => simp [splitOn]
  | cons c rest =>
    by_cases h : c = sep
    · simp [splitOn, h]
    · simp only [splitOn, h, if_false]
      split <;> simp

/-- A separator between two texts parts their pieces. -/
theorem splitOn_append_cons (sep : Char) (s t : List Char) :
    splitOn sep (s ++ sep :: t) = splitOn sep s ++ splitOn sep t := by
  induction s with
  | nil => simp [splitOn]
  | cons c rest ih =>
    by_cases h : c = sep
    · simp [splitOn, h, ih]
    · cases hp : splitOn sep rest with
      | nil => exact absurd hp (splitOn_ne_nil sep rest)
      | cons piece pieces => simp [splitOn, h, ih, hp]

/-- A text without the separator goes to the first piece of the text behind it. -/
theorem splitOn_append_of_notMem {sep : Char} {s : List Char} (h : sep ∉ s) (t : List Char) :
    ∃ piece pieces, splitOn sep t = piece :: pieces ∧
      splitOn sep (s ++ t) = (s ++ piece) :: pieces := by
  induction s with
  | nil =>
    cases hp : splitOn sep t with
    | nil => exact absurd hp (splitOn_ne_nil sep t)
    | cons piece pieces => exact ⟨piece, pieces, rfl, hp⟩
  | cons c rest ih =>
    rw [List.mem_cons, not_or] at h
    obtain ⟨piece, pieces, ht, hrest⟩ := ih h.2
    exact ⟨piece, pieces, ht, by simp [splitOn, Ne.symm h.1, hrest]⟩

/-- The text before the first separator and the text after it, if there is one. -/
def splitOnce (sep : Char) : List Char → Option (List Char × List Char)
  | [] => none
  | c :: rest =>
    if c = sep then some ([], rest)
    else (splitOnce sep rest).map fun (before, after) => (c :: before, after)

theorem splitOnce_eq (sep : Char) (s : List Char) :
    splitOnce sep s
      = if sep ∈ s then some (s.takeWhile (· ≠ sep), (s.dropWhile (· ≠ sep)).tail) else none := by
  induction s with
  | nil => rfl
  | cons c rest ih =>
    by_cases hc : c = sep
    · simp [splitOnce, hc]
    · rw [splitOnce, if_neg hc, ih]
      by_cases hmem : sep ∈ rest
      · simp [hc, hmem]
      · simp [hmem, Ne.symm hc]

/-- Whether `needle` stands somewhere in the text. -/
def occursIn (needle : List Char) : List Char → Bool
  | [] => needle.isEmpty
  | c :: rest => needle.isPrefixOf (c :: rest) || occursIn needle rest

theorem occursIn_iff (needle s : List Char) : occursIn needle s = true ↔ needle <:+: s := by
  induction s with
  | nil => simp [occursIn]
  | cons c rest ih =>
    rw [occursIn, Bool.or_eq_true, List.isPrefixOf_iff_prefix, ih, List.infix_cons_iff]

/-- The texts with a separator between each two. -/
def joinWith (sep : List Char) (pieces : List (List Char)) : List Char :=
  List.intercalate sep pieces

end ApiChain.Text
