import ApiChain.Table.Delimited

/-!
# Reading delimited text

A reader for the format that `Delimited.encode` writes, character by character. Rows end at a line
break and cells at a delimiter, unless they stand between quotes; a cell that starts with a quote runs
to the quote that closes it, and two quotes inside it stand for one. Everything else, a carriage return
too, stands for itself. A quoted cell that is never closed, or that goes on after its closing quote, is
refused.

* **`readFrom_encodeCell`** runs the reader over one written cell, for any text after it that ends the
  cell;
* **`readFrom_encodeRow`** and **`readFrom_encode`** build rows and the table from it.
-/

namespace ApiChain.Delimited

/-- Rows of cells. -/
abbrev Cells := List (List (List Char))

/-- Where the reader stands in a cell. -/
inductive Mode where
  /-- Before its first character. -/
  | start
  /-- Inside, without quotes around the cell. -/
  | bare
  /-- Inside, between quotes. -/
  | quoted
  /-- After a quote between quotes, which closes the cell or is the first of two. -/
  | closing
deriving DecidableEq

/-- Puts a character in front of the first cell. -/
def consChar (c : Char) : Cells → Cells
  | (cell :: row) :: rows => ((c :: cell) :: row) :: rows
  | table => table

/-- Puts an empty cell in front of the first row. -/
def consCell : Cells → Cells
  | row :: rows => ([] :: row) :: rows
  | [] => []

/-- Puts a row with one empty cell in front. -/
def consRow (table : Cells) : Cells := [[]] :: table

/-- What a character does outside quotes: it ends a cell or a row, or it does something else. -/
def separatorOr (delimiter c : Char) (other : Option (Mode × (Cells → Cells))) :
    Option (Mode × (Cells → Cells)) :=
  if c = delimiter then some (.start, consCell)
  else if c = '\n' then some (.start, consRow)
  else other

/-- The mode after a character, and what the character adds to the table that the rest of the text
holds. -/
def step (delimiter : Char) : Mode → Char → Option (Mode × (Cells → Cells))
  | .start, c =>
    separatorOr delimiter c (some (if c = '"' then (.quoted, id) else (.bare, consChar c)))
  | .bare, c => separatorOr delimiter c (some (.bare, consChar c))
  | .quoted, c => some (if c = '"' then (.closing, id) else (.quoted, consChar c))
  | .closing, c => separatorOr delimiter c (if c = '"' then some (.quoted, consChar c) else none)

/-- The table that a text holds, read from inside a cell. Its first cell is what the text adds to that
cell. -/
def readFrom (delimiter : Char) (mode : Mode) : List Char → Option Cells
  | [] => if mode = .quoted then none else some [[[]]]
  | c :: rest =>
    (step delimiter mode c).bind fun (next, add) => (readFrom delimiter next rest).map add

/-- The table that a text holds. -/
def read (delimiter : Char) (text : String) : Option (List (List String)) :=
  (readFrom delimiter .start text.toList).map fun table => table.map fun row =>
    row.map String.ofList

/-! ## One character -/

section Characters

variable {delimiter c : Char} {mode next : Mode} {add : Cells → Cells}

theorem readFrom_cons (h : step delimiter mode c = some (next, add)) (rest : List Char) :
    readFrom delimiter mode (c :: rest) = (readFrom delimiter next rest).map add := by
  rw [readFrom, h]
  rfl

/-- Outside quotes the delimiter ends the cell. -/
theorem step_delimiter (h : mode ≠ .quoted) :
    step delimiter mode delimiter = some (.start, consCell) := by
  cases mode with
  | quoted => exact absurd rfl h
  | start | bare | closing => exact if_pos rfl

/-- Outside quotes a line break ends the row. -/
theorem step_break (h : mode ≠ .quoted) (hbreak : delimiter ≠ '\n') :
    step delimiter mode '\n' = some (.start, consRow) := by
  cases mode with
  | quoted => exact absurd rfl h
  | start | bare | closing => exact (if_neg (Ne.symm hbreak)).trans (if_pos rfl)

/-- A character that is no separator is left to its mode. -/
theorem separatorOr_other (hd : c ≠ delimiter) (hn : c ≠ '\n')
    (other : Option (Mode × (Cells → Cells))) : separatorOr delimiter c other = other := by
  unfold separatorOr
  rw [if_neg hd, if_neg hn]

end Characters

/-! ## Cells -/

/-- Puts characters in front of the first cell. -/
def consChars (cell : List Char) (table : Cells) : Cells := cell.foldr consChar table

theorem consChars_cons_cons (cell first : List Char) (row : List (List Char)) (rows : Cells) :
    consChars cell ((first :: row) :: rows) = ((cell ++ first) :: row) :: rows := by
  induction cell with
  | nil => rfl
  | cons c rest ih =>
    show consChar c (consChars rest ((first :: row) :: rows)) = _
    rw [ih]
    rfl

theorem map_consChar_consChars (c : Char) (cell : List Char) (table : Option Cells) :
    (table.map (consChars cell)).map (consChar c) = table.map (consChars (c :: cell)) := by
  rw [Option.map_map]
  rfl

/-- The text ends the cell before it: it is empty, or starts with a delimiter or a line break. -/
def EndsCell (delimiter : Char) (text : List Char) : Prop :=
  text = [] ∨ ∃ c rest, text = c :: rest ∧ (c = delimiter ∨ c = '\n')

section Cells

variable {delimiter : Char} {text : List Char}

/-- Where a cell ends, it does not matter how far the reader was in it. -/
theorem readFrom_of_endsCell (hbreak : delimiter ≠ '\n') (h : EndsCell delimiter text) {mode : Mode}
    (hmode : mode ≠ .quoted) :
    readFrom delimiter mode text = readFrom delimiter .bare text := by
  have hbare : Mode.bare ≠ .quoted := by decide
  rcases h with rfl | ⟨c, rest, rfl, rfl | rfl⟩
  · unfold readFrom
    rw [if_neg hmode, if_neg hbare]
  · rw [readFrom_cons (step_delimiter hmode), readFrom_cons (step_delimiter hbare)]
  · rw [readFrom_cons (step_break hmode hbreak), readFrom_cons (step_break hbare hbreak)]

theorem needsQuotes_cons {c : Char} {cell : List Char}
    (h : needsQuotes delimiter (c :: cell) = false) :
    c ≠ delimiter ∧ c ≠ '"' ∧ c ≠ '\n' ∧ needsQuotes delimiter cell = false := by
  simp only [needsQuotes, List.any_cons, Bool.or_eq_false_iff, beq_eq_false_iff_ne] at h
  obtain ⟨⟨⟨hd, hq⟩, hn⟩, hrest⟩ := h
  exact ⟨hd, hq, hn, hrest⟩

/-- A cell that needs no quotes is read as it stands. -/
theorem readFrom_bare_append {cell : List Char} (h : needsQuotes delimiter cell = false) :
    readFrom delimiter .bare (cell ++ text)
      = (readFrom delimiter .bare text).map (consChars cell) := by
  induction cell with
  | nil => exact Option.map_id'.symm
  | cons c rest ih =>
    obtain ⟨hd, -, hn, hrest⟩ := needsQuotes_cons h
    have hstep : step delimiter .bare c = some (.bare, consChar c) := separatorOr_other hd hn _
    rw [List.cons_append, readFrom_cons hstep, ih hrest, map_consChar_consChars]

/-- Between quotes the doubled quotes are read as one, up to the closing quote. -/
theorem readFrom_quoted_append (hquote : delimiter ≠ '"') (cell : List Char) :
    readFrom delimiter .quoted (doubleQuotes cell ++ '"' :: text)
      = (readFrom delimiter .closing text).map (consChars cell) := by
  have hclose : step delimiter .quoted '"' = some (.closing, id) := rfl
  induction cell with
  | nil =>
    show readFrom delimiter .quoted ('"' :: text) = _
    exact readFrom_cons hclose text
  | cons c rest ih =>
    by_cases hc : c = '"'
    · -- a quote of the cell is written twice: the first closes, the second opens again
      subst hc
      have hdouble : doubleQuotes ('"' :: rest) = '"' :: '"' :: doubleQuotes rest := by
        simp [doubleQuotes]
      have hagain : step delimiter .closing '"' = some (.quoted, consChar '"') :=
        separatorOr_other (Ne.symm hquote) (by decide) _
      rw [hdouble, List.cons_append, List.cons_append, readFrom_cons hclose, readFrom_cons hagain,
        ih, map_consChar_consChars, Option.map_id]
      rfl
    · have hsingle : doubleQuotes (c :: rest) = c :: doubleQuotes rest := by
        simp [doubleQuotes, hc]
      have hstep : step delimiter .quoted c = some (.quoted, consChar c) := by
        simp [step, hc]
      rw [hsingle, List.cons_append, readFrom_cons hstep, ih, map_consChar_consChars]

/-- **A written cell is read back**, whatever stands after it, as long as that ends the cell. -/
theorem readFrom_encodeCell (hquote : delimiter ≠ '"') (hbreak : delimiter ≠ '\n')
    (cell : List Char) (h : EndsCell delimiter text) :
    readFrom delimiter .start (encodeCell delimiter cell ++ text)
      = (readFrom delimiter .bare text).map (consChars cell) := by
  cases hneeds : needsQuotes delimiter cell with
  | true =>
    have hwritten : encodeCell delimiter cell ++ text
        = '"' :: (doubleQuotes cell ++ '"' :: text) := by
      simp [encodeCell, hneeds]
    have hopen : step delimiter .start '"' = some (.quoted, id) :=
      separatorOr_other (Ne.symm hquote) (by decide) _
    rw [hwritten, readFrom_cons hopen, readFrom_quoted_append hquote,
      readFrom_of_endsCell hbreak h (by decide), Option.map_id]
    rfl
  | false =>
    -- no quotes, and no quote at the start that the reader could take for an opening one
    have hwritten : encodeCell delimiter cell = cell := by simp [encodeCell, hneeds]
    rw [hwritten]
    cases cell with
    | nil =>
      rw [List.nil_append, readFrom_of_endsCell hbreak h (by decide)]
      exact Option.map_id'.symm
    | cons c rest =>
      obtain ⟨hd, hq, hn, hrest⟩ := needsQuotes_cons hneeds
      have hstep : step delimiter .start c = some (.bare, consChar c) := by
        rw [step, separatorOr_other hd hn, if_neg hq]
      rw [List.cons_append, readFrom_cons hstep, readFrom_bare_append hrest,
        map_consChar_consChars]

end Cells

/-! ## Rows and tables -/

theorem encodeRow_singleton (delimiter : Char) (cell : List Char) :
    encodeRow delimiter [cell] = encodeCell delimiter cell := by
  unfold encodeRow Text.joinWith
  rw [List.map_singleton, List.intercalate_singleton]

theorem encodeRow_cons_cons (delimiter : Char) (cell next : List Char) (more : List (List Char)) :
    encodeRow delimiter (cell :: next :: more)
      = encodeCell delimiter cell ++ delimiter :: encodeRow delimiter (next :: more) := by
  unfold encodeRow Text.joinWith
  rw [List.map_cons, List.map_cons, List.intercalate_cons_cons, List.append_assoc,
    List.singleton_append]

theorem encode_singleton (delimiter : Char) (row : List (List Char)) :
    encode delimiter [row] = encodeRow delimiter row := by
  unfold encode Text.joinWith
  rw [List.map_singleton, List.intercalate_singleton]

theorem encode_cons_cons (delimiter : Char) (row next : List (List Char)) (later : Cells) :
    encode delimiter (row :: next :: later)
      = encodeRow delimiter row ++ '\n' :: encode delimiter (next :: later) := by
  unfold encode Text.joinWith
  rw [List.map_cons, List.map_cons, List.intercalate_cons_cons, List.append_assoc,
    List.singleton_append]

section Rows

variable {delimiter : Char}

/-- A written row is read back in front of the rows that the text after it holds. -/
theorem readFrom_encodeRow (hquote : delimiter ≠ '"') (hbreak : delimiter ≠ '\n')
    {text : List Char} {rows : Cells} (hrows : readFrom delimiter .bare text = some ([[]] :: rows))
    (hends : EndsCell delimiter text) (cell : List Char) (row : List (List Char)) :
    readFrom delimiter .start (encodeRow delimiter (cell :: row) ++ text)
      = some ((cell :: row) :: rows) := by
  induction row generalizing cell with
  | nil =>
    rw [encodeRow_singleton, readFrom_encodeCell hquote hbreak cell hends, hrows, Option.map_some,
      consChars_cons_cons, List.append_nil]
  | cons next more ih =>
    have hbare : Mode.bare ≠ .quoted := by decide
    -- the delimiter behind the cell ends it, and the rest of the row is read from a start again
    rw [encodeRow_cons_cons, List.append_assoc, List.cons_append,
      readFrom_encodeCell hquote hbreak cell (.inr ⟨_, _, rfl, .inl rfl⟩),
      readFrom_cons (step_delimiter hbare), ih next, Option.map_some, Option.map_some, consCell,
      consChars_cons_cons, List.append_nil]

/-- **A written table is read back.** Neither the table nor a row of it may be empty: the text without
characters is one row with one empty cell. -/
theorem readFrom_encode (hquote : delimiter ≠ '"') (hbreak : delimiter ≠ '\n')
    (row : List (List Char)) (rows : Cells) (h : ∀ r ∈ row :: rows, r ≠ []) :
    readFrom delimiter .start (encode delimiter (row :: rows)) = some (row :: rows) := by
  induction rows generalizing row with
  | nil =>
    obtain ⟨cell, more, rfl⟩ := List.exists_cons_of_ne_nil (h row List.mem_cons_self)
    have hempty : readFrom delimiter .bare [] = some ([[]] :: []) := rfl
    have hread := readFrom_encodeRow hquote hbreak hempty (.inl rfl) cell more
    rwa [List.append_nil, ← encode_singleton] at hread
  | cons next later ih =>
    obtain ⟨cell, more, rfl⟩ := List.exists_cons_of_ne_nil (h row List.mem_cons_self)
    have hrest := ih next fun r hr => h r (List.mem_cons_of_mem _ hr)
    have hbare : Mode.bare ≠ .quoted := by decide
    -- the line break behind the row ends its last cell and starts the rows of the rest
    rw [encode_cons_cons]
    refine readFrom_encodeRow hquote hbreak ?_ (.inr ⟨_, _, rfl, .inr rfl⟩) cell more
    rw [readFrom_cons (step_break hbare hbreak), hrest]
    rfl

end Rows

end ApiChain.Delimited
