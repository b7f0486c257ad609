import ApiChain.Proofs.Path.Slots
import ApiChain.Proofs.Template.Pieces

/-!
# The holes of a text, from left to right

A text can be cut into holes and the gaps around them in more than one way, as an opening brace may
stand before a hole as well as in it. In the cut that a scan makes no hole starts at any place of a
gap. This tells the cut, so it can be said without the scan.

* **`Cut.Leftmost`** is that property;
* **`Cut.Leftmost.scan_chars`**: a scan finds the pieces of such a cut, so there is at most one;
* **`Cut.leftmost_ofPieces_scan`**: the pieces of a scan are such a cut, so there is one;
* **`fill_leftmost_cut`** says what the placeholders of a text are, and what a text becomes when its
  holes are filled.
-/

namespace ApiChain

/-! ## What stands in a hole -/

namespace Placeholder

/-- The name in a hole: the text up to its first dot, blanks at the ends of the whole apart. -/
def nameIn (inner : List Char) : String :=
  String.ofList ((Text.trim inner).takeWhile (· ≠ '.'))

/-- The path in a hole: the text behind the first dot, and nothing where there is no dot. -/
def pathIn (inner : List Char) : String :=
  String.ofList ((Text.trim inner).dropWhile (· ≠ '.')).tail

theorem parseChars_eq (inner : List Char) : parseChars inner = ⟨nameIn inner, pathIn inner⟩ := by
  rw [parseChars, Text.splitOnce_eq, nameIn, pathIn]
  by_cases hdot : '.' ∈ Text.trim inner
  · simp only [hdot, if_true]
  · have hall : ∀ c ∈ Text.trim inner, (decide (c ≠ '.')) = true := by
      intro c hc
      simpa using fun heq : c = '.' => hdot (heq ▸ hc)
    simp only [hdot, if_false, List.takeWhile_eq_self_iff.mpr hall,
      List.dropWhile_eq_nil_iff.mpr hall, List.tail_nil]

end Placeholder

namespace Template

/-! ## Cuts -/

/-- A text cut into holes and the gaps around them. -/
structure Cut where
  /-- The gap before the first hole. -/
  lead : List Char
  /-- What stands in each hole, and the gap behind it. -/
  holes : List (List Char × List Char)

namespace Cut

/-- Some holes as written, each with the gap behind it. -/
def written (holes : List (List Char × List Char)) : List Char :=
  holes.flatMap fun h => (Piece.hole h.1).chars ++ h.2

/-- The text that was cut. -/
def chars (c : Cut) : List Char := c.lead ++ written c.holes

/-- The text with something else in the place of each hole. -/
def filled (render : List Char → List Char) (c : Cut) : List Char :=
  c.lead ++ c.holes.flatMap fun h => render h.1 ++ h.2

theorem filled_cons (render : List Char → List Char) (gap inner next : List Char)
    (holes : List (List Char × List Char)) :
    filled render ⟨gap, (inner, next) :: holes⟩
      = gap ++ (render inner ++ filled render ⟨next, holes⟩) := by
  rw [filled, List.flatMap_cons, List.append_assoc, filled]

/-- The cut takes the leftmost holes: what stands in a hole is not empty and has no closing brace, and
at no place in a gap a hole starts. -/
structure Leftmost (c : Cut) : Prop where
  holes : ∀ h ∈ c.holes, h.1 ≠ [] ∧ '}' ∉ h.1
  lead : Quiet c.lead (written c.holes)
  gaps : ∀ before h after, c.holes = before ++ h :: after → Quiet h.2 (written after)

theorem leftmost_nil_iff {gap : List Char} : Leftmost ⟨gap, []⟩ ↔ Quiet gap [] :=
  ⟨fun h => h.lead, fun h => ⟨by simp, h, by simp⟩⟩

theorem leftmost_cons_iff {gap inner next : List Char} {holes : List (List Char × List Char)} :
    Leftmost ⟨gap, (inner, next) :: holes⟩ ↔
      Quiet gap ((Piece.hole inner).chars ++ chars ⟨next, holes⟩) ∧ inner ≠ [] ∧ '}' ∉ inner ∧
        Leftmost ⟨next, holes⟩ := by
  have hwritten : written ((inner, next) :: holes)
      = (Piece.hole inner).chars ++ chars ⟨next, holes⟩ := List.append_assoc _ _ _
  constructor
  · intro h
    obtain ⟨⟨hne, hfree⟩, hholes⟩ := List.forall_mem_cons.mp h.holes
    have hlead := h.lead
    rw [hwritten] at hlead
    refine ⟨hlead, hne, hfree, hholes, h.gaps [] (inner, next) holes rfl, ?_⟩
    intro before h' after heq
    exact h.gaps ((inner, next) :: before) h' after (congrArg (List.cons (inner, next)) heq)
  · rintro ⟨hgap, hne, hfree, hrest⟩
    refine ⟨List.forall_mem_cons.mpr ⟨⟨hne, hfree⟩, hrest.holes⟩, ?_, ?_⟩
    · rwa [hwritten]
    · intro before h after heq
      cases before with
      | nil =>
        obtain ⟨rfl, rfl⟩ := List.cons.inj heq
        exact hrest.lead
      | cons first before => exact hrest.gaps before h after (List.cons.inj heq).2

/-! ## Cuts and pieces -/

/-- The pieces of a cut: the characters of its gaps one by one, and its holes. -/
def pieces (c : Cut) : List Piece :=
  c.lead.map .char ++ c.holes.flatMap fun h => .hole h.1 :: h.2.map .char

/-- The cut with the given pieces. -/
def ofPieces : List Piece → Cut
  | [] => ⟨[], []⟩
  | .char c :: rest => ⟨c :: (ofPieces rest).lead, (ofPieces rest).holes⟩
  | .hole inner :: rest => ⟨[], (inner, (ofPieces rest).lead) :: (ofPieces rest).holes⟩

theorem pieces_ofPieces (ps : List Piece) : (ofPieces ps).pieces = ps := by
  induction ps with
  | nil => rfl
  | cons p rest ih =>
    cases p with
    | char c => exact congrArg (List.cons (.char c)) ih
    | hole inner => exact congrArg (List.cons (.hole inner)) ih

theorem ofPieces_gap_append (gap : List Char) (ps : List Piece) :
    ofPieces (gap.map .char ++ ps) = ⟨gap ++ (ofPieces ps).lead, (ofPieces ps).holes⟩ := by
  induction gap with
  | nil => rfl
  | cons c rest ih => simp only [List.map_cons, List.cons_append, ofPieces, ih]

theorem ofPieces_pieces (c : Cut) : ofPieces c.pieces = c := by
  obtain ⟨lead, holes⟩ := c
  rw [pieces, ofPieces_gap_append]
  induction holes generalizing lead with
  | nil => simp [ofPieces]
  | cons h rest ih =>
    obtain ⟨inner, gap⟩ := h
    have hrest := ih gap
    rw [Cut.mk.injEq] at hrest
    simp only [List.flatMap_cons, List.cons_append, ofPieces, ofPieces_gap_append, hrest.1,
      hrest.2, List.append_nil]

/-- A text that is rendered piece by piece, characters as themselves, has its holes rendered. -/
theorem flatMap_pieces (c : Cut) {f : Piece → List Char} (hchar : ∀ x, f (.char x) = [x]) :
    c.pieces.flatMap f = c.filled fun inner => f (.hole inner) := by
  have hgap : ∀ gap : List Char, (gap.map Piece.char).flatMap f = gap := by
    intro gap
    simp [List.flatMap_map, hchar]
  simp [pieces, filled, hgap, List.flatMap_assoc]

theorem holesOf_pieces (c : Cut) : holesOf c.pieces = c.holes.map (·.1) := by
  obtain ⟨lead, holes⟩ := c
  rw [pieces, holesOf_append, holesOf_gap, List.nil_append]
  induction holes with
  | nil => rfl
  | cons h rest ih =>
    rw [List.flatMap_cons, List.cons_append, holesOf_hole_cons, holesOf_append, holesOf_gap,
      List.nil_append, ih, List.map_cons]

/-! ## The cut of a scan -/

/-- A scan finds the pieces of a leftmost cut. -/
theorem Leftmost.scan_chars {c : Cut} (h : c.Leftmost) : scan c.chars = c.pieces := by
  obtain ⟨gap, holes⟩ := c
  induction holes generalizing gap with
  | nil => exact scan_append_of_quiet (leftmost_nil_iff.mp h)
  | cons first rest ih =>
    obtain ⟨inner, next⟩ := first
    obtain ⟨hgap, hne, hfree, hrest⟩ := leftmost_cons_iff.mp h
    calc scan (chars ⟨gap, (inner, next) :: rest⟩)
        = scan (gap ++ ((Piece.hole inner).chars ++ chars ⟨next, rest⟩)) := by
          rw [chars, written, List.flatMap_cons, List.append_assoc]
          rfl
      _ = gap.map .char ++ .hole inner :: scan (chars ⟨next, rest⟩) := by
          rw [scan_append_of_quiet hgap, scan_hole_append hne hfree]
      _ = pieces ⟨gap, (inner, next) :: rest⟩ := by
          rw [ih next hrest]
          rfl

/-- The cut of a scan is a leftmost one, and of the text itself. -/
theorem leftmost_ofPieces_scan (s : List Char) :
    (ofPieces (scan s)).chars = s ∧ (ofPieces (scan s)).Leftmost := by
  induction s using scan_induction with
  | nil => exact ⟨rfl, leftmost_nil_iff.mpr (quiet_nil [])⟩
  | char c rest hstarts ih =>
    obtain ⟨hchars, hrest⟩ := ih
    rw [scan_cons_of_none ((holeAt?_eq_none_iff _).mpr hstarts), ofPieces]
    refine ⟨congrArg (List.cons c) hchars, hrest.holes, ?_, hrest.gaps⟩
    -- from here the gap goes on with the rest of the text
    rw [← hchars] at hstarts
    exact quiet_cons_iff.mpr ⟨hstarts, hrest.lead⟩
  | hole inner after hne hfree ih =>
    obtain ⟨hchars, hrest⟩ := ih
    rw [scan_hole_append hne hfree, ofPieces]
    refine ⟨?_, leftmost_cons_iff.mpr ⟨quiet_nil _, hne, hfree, hrest⟩⟩
    calc chars ⟨[], (inner, (ofPieces (scan after)).lead) :: (ofPieces (scan after)).holes⟩
        = (Piece.hole inner).chars ++ chars (ofPieces (scan after)) := List.append_assoc _ _ _
      _ = (Piece.hole inner).chars ++ after := by rw [hchars]

/-- The leftmost cut of a text is that of its scan. -/
theorem Leftmost.eq_ofPieces_scan {c : Cut} (h : c.Leftmost) : c = ofPieces (scan c.chars) := by
  rw [h.scan_chars, ofPieces_pieces]

end Cut

/-! ## Placeholders and filled texts -/

/-- What a hole shows when its text is filled from the response of a call. -/
structure Renders (payload : Json) (api : String) (inner shown : List Char) : Prop where
  /-- It stays as written if it names another call or if its path finds nothing. -/
  kept : Placeholder.nameIn inner ≠ api ∨
    (payload.resolve (Placeholder.pathIn inner)).isUnresolved = true →
      shown = (Piece.hole inner).chars
  /-- Otherwise it shows the text of what its path finds. -/
  found : Placeholder.nameIn inner = api →
    (payload.resolve (Placeholder.pathIn inner)).isUnresolved = false →
      (payload.resolve (Placeholder.pathIn inner)).text? = some (String.ofList shown)

theorem renders_fillPiece (payload : Json) (api : String) (inner : List Char) :
    Renders payload api inner (fillPiece payload api (.hole inner)) := by
  have hreplacement : replacement? payload api inner
      = if Placeholder.nameIn inner = api then
          (payload.resolve (Placeholder.pathIn inner)).textChars? else none := by
    rw [replacement?, Placeholder.parseChars_eq]
  rw [fillPiece, hreplacement]
  constructor
  · rintro (hname | hunresolved)
    · rw [if_neg hname, Option.getD_none]
    · rw [(Resolved.textChars?_eq_none_iff _).mpr hunresolved, ite_self, Option.getD_none]
  · intro hname hresolved
    rw [if_pos hname]
    cases htext : (payload.resolve (Placeholder.pathIn inner)).textChars? with
    | none => simp [(Resolved.textChars?_eq_none_iff _).mp htext] at hresolved
    | some t => rw [Resolved.text?, htext, Option.getD_some, Option.map_some]

/-- **The leftmost holes of a text, and what becomes of them.** A text has exactly one leftmost cut. Its
placeholders are read from the holes of this cut, in order. When the text is filled, the gaps stay and
each hole shows what `Renders` says. A text without two opening braces in a row, which is left
unscanned, is one gap. -/
theorem fill_leftmost_cut (text : String) :
    ∃ cut : Cut, cut.chars = text.toList ∧ cut.Leftmost ∧
      (∀ other : Cut, other.chars = text.toList → other.Leftmost → other = cut) ∧
      placeholders text = cut.holes.map (fun h => Placeholder.parse (String.ofList h.1)) ∧
      (∀ (payload : Json) (api : String), ∃ render : List Char → List Char,
        (∀ inner, Renders payload api inner (render inner)) ∧
          (fill payload api text).toList = cut.filled render) ∧
      (¬ ['{', '{'] <:+: text.toList → cut = ⟨text.toList, []⟩ ∧
        ∀ (payload : Json) (api : String), fill payload api text = text) := by
  obtain ⟨hchars, hleftmost⟩ := Cut.leftmost_ofPieces_scan text.toList
  have hpieces := Cut.pieces_ofPieces (scan text.toList)
  have hunique : ∀ other : Cut, other.chars = text.toList → other.Leftmost →
      other = Cut.ofPieces (scan text.toList) := by
    intro other hother hleftmost'
    rw [← hother]
    exact hleftmost'.eq_ofPieces_scan
  refine ⟨Cut.ofPieces (scan text.toList), hchars, hleftmost, hunique, ?_, ?_, ?_⟩
  · have hparse : ∀ inner, Placeholder.parse (String.ofList inner) = Placeholder.parseChars inner := by
      intro inner
      rw [Placeholder.parse, String.toList_ofList]
    have hholes := Cut.holesOf_pieces (Cut.ofPieces (scan text.toList))
    rw [hpieces] at hholes
    rw [placeholders_eq, hholes, List.map_map]
    exact List.map_congr_left fun h _ => (hparse h.1).symm
  · intro payload api
    refine ⟨fun inner => fillPiece payload api (.hole inner), renders_fillPiece payload api, ?_⟩
    rw [toList_fill, fillChars, ← Cut.flatMap_pieces _ (fun _ => rfl), hpieces]
  · intro hnone
    have hgap : Cut.Leftmost ⟨text.toList, []⟩ := Cut.leftmost_nil_iff.mpr (quiet_of_no_braces hnone)
    refine ⟨(hunique _ (List.append_nil _) hgap).symm, fun payload api => ?_⟩
    rw [fill, if_neg (mt (Text.occursIn_iff _ _).mp hnone)]

end Template

end ApiChain
