import ApiChain.Proofs.Json.Texts
import ApiChain.Proofs.Template.Leftmost

/-!
# One pass after another

A text may be filled from the response of one call and then from that of another. What the first pass
fills in could make or spoil holes around it: an empty text lets braces meet, and a brace may open or
close a hole. A text that is neither empty nor holds a brace does neither, and then the holes that a
pass leaves are found again as they were.

* **`Quiet.of_hole`**: no hole starts in the gap before a hole, whatever takes the place of the hole, if
  it does not start with a closing brace;
* **`scan_pass`**: after a pass the scan finds the characters that were filled in, and all else as
  before;
* **`fill_commute`**: two passes for different calls give the same in either order, which is what one
  pass for both gives;
* **`fill_idempotent`**: a pass repeated changes nothing.
-/

namespace ApiChain.Template

/-! ## Gaps before a hole -/

/-- An opening brace, or two with no closing brace behind them, start a hole if a hole follows. -/
theorem startsHole_before_hole {inner : List Char} (hfree : '}' ∉ inner) (after : List Char) :
    StartsHole ('{' :: ((Piece.hole inner).chars ++ after)) ∧
      ∀ more, '}' ∉ more → StartsHole ('{' :: '{' :: (more ++ ((Piece.hole inner).chars ++ after))) := by
  constructor
  · refine ⟨'{' :: inner, List.cons_ne_nil _ _, by simp [hfree], after, ?_⟩
    simp [Piece.chars]
  · intro more hmore
    refine ⟨more ++ '{' :: '{' :: inner, by simp, by simp [hmore, hfree], after, ?_⟩
    simp [Piece.chars]

/-- Where a hole as written is parted, the part behind is empty or starts with a closing brace, or the
part before has no closing brace. -/
theorem hole_chars_parted {e rest u : List Char} (hfree : '}' ∉ e) (hne : rest ≠ [])
    (h : (Piece.hole e).chars = rest ++ u) :
    (u = [] ∨ ∃ t, u = '}' :: t) ∨ rest = ['{'] ∨ ∃ w, rest = '{' :: '{' :: w ∧ '}' ∉ w := by
  rw [← List.append_nil (Piece.hole e).chars, hole_chars_append] at h
  match rest, hne with
  | [c], _ =>
    have hc : '{' = c := (List.cons.inj h).1
    exact .inr (.inl (by rw [hc]))
  | c :: c' :: w, _ =>
    obtain ⟨hc, h⟩ := List.cons.inj h
    obtain ⟨hc', h⟩ := List.cons.inj h
    by_cases hw : '}' ∈ w
    · left
      rcases List.append_eq_append_iff.mp h with ⟨v, -, hclose⟩ | ⟨v, hv, -⟩
      · have hsuffix : u <:+ ['}', '}'] := ⟨v, hclose.symm⟩
        rcases List.suffix_cons_iff.mp hsuffix with rfl | hsuffix
        · exact .inr ⟨_, rfl⟩
        · rcases List.suffix_cons_iff.mp hsuffix with rfl | hsuffix
          · exact .inr ⟨_, rfl⟩
          · exact .inl (List.suffix_nil.mp hsuffix)
      · rw [hv] at hfree
        exact absurd (List.mem_append_left v hw) hfree
    · exact .inr (.inr ⟨w, by rw [← hc, ← hc'], hw⟩)

/-- A gap before a hole stays a gap before any text that does not start with a closing brace. -/
theorem Quiet.of_hole {gap inner after x : List Char} (hfree : '}' ∉ inner)
    (h : Quiet gap ((Piece.hole inner).chars ++ after)) (hx : ∀ t, x ≠ '}' :: t) : Quiet gap x := by
  intro rest hrest hne hstarts
  apply h rest hrest hne
  obtain ⟨e, he, hefree, tail, heq⟩ := hstarts
  have hinside : ∀ u, rest = (Piece.hole e).chars ++ u →
      StartsHole (rest ++ ((Piece.hole inner).chars ++ after)) := by
    intro u hu
    rw [hu, List.append_assoc]
    exact ⟨e, he, hefree, List.prefix_append _ _⟩
  rcases List.append_eq_append_iff.mp heq with ⟨u, hu, -⟩ | ⟨u, hu, hxu⟩
  · exact hinside u hu
  · -- the hole ends behind the gap, where no closing brace is to be found at once
    obtain ⟨hone, htwo⟩ := startsHole_before_hole hfree after
    rcases hole_chars_parted hefree hne hu with (rfl | ⟨t, rfl⟩) | rfl | ⟨w, rfl, hw⟩
    · exact hinside [] (by rw [hu, List.append_nil, List.append_nil])
    · exact absurd hxu (hx _)
    · exact hone
    · exact htwo w hw

/-! ## Passes -/

/-- A text that leaves the holes around it as they are: it is not empty and has no brace. -/
structure Plain (t : List Char) : Prop where
  ne_nil : t ≠ []
  opening : '{' ∉ t
  closing : '}' ∉ t

/-- A piece with its hole filled by `f`, or as written. -/
def renderPiece (f : List Char → Option (List Char)) : Piece → List Char
  | .char c => [c]
  | .hole inner => (f inner).getD (Piece.hole inner).chars

/-- The text with its holes filled by `f`, all at once. -/
def pass (f : List Char → Option (List Char)) (s : List Char) : List Char :=
  (scan s).flatMap (renderPiece f)

/-- The pieces that a piece becomes when holes are filled by `f`. -/
def settle (f : List Char → Option (List Char)) : Piece → List Piece
  | .char c => [.char c]
  | .hole inner =>
    match f inner with
    | some t => t.map .char
    | none => [.hole inner]

/-- The texts that `f` fills into the holes of a text, in order. -/
def filledIn (f : List Char → Option (List Char)) (s : List Char) : List (List Char) :=
  (holesOf (scan s)).filterMap f

/-- What `f` fills into the holes of the text is plain. -/
def FillsPlainly (f : List Char → Option (List Char)) (s : List Char) : Prop :=
  ∀ t ∈ filledIn f s, Plain t

section Passes

variable {f g : List Char → Option (List Char)}

theorem flatMap_settle_gap (gap : List Char) :
    (gap.map Piece.char).flatMap (settle f) = gap.map .char := by
  induction gap with
  | nil => rfl
  | cons c rest ih => exact congrArg (List.cons (Piece.char c)) ih

/-- A hole, filled plainly or as written, does not start with a closing brace. -/
theorem renderPiece_hole_ne {inner : List Char} (hplain : ∀ t, f inner = some t → Plain t)
    (after t : List Char) : renderPiece f (.hole inner) ++ after ≠ '}' :: t := by
  intro heq
  cases hf : f inner with
  | none => simp [renderPiece, hf, Piece.chars] at heq
  | some shown =>
    obtain ⟨hne, -, hclosing⟩ := hplain shown hf
    cases shown with
    | nil => exact hne rfl
    | cons c more =>
      simp only [renderPiece, hf, Option.getD_some, List.cons_append, List.cons.injEq] at heq
      exact hclosing (heq.1 ▸ List.mem_cons_self)

/-- A scan of a hole, filled plainly or as written, finds what the hole became. -/
theorem scan_renderPiece_append {inner : List Char} (hne : inner ≠ []) (hfree : '}' ∉ inner)
    (hplain : ∀ t, f inner = some t → Plain t) (after : List Char) :
    scan (renderPiece f (.hole inner) ++ after) = settle f (.hole inner) ++ scan after := by
  cases hf : f inner with
  | none =>
    simp only [renderPiece, settle, hf, Option.getD_none]
    exact scan_hole_append hne hfree after
  | some shown =>
    simp only [renderPiece, settle, hf, Option.getD_some]
    exact scan_append_of_quiet (quiet_of_notMem (hplain shown hf).opening after)

/-- A scan of a leftmost cut with its holes filled plainly: the filled ones are characters now, and the
others are found again. -/
theorem Cut.Leftmost.scan_filled {c : Cut} (h : c.Leftmost)
    (hplain : ∀ p ∈ c.holes, ∀ t, f p.1 = some t → Plain t) :
    scan (c.filled fun inner => renderPiece f (.hole inner)) = c.pieces.flatMap (settle f) := by
  obtain ⟨gap, holes⟩ := c
  induction holes generalizing gap with
  | nil =>
    have hgap := scan_append_of_quiet (leftmost_nil_iff.mp h)
    simpa [filled, pieces, flatMap_settle_gap, scan, scanFrom] using hgap
  | cons first rest ih =>
    obtain ⟨inner, next⟩ := first
    obtain ⟨hgap, hne, hfree, hrest⟩ := leftmost_cons_iff.mp h
    obtain ⟨hfirst, hlater⟩ := List.forall_mem_cons.mp hplain
    have hquiet : Quiet gap (renderPiece f (.hole inner)
        ++ filled (fun inner => renderPiece f (.hole inner)) ⟨next, rest⟩) :=
      hgap.of_hole hfree (renderPiece_hole_ne hfirst _)
    have hpieces : pieces ⟨gap, (inner, next) :: rest⟩
        = gap.map .char ++ .hole inner :: pieces ⟨next, rest⟩ := rfl
    rw [filled_cons, scan_append_of_quiet hquiet, scan_renderPiece_append hne hfree hfirst,
      ih next hrest hlater, hpieces, List.flatMap_append, flatMap_settle_gap, List.flatMap_cons]

/-- After a pass that fills in plain texts a scan finds the characters that were filled in, and all
else as before. -/
theorem scan_pass {s : List Char} (h : FillsPlainly f s) :
    scan (pass f s) = (scan s).flatMap (settle f) := by
  obtain ⟨-, hleftmost⟩ := Cut.leftmost_ofPieces_scan s
  have hpieces := Cut.pieces_ofPieces (scan s)
  have hholes := Cut.holesOf_pieces (Cut.ofPieces (scan s))
  rw [hpieces] at hholes
  have hpass : pass f s
      = (Cut.ofPieces (scan s)).filled fun inner => renderPiece f (.hole inner) := by
    rw [pass, ← Cut.flatMap_pieces _ (fun _ => rfl), hpieces]
  rw [hpass, hleftmost.scan_filled, hpieces]
  intro p hp t ht
  exact h t (List.mem_filterMap.mpr ⟨p.1, hholes ▸ List.mem_map_of_mem hp, ht⟩)

/-- The holes that are left after such a pass are those that it did not fill, as they were. -/
theorem holesOf_scan_pass {s : List Char} (h : FillsPlainly f s) :
    holesOf (scan (pass f s)) = (holesOf (scan s)).filter fun inner => (f inner).isNone := by
  rw [scan_pass h]
  induction scan s with
  | nil => rfl
  | cons piece rest ih =>
    rw [List.flatMap_cons, holesOf_append, ih]
    cases piece with
    | char c => rfl
    | hole inner =>
      rw [holesOf_hole_cons]
      cases hf : f inner with
      | none => simp [settle, hf, holesOf]
      | some t => simp [settle, hf, holesOf_gap]

/-- A pass after a plain one fills what that one left, so both together are one pass. -/
theorem pass_pass {s : List Char} (h : FillsPlainly f s) :
    pass g (pass f s) = pass (fun inner => (f inner).or (g inner)) s := by
  rw [pass, scan_pass h, pass, List.flatMap_assoc]
  congr 1
  funext piece
  cases piece with
  | char c => rfl
  | hole inner =>
    cases hf : f inner with
    | none => simp [settle, renderPiece, hf]
    | some t => simp [settle, renderPiece, hf, List.flatMap_map]

/-- What a plain pass leaves it leaves for good: repeated, it finds nothing to fill. -/
theorem pass_pass_self {s : List Char} (h : FillsPlainly f s) : pass f (pass f s) = pass f s := by
  have hself : (fun inner => (f inner).or (f inner)) = f := funext fun inner => Option.or_self
  rw [pass_pass h, hself]

end Passes

/-! ## Filling from two responses -/

theorem fillChars_eq_pass (payload : Json) (api : String) (s : List Char) :
    fillChars payload api s = pass (replacement? payload api) s := by
  rw [fillChars, pass]
  congr 1
  funext piece
  cases piece <;> rfl

/-- A hole names one call, so it is filled from one response at most. -/
theorem replacement?_or_comm {a b : String} (hne : a ≠ b) (P Q : Json) (inner : List Char) :
    (replacement? P a inner).or (replacement? Q b inner)
      = (replacement? Q b inner).or (replacement? P a inner) := by
  simp only [replacement?]
  by_cases ha : (Placeholder.parseChars inner).api = a
  · have hb : (Placeholder.parseChars inner).api ≠ b := fun h => hne (ha.symm.trans h)
    rw [if_neg hb, Option.or_none, Option.none_or]
  · rw [if_neg ha, Option.or_none, Option.none_or]

theorem fillItems_eq_map (payload : Json) (api : String) (items : List Json) :
    fillItems payload api items = items.map (fillJson payload api) := by
  induction items with
  | nil => rfl
  | cons j rest ih => rw [fillItems, ih, List.map_cons]

theorem fillMembers_eq_map (payload : Json) (api : String) (members : List (String × Json)) :
    fillMembers payload api members = members.map fun m => (m.1, fillJson payload api m.2) := by
  induction members with
  | nil => rfl
  | cons m rest ih => rw [fillMembers, ih, List.map_cons]

/-- A value is filled string by string. -/
theorem fillJson_eq_mapTexts (payload : Json) (api : String) (j : Json) :
    fillJson payload api j = j.mapTexts (fill payload api) := by
  induction j using Json.cases_induction with
  | null => rfl
  | bool b => rfl
  | number n => rfl
  | string s => rfl
  | array items ih =>
    rw [fillJson, fillItems_eq_map, Json.mapTexts_array]
    exact congrArg Json.array (List.map_congr_left ih)
  | object members ih =>
    rw [fillJson, fillMembers_eq_map, Json.mapTexts_object]
    exact congrArg Json.object (List.map_congr_left fun m hm => congrArg (m.1, ·) (ih m hm))

/-- The text with its holes for two calls filled, all at once, each from its call's response. -/
def fillBoth (P : Json) (a : String) (Q : Json) (b : String) (text : String) : String :=
  String.ofList
    (pass (fun inner => (replacement? P a inner).or (replacement? Q b inner)) text.toList)

/-- What stands in the holes of a text, in order. -/
def holes (text : String) : List (List Char) := holesOf (scan text.toList)

/-- What stands in those holes of a text that a pass leaves as they are. -/
def unfilled (payload : Json) (api : String) (text : String) : List (List Char) :=
  (holes text).filter fun inner => (replacement? payload api inner).isNone

theorem fill_fill {P Q : Json} {a b text : String}
    (h : FillsPlainly (replacement? P a) text.toList) :
    fill Q b (fill P a text) = fillBoth P a Q b text := by
  apply String.toList_injective
  rw [toList_fill, toList_fill, fillChars_eq_pass, fillChars_eq_pass, pass_pass h, fillBoth,
    String.toList_ofList]

theorem fillBoth_comm {a b : String} (hne : a ≠ b) (P Q : Json) (text : String) :
    fillBoth P a Q b text = fillBoth Q b P a text := by
  rw [fillBoth, fillBoth, funext (replacement?_or_comm hne P Q)]

theorem holes_fill {payload : Json} {api text : String}
    (h : FillsPlainly (replacement? payload api) text.toList) :
    holes (fill payload api text) = unfilled payload api text := by
  rw [holes, toList_fill, fillChars_eq_pass, holesOf_scan_pass h, unfilled, holes]

theorem fill_fill_self {payload : Json} {api text : String}
    (h : FillsPlainly (replacement? payload api) text.toList) :
    fill payload api (fill payload api text) = fill payload api text := by
  apply String.toList_injective
  rw [toList_fill, toList_fill, fillChars_eq_pass, fillChars_eq_pass, pass_pass_self h]

/-- **Passes for different calls commute.** Where the texts that either pass fills in first are neither
empty nor hold a brace, the order of the passes makes no difference to a text or to a value: both orders
give what comes of filling the holes for both calls at once. The holes of a text after the first pass
are those that it did not fill, as they were. -/
theorem fill_commute {a b : String} (hne : a ≠ b) (P Q : Json) :
    (∀ text : String, FillsPlainly (replacement? P a) text.toList →
      FillsPlainly (replacement? Q b) text.toList →
      fill Q b (fill P a text) = fillBoth P a Q b text ∧
        fill P a (fill Q b text) = fillBoth P a Q b text ∧
        holes (fill P a text) = unfilled P a text ∧ holes (fill Q b text) = unfilled Q b text) ∧
    ∀ template : Json, (∀ text ∈ template.texts, FillsPlainly (replacement? P a) text.toList ∧
        FillsPlainly (replacement? Q b) text.toList) →
      fillJson Q b (fillJson P a template) = template.mapTexts (fillBoth P a Q b) ∧
        fillJson P a (fillJson Q b template) = template.mapTexts (fillBoth P a Q b) ∧
        (fillJson P a template).texts.map holes = template.texts.map (unfilled P a) ∧
        (fillJson Q b template).texts.map holes = template.texts.map (unfilled Q b) := by
  constructor
  · intro text hP hQ
    exact ⟨fill_fill hP, (fill_fill hQ).trans (fillBoth_comm hne P Q text).symm, holes_fill hP,
      holes_fill hQ⟩
  · intro template hplain
    simp only [fillJson_eq_mapTexts, Json.mapTexts_mapTexts, Json.texts_mapTexts, List.map_map]
    refine ⟨?_, ?_, ?_, ?_⟩
    · exact Json.mapTexts_congr fun text htext => fill_fill (hplain text htext).1
    · refine Json.mapTexts_congr fun text htext => ?_
      exact (fill_fill (hplain text htext).2).trans (fillBoth_comm hne P Q text).symm
    · exact List.map_congr_left fun text htext => holes_fill (hplain text htext).1
    · exact List.map_congr_left fun text htext => holes_fill (hplain text htext).2

/-- Stray braces before and behind the holes of two calls, and a hole whose path finds nothing. -/
def crowdedText : String :=
  "\x7b\x7b\x7b\x7d/{{users.id}}\x7b/\x7d\x7d{{ login.token }}{{users.none}}\x7d\x7d"

def crowdedTemplate : Json := .object [("{{users.id}}", .array [.string crowdedText, .null])]

/-- What both passes make of it; a key is no text of the value. -/
def clearedTemplate : Json :=
  .object [("{{users.id}}", .array [.string
    "\x7b\x7b\x7b\x7d/7\x7b/\x7d\x7dabc{{users.none}}\x7d\x7d", .null])]

def session : Json := .object [("token", .string "abc")]

def account : Json := .object [("id", .ofNat 7)]

theorem fill_commute_crowded :
    "users" ≠ "login" ∧
      fillJson session "login" (fillJson account "users" crowdedTemplate) = clearedTemplate ∧
      fillJson account "users" (fillJson session "login" crowdedTemplate) = clearedTemplate := by
  have hne : "users" ≠ "login" := by decide
  have hplain : ∀ text ∈ crowdedTemplate.texts,
      FillsPlainly (replacement? account "users") text.toList ∧
        FillsPlainly (replacement? session "login") text.toList := by
    have hfromAccount : filledIn (replacement? account "users") crowdedText.toList = [['7']] := by
      cbv
    have hfromSession : filledIn (replacement? session "login") crowdedText.toList
        = [['a', 'b', 'c']] := by cbv
    intro text htext
    obtain rfl : text = crowdedText := List.mem_singleton.mp htext
    rw [FillsPlainly, FillsPlainly, hfromAccount, hfromSession, List.forall_mem_singleton,
      List.forall_mem_singleton]
    exact ⟨⟨by decide, by decide, by decide⟩, ⟨by decide, by decide, by decide⟩⟩
  have hboth : crowdedTemplate.mapTexts (fillBoth account "users" session "login")
      = clearedTemplate := by cbv
  obtain ⟨hfirst, hsecond, -, -⟩ := (fill_commute hne account session).2 crowdedTemplate hplain
  exact ⟨hne, hfirst.trans hboth, hsecond.trans hboth⟩

/-- **A pass repeated changes nothing.** Where the texts that a pass fills in are neither empty nor hold
a brace, a second pass from the same response for the same call leaves the value as the first one left
it. The holes of each string after the first pass are those that it did not fill, in order and as they
were. -/
theorem fill_idempotent (payload : Json) (api : String) (template : Json)
    (hplain : ∀ text ∈ template.texts, FillsPlainly (replacement? payload api) text.toList) :
    fillJson payload api (fillJson payload api template) = fillJson payload api template ∧
      (fillJson payload api template).texts.map holes
        = template.texts.map (unfilled payload api) := by
  simp only [fillJson_eq_mapTexts, Json.mapTexts_mapTexts, Json.texts_mapTexts, List.map_map]
  constructor
  · exact Json.mapTexts_congr fun text htext => fill_fill_self (hplain text htext)
  · exact List.map_congr_left fun text htext => holes_fill (hplain text htext)

/-- In the crowded text the hole of another call and the one whose path finds nothing are left. -/
theorem fill_idempotent_crowded :
    (∀ text ∈ crowdedTemplate.texts, FillsPlainly (replacement? account "users") text.toList) ∧
      fillJson account "users" (fillJson account "users" crowdedTemplate)
        = fillJson account "users" crowdedTemplate ∧
      (fillJson account "users" crowdedTemplate).texts.map holes
        = [[" login.token ".toList, "users.none".toList]] := by
  have hplain : ∀ text ∈ crowdedTemplate.texts,
      FillsPlainly (replacement? account "users") text.toList := by
    have hfilled : filledIn (replacement? account "users") crowdedText.toList = [['7']] := by cbv
    intro text htext
    obtain rfl : text = crowdedText := List.mem_singleton.mp htext
    rw [FillsPlainly, hfilled, List.forall_mem_singleton]
    exact ⟨by decide, by decide, by decide⟩
  obtain ⟨hagain, hholes⟩ := fill_idempotent account "users" crowdedTemplate hplain
  refine ⟨hplain, hagain, hholes.trans ?_⟩
  cbv

end ApiChain.Template
