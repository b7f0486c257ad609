import Mathlib
import ApiChain.Proofs.Path.Slots
import ApiChain.Proofs.Template.Passes

/-!
# Templates that filling leaves alone

A placeholder applies if it names the call and its path finds something in the response. Where none
applies, filling writes every hole as it stood, so the template comes back: its keys are not looked at,
and stray braces are characters like any other.

What is filled in might by chance spell the hole again. Where it holds no opening brace that cannot be,
for each hole filled takes two opening braces away; so then a template comes back only if no placeholder
applies.

* **`pass_eq_self`** and **`count_pass_lt`** are the two facts for one text;
* **`fillJson_eq_self_iff`** takes them to values, and **`fill_identity`** puts them in terms of
  placeholders.
-/

namespace ApiChain.Template

/-! ## One text -/

section Passes

variable {f : List Char → Option (List Char)} {s : List Char}

theorem pass_eq_self (h : ∀ inner ∈ holesOf (scan s), f inner = none) : pass f s = s := by
  have hpieces : ∀ piece ∈ scan s, renderPiece f piece = piece.chars := by
    intro piece hpiece
    cases piece with
    | char c => rfl
    | hole inner => rw [renderPiece, h inner (mem_holesOf_iff.mpr hpiece), Option.getD_none]
  calc pass f s = (scan s).flatMap Piece.chars := List.flatMap_congr hpieces
    _ = s := flatMap_chars_scan s

theorem count_hole_chars (inner : List Char) : 2 ≤ (Piece.hole inner).chars.count '{' := by
  simp [Piece.chars]

/-- A hole that is filled without opening braces takes its own away. -/
theorem count_renderPiece_lt {inner t : List Char} (ht : f inner = some t) (hbare : '{' ∉ t) :
    (renderPiece f (.hole inner)).count '{' < (Piece.hole inner).chars.count '{' := by
  have hcount := count_hole_chars inner
  rw [renderPiece, ht, Option.getD_some, List.count_eq_zero.mpr hbare]
  omega

theorem count_renderPiece_le {piece : Piece}
    (hbare : ∀ inner, piece = .hole inner → ∀ t, f inner = some t → '{' ∉ t) :
    (renderPiece f piece).count '{' ≤ piece.chars.count '{' := by
  cases piece with
  | char c => exact Nat.le_refl _
  | hole inner =>
    cases ht : f inner with
    | none => rw [renderPiece, ht, Option.getD_none]
    | some t => exact Nat.le_of_lt (count_renderPiece_lt ht (hbare inner rfl t ht))

/-- A pass that fills a hole, and none with an opening brace, leaves fewer of them. -/
theorem count_pass_lt (hbare : ∀ inner ∈ holesOf (scan s), ∀ t, f inner = some t → '{' ∉ t)
    {inner t : List Char} (hinner : inner ∈ holesOf (scan s)) (ht : f inner = some t) :
    (pass f s).count '{' < s.count '{' := by
  have hsum : ((scan s).map fun piece => (renderPiece f piece).count '{').sum
      < ((scan s).map fun piece => piece.chars.count '{').sum := by
    apply List.sum_lt_sum
    · intro piece hpiece
      apply count_renderPiece_le
      rintro e rfl
      exact hbare e (mem_holesOf_iff.mpr hpiece)
    · exact ⟨.hole inner, mem_holesOf_iff.mp hinner, count_renderPiece_lt ht (hbare inner hinner t ht)⟩
  -- the text is its pieces too, so the counts are compared piece by piece
  have hchars : s.count '{' = ((scan s).flatMap Piece.chars).count '{' := by
    rw [flatMap_chars_scan]
  rw [hchars, pass, List.count_flatMap, List.count_flatMap]
  exact hsum

/-- A pass without opening braces changes a text exactly if it fills a hole of it. -/
theorem pass_eq_self_iff (hbare : ∀ inner ∈ holesOf (scan s), ∀ t, f inner = some t → '{' ∉ t) :
    pass f s = s ↔ ∀ inner ∈ holesOf (scan s), f inner = none := by
  constructor
  · intro heq inner hinner
    cases ht : f inner with
    | none => rfl
    | some t =>
      have hlt := count_pass_lt hbare hinner ht
      rw [heq] at hlt
      exact absurd hlt (Nat.lt_irrefl _)
  · exact pass_eq_self

end Passes

/-! ## Placeholders that apply -/

/-- The placeholder names another call, or its path finds nothing in the response. -/
def Idle (payload : Json) (api : String) (p : Placeholder) : Prop :=
  p.api ≠ api ∨ (payload.resolve p.path).isUnresolved = true

theorem replacement?_eq_none_iff {payload : Json} {api : String} {inner : List Char} :
    replacement? payload api inner = none ↔ Idle payload api (Placeholder.parseChars inner) := by
  rw [replacement?, Idle]
  by_cases h : (Placeholder.parseChars inner).api = api
  · simp [h, Resolved.textChars?_eq_none_iff]
  · simp [h]

theorem forall_placeholders_iff {text : String} {P : Placeholder → Prop} :
    (∀ p ∈ placeholders text, P p)
      ↔ ∀ inner ∈ holesOf (scan text.toList), P (Placeholder.parseChars inner) := by
  rw [placeholders_eq, List.forall_mem_map]

theorem fill_eq_self {payload : Json} {api text : String}
    (h : ∀ p ∈ placeholders text, Idle payload api p) : fill payload api text = text := by
  apply String.toList_injective
  rw [toList_fill, fillChars_eq_pass]
  apply pass_eq_self
  intro inner hinner
  exact replacement?_eq_none_iff.mpr (forall_placeholders_iff.mp h inner hinner)

/-- No text that a placeholder of the call would be filled with holds an opening brace. -/
def FindsNoBrace (payload : Json) (api text : String) : Prop :=
  ∀ p ∈ placeholders text, p.api = api → ∀ found, (payload.resolve p.path).text? = some found →
    '{' ∉ found.toList

theorem idle_of_fill_eq_self {payload : Json} {api text : String}
    (hbare : FindsNoBrace payload api text) (h : fill payload api text = text) :
    ∀ p ∈ placeholders text, Idle payload api p := by
  have hpass : pass (replacement? payload api) text.toList = text.toList := by
    rw [← fillChars_eq_pass, ← toList_fill, h]
  have hholes : ∀ inner ∈ holesOf (scan text.toList), ∀ t,
      replacement? payload api inner = some t → '{' ∉ t := by
    intro inner hinner t ht
    rw [replacement?] at ht
    split at ht
    · rename_i hapi
      have hfound := forall_placeholders_iff.mp hbare inner hinner hapi (String.ofList t)
        (by rw [Resolved.text?, ht, Option.map_some])
      rwa [String.toList_ofList] at hfound
    · exact absurd ht (by simp)
  rw [forall_placeholders_iff]
  intro inner hinner
  exact replacement?_eq_none_iff.mp ((pass_eq_self_iff hholes).mp hpass inner hinner)

/-! ## Values -/

theorem fillJson_eq_self_iff {payload : Json} {api : String} {template : Json} :
    fillJson payload api template = template
      ↔ ∀ text ∈ template.texts, fill payload api text = text := by
  rw [fillJson_eq_mapTexts, Json.mapTexts_eq_self_iff]

/-- **Filling is the identity where nothing applies.** If every placeholder in the strings of a template
names another call, or has a path that finds nothing, the template comes back as it was, with its keys in
their order, whatever braces stand in keys and strings. And where no text found for the call holds an
opening brace, it comes back only then. -/
theorem fill_identity (payload : Json) (api : String) (template : Json) :
    ((∀ text ∈ template.texts, ∀ p ∈ placeholders text,
        p.api ≠ api ∨ (payload.resolve p.path).isUnresolved = true) →
      fillJson payload api template = template) ∧
    ((∀ text ∈ template.texts, FindsNoBrace payload api text) →
      fillJson payload api template = template →
      ∀ text ∈ template.texts, ∀ p ∈ placeholders text,
        p.api ≠ api ∨ (payload.resolve p.path).isUnresolved = true) := by
  rw [fillJson_eq_self_iff]
  constructor
  · intro hidle text htext
    exact fill_eq_self (hidle text htext)
  · intro hbare hsame text htext
    exact idle_of_fill_eq_self (hbare text htext) (hsame text htext)

/-- Stray braces, a hole for another call and one whose path finds nothing. -/
def idleText : String :=
  "\x7b\x7b\x7b\x7d/{{ login.token }}\x7b/\x7d\x7d{{users.none}}\x7d\x7d"

/-- The keys hold placeholders and braces too; the last path finds nothing in any row. -/
def idleTemplate : Json :=
  .object [("{{users.id}}", .array [.string idleText, .null, .string "\x7b\x7busers.id"]),
    ("\x7b\x7b", .string "{{ users.rows[*].tags[*].name }}")]

def untagged : Json :=
  .object [("id", .ofNat 7),
    ("rows", .array [.object [("tags", .array [.object []])], .object []])]

/-- The idle template stays. The crowded one has a hole that is filled, so it does not. -/
theorem fill_identity_idle :
    fillJson untagged "users" idleTemplate = idleTemplate ∧
      fillJson untagged "users" crowdedTemplate ≠ crowdedTemplate := by
  have hnone : (untagged.resolve "none").isUnresolved = true := by cbv
  have hrows : (untagged.resolve "rows[*].tags[*].name").isUnresolved = true := by cbv
  have hid : untagged.resolve "id" = .scalar (.ofNat 7) := by cbv
  constructor
  · apply (fill_identity untagged "users" idleTemplate).1
    have htexts : idleTemplate.texts
        = [idleText, "\x7b\x7busers.id", "{{ users.rows[*].tags[*].name }}"] := by cbv
    have hfirst : placeholders idleText = [⟨"login", "token"⟩, ⟨"users", "none"⟩] := by cbv
    have hsecond : placeholders "\x7b\x7busers.id" = [] := by cbv
    have hthird : placeholders "{{ users.rows[*].tags[*].name }}"
        = [⟨"users", "rows[*].tags[*].name"⟩] := by cbv
    simp [htexts, hfirst, hsecond, hthird, hnone, hrows]
  · intro hsame
    have htexts : crowdedTemplate.texts = [crowdedText] := by cbv
    have hholes : placeholders crowdedText
        = [⟨"users", "id"⟩, ⟨"login", "token"⟩, ⟨"users", "none"⟩] := by cbv
    have hseven : (untagged.resolve "id").text? = some "7" := by
      rw [hid]
      cbv
    have hbare : ∀ text ∈ crowdedTemplate.texts, FindsNoBrace untagged "users" text := by
      have hmiss : (untagged.resolve "none").text? = none := (Resolved.text?_eq_none_iff _).mpr hnone
      simp [htexts, FindsNoBrace, hholes, hseven, hmiss]
    have hidle := (fill_identity untagged "users" crowdedTemplate).2 hbare hsame
    simp [htexts, hholes, hid, Resolved.isUnresolved] at hidle

end ApiChain.Template
