import ApiChain.Proofs.Path.Compose
import ApiChain.Mapping

/-!
# The slots of a broadcast over an envelope

A path that starts with the envelope's mark steps to `data` and broadcasts, whatever follows the mark.
So what it finds in an envelope is one slot for each item, and a slot knows its item alone.

* **`Path.parse?_envelope`** says how such a path is read;
* **`Path.resolve_of_data`**: its slots are what the rest of the path finds in the items;
* **`Resolved.text?_eq_none_iff`** and **`Resolved.textChars?_singleton`**: when a result has a text,
  and the text of a broadcast over one element.
-/

namespace ApiChain

/-! ## Paths through the envelope -/

theorem Mapping.toList_envelope (suffix : String) :
    ("data[*]" ++ suffix).toList = envelopeMark ++ suffix.toList := by
  rw [String.toList_append]
  rfl

namespace Path

/-- The first segment of a path through the envelope: what follows the mark in it are bracket groups. -/
theorem readSegment_envelope (groups : List Char) :
    readSegment (Mapping.envelopeMark ++ groups)
      = (readGroups none groups).map fun rest => .key "data" :: .broadcast :: rest := by
  have hopen : readGroups none ('[' :: '*' :: ']' :: groups)
      = (readGroups none groups).map fun rest => .broadcast :: rest := by rfl
  have hkey : (Mapping.envelopeMark ++ groups).takeWhile (· ≠ '[') = ['d', 'a', 't', 'a'] := by rfl
  have hgroups : (Mapping.envelopeMark ++ groups).dropWhile (· ≠ '[')
      = '[' :: '*' :: ']' :: groups := by rfl
  rw [readSegment, hkey, hgroups, hopen, Option.map_map]
  rfl

/-- A well-formed path that starts with the envelope's mark steps to `data` and broadcasts. -/
theorem parse?_envelope {suffix : String} (hwell : (parse? ("data[*]" ++ suffix)).isSome) :
    ∃ rest : Path, parse? ("data[*]" ++ suffix) = some (.key "data" :: .broadcast :: rest) := by
  obtain ⟨steps, hsteps⟩ := Option.isSome_iff_exists.mp hwell
  -- the mark holds no dot, so it stands in the first segment
  have hdot : '.' ∉ Mapping.envelopeMark := by decide
  obtain ⟨piece, pieces, -, hsplit⟩ := Text.splitOn_append_of_notMem hdot suffix.toList
  rw [parse?, Mapping.toList_envelope, parseChars?, hsplit, readSegments,
    readSegment_envelope] at hsteps ⊢
  cases hgroups : readGroups none piece with
  | none => simp [hgroups] at hsteps
  | some groups =>
    cases hrest : readSegments pieces with
    | none => simp [hgroups, hrest] at hsteps
    | some rest => exact ⟨groups ++ rest, by simp⟩

/-- What a path through the envelope finds: one slot for each item, filled by the rest of the path. -/
theorem resolve_of_data {members : Members} {data : Json}
    (hdata : Entries.get? members "data" = some data) (rest : Path) :
    resolve (.key "data" :: .broadcast :: rest) (.object members)
      = .sequence (data.elements.map rest.resolve) := by
  simp [resolve, Json.child?, hdata]

theorem resolve_envelope (rest : Path) (items : List Json) :
    resolve (.key "data" :: .broadcast :: rest) (.object [("data", .array items)])
      = .sequence (items.map rest.resolve) := by
  have hdata : Entries.get? [("data", Json.array items)] "data" = some (.array items) := rfl
  exact resolve_of_data hdata rest

end Path

/-! ## The text of a result -/

namespace Resolved

/-- A result has no text exactly where nothing was found. -/
theorem textChars?_eq_none_iff (r : Resolved) : r.textChars? = none ↔ r.isUnresolved = true := by
  cases r with
  | undefined => simp [textChars?, isUnresolved]
  | scalar v => simp [textChars?, isUnresolved]
  | sequence slots => simp [textChars?, isUnresolved]

theorem text?_eq_none_iff (r : Resolved) : r.text? = none ↔ r.isUnresolved = true := by
  rw [text?, Option.map_eq_none_iff, textChars?_eq_none_iff]

/-- A broadcast over one element has the text of its slot. -/
theorem textChars?_singleton (r : Resolved) : (sequence [r]).textChars? = r.textChars? := by
  cases h : r.textChars? with
  | none => simp [textChars?, allUnresolved, (textChars?_eq_none_iff r).mp h]
  | some t =>
    have hfound : r.isUnresolved = false := by
      rw [← Bool.not_eq_true, ← textChars?_eq_none_iff, h]
      simp
    simp [textChars?, slotTexts, allUnresolved, hfound, h, Text.joinWith]

end Resolved

end ApiChain
