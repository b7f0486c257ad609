import ApiChain.Proofs.Path.Slots
import ApiChain.Response

/-!
# Sources that go through the envelope

A source that starts with the envelope's mark can be read in two ways. As a path into the response it
steps to the data and broadcasts, which gives a slot for each item. The mapping reads it item by item
instead, with the mark taken off.

* **`Path.parseChars?_envelope`** says how such a source goes on: not at all, with a dot and a path, or
  with a bracket;
* **`Mapping.agreesOn_iff_items`** compares the two readings item by item;
* **`Mapping.agreesOn_iff`**: they agree on every response exactly if nothing follows the mark, or a dot
  and a path. Where a bracket follows, the mark is not taken off and the path leads out of the item.
  Where the dot ends the source, the path into the item is empty and finds the item itself, while a path
  into the response goes on with the empty key.
-/

namespace ApiChain

namespace Path

/-! ## How a source goes on after the mark -/

theorem selector?_ne_key (inner : List Char) (name : String) :
    selector? inner ≠ some (.key name) := by
  simp only [selector?]
  split <;> simp

/-- A row of groups that is open at a bracket starts with an index or a broadcast. -/
theorem readGroups_head {s : List Char} : ∀ {inner : List Char} {steps : Path},
    readGroups (some inner) s = some steps →
    ∃ step rest, steps = step :: rest ∧ ∀ name, step ≠ .key name := by
  induction s with
  | nil => intro inner steps h; simp [readGroups] at h
  | cons c s ih =>
    intro inner steps h
    rw [readGroups] at h
    split at h
    · obtain ⟨step, hstep, h⟩ := Option.bind_eq_some_iff.mp h
      obtain ⟨rest, -, rfl⟩ := Option.map_eq_some_iff.mp h
      exact ⟨step, rest, rfl, fun name heq => selector?_ne_key _ name (heq ▸ hstep)⟩
    · exact ih h

/-- Behind the mark a source ends, or goes on with a dot and a path of its own, or with a bracket. -/
theorem parseChars?_envelope {s : List Char} {steps : Path}
    (h : parseChars? (Mapping.envelopeMark ++ s) = some steps) :
    (s = [] ∧ steps = [.key "data", .broadcast]) ∨
    (∃ t rest, s = '.' :: t ∧ parseChars? t = some rest ∧
      steps = .key "data" :: .broadcast :: rest) ∨
    ∃ t step rest, s = '[' :: t ∧ (∀ name, step ≠ .key name) ∧
      steps = .key "data" :: .broadcast :: step :: rest := by
  have hmark : parseChars? Mapping.envelopeMark = some [.key "data", .broadcast] := by cbv
  cases s with
  | nil =>
    rw [List.append_nil, hmark, Option.some.injEq] at h
    exact .inl ⟨rfl, h.symm⟩
  | cons c t =>
    by_cases hdot : c = '.'
    · subst hdot
      rw [parseChars?_append_dot, hmark, Option.bind_some] at h
      obtain ⟨rest, hrest, rfl⟩ := Option.map_eq_some_iff.mp h
      exact .inr (.inl ⟨t, rest, rfl, hrest, rfl⟩)
    · -- the mark and what follows it stand in one segment, of which groups alone are left
      have hfree : '.' ∉ Mapping.envelopeMark ++ [c] := by
        simp [Mapping.envelopeMark, Ne.symm hdot]
      obtain ⟨piece, pieces, -, hsplit⟩ := Text.splitOn_append_of_notMem hfree t
      rw [List.append_assoc, List.append_assoc, List.singleton_append] at hsplit
      rw [parseChars?, hsplit, readSegments, List.singleton_append, readSegment_envelope] at h
      obtain ⟨first, hfirst, h⟩ := Option.bind_eq_some_iff.mp h
      obtain ⟨groups, hgroups, rfl⟩ := Option.map_eq_some_iff.mp hfirst
      obtain ⟨later, -, rfl⟩ := Option.map_eq_some_iff.mp h
      rw [readGroups] at hgroups
      split at hgroups
      · rename_i hopen
        subst hopen
        obtain ⟨step, rest, rfl, hstep⟩ := readGroups_head hgroups
        exact .inr (.inr ⟨t, step, rest ++ later, rfl, hstep, rfl⟩)
      · exact absurd hgroups (by simp)

/-! ## Values in which a path finds something -/

theorem exists_resolve_ne_undefined (p : Path) : ∃ v, resolve p v ≠ .undefined := by
  induction p with
  | nil => exact ⟨.null, by simp [resolve]⟩
  | cons step rest ih =>
    obtain ⟨w, hw⟩ := ih
    cases step with
    | key name =>
      refine ⟨.object [(name, w)], ?_⟩
      simpa [resolve, Json.child?, Entries.get?] using hw
    | index n =>
      refine ⟨.array (List.replicate (n + 1) w), ?_⟩
      simpa [resolve, Json.element?] using hw
    | broadcast => exact ⟨.null, by simp [resolve]⟩

/-- Where the first step is no key, such a value can be an array. -/
theorem exists_array_resolve_ne_undefined {step : Step} (hstep : ∀ name, step ≠ .key name)
    (rest : Path) : ∃ items, resolve (step :: rest) (.array items) ≠ .undefined := by
  obtain ⟨w, hw⟩ := exists_resolve_ne_undefined rest
  cases step with
  | key name => exact absurd rfl (hstep name)
  | index n =>
    refine ⟨List.replicate (n + 1) w, ?_⟩
    simpa [resolve, Json.element?] using hw
  | broadcast => exact ⟨[], by simp [resolve]⟩

theorem resolve_data_array (rest : Path) (items : List Json) :
    resolve (.key "data" :: rest) (.array items) = .undefined := by
  have hword : Number.ofDigits? 10 ['d', 'a', 't', 'a'] = none := by rfl
  simp [resolve, Json.child?, Number.ofText?, hword]

end Path

theorem Resolved.toJson?_eq_none_iff (r : Resolved) : r.toJson? = none ↔ r = .undefined := by
  cases r <;> simp [toJson?]

namespace Mapping

/-! ## Item by item -/

/-- The two readings of a rule agree on a response: there are as many records as slots, and the field of
a record has the value of its slot, and is undefined where the slot is. -/
def AgreesOn (payload : Json) (rule : Rule) : Prop :=
  ∃ slots, payload.resolve rule.source = .sequence slots ∧
    (records (dataOf payload) [rule]).length = slots.length ∧
    ∀ (i : Nat) (r : Record) (slot : Resolved),
      (records (dataOf payload) [rule])[i]? = some r → slots[i]? = some slot →
      r.contains rule.target = true ∧ r.get? rule.target = slot.toJson? ∧
        (r.get? rule.target = none ↔ slot = .undefined)

section Items

variable {members : Members} {data : Json} (rule : Rule) {rest : Path}

theorem dataOf_object (hdata : Entries.get? members "data" = some data) :
    dataOf (.object members) = data := by
  rw [dataOf, hdata, Option.getD_some]

/-- A source through the envelope finds one slot for each record. -/
theorem resolve_source (hne : rule.source ≠ "")
    (hsteps : Path.parse? rule.source = some (.key "data" :: .broadcast :: rest))
    (hdata : Entries.get? members "data" = some data) :
    (Json.object members).resolve rule.source = .sequence (data.elements.map rest.resolve) := by
  rw [Json.resolve_of_parse? hne hsteps, Path.resolve_of_data hdata]

theorem recordOf_singleton (item : Json) :
    (recordOf item [rule]).contains rule.target = true ∧
      (recordOf item [rule]).get? rule.target = (item.resolve (itemPath rule.source)).toJson? := by
  simp [recordOf, Record.insert, Record.empty, Entries.set, Record.contains, Entries.contains,
    Record.get?, Entries.get?]

/-- The readings agree where they find the same in every item. -/
theorem agreesOn_iff_items (hne : rule.source ≠ "")
    (hsteps : Path.parse? rule.source = some (.key "data" :: .broadcast :: rest))
    (hdata : Entries.get? members "data" = some data) :
    AgreesOn (.object members) rule ↔ ∀ item ∈ data.elements,
      (item.resolve (itemPath rule.source)).toJson? = (rest.resolve item).toJson? := by
  have hresolve := resolve_source rule hne hsteps hdata
  rw [AgreesOn, hresolve, dataOf_object hdata, records]
  constructor
  · rintro ⟨slots, hslots, -, hat⟩ item hitem
    rw [Resolved.sequence.injEq] at hslots
    subst hslots
    obtain ⟨i, hi, rfl⟩ := List.getElem_of_mem hitem
    obtain ⟨-, hvalue, -⟩ := hat i (recordOf data.elements[i] [rule])
      (rest.resolve data.elements[i]) (by simp [hi]) (by simp [hi])
    rw [← hvalue, (recordOf_singleton rule _).2]
  · intro hitems
    refine ⟨_, rfl, by simp, ?_⟩
    intro i r slot hr hslot
    rw [List.getElem?_map] at hr hslot
    obtain ⟨item, hitem, rfl⟩ := Option.map_eq_some_iff.mp hr
    rw [hitem, Option.map_some, Option.some.injEq] at hslot
    subst hslot
    obtain ⟨hcontains, hvalue⟩ := recordOf_singleton rule item
    rw [hitems item (List.mem_of_getElem? hitem)] at hvalue
    exact ⟨hcontains, hvalue, by rw [hvalue, Resolved.toJson?_eq_none_iff]⟩

end Items

/-! ## Source by source -/

/-- Before a dot the mark comes off, and the dot with it. -/
theorem itemPath_dot {suffix : String} {t : List Char} (h : suffix.toList = '.' :: t) :
    itemPath ("data[*]" ++ suffix) = String.ofList t := by
  rw [itemPath, toList_envelope, h]
  rfl

/-- Before a bracket the mark stays. -/
theorem itemPath_bracket (suffix : String) {t : List Char} (h : suffix.toList = '[' :: t) :
    itemPath ("data[*]" ++ suffix) = "data[*]" ++ suffix := by
  have hstays : itemPathChars (envelopeMark ++ '[' :: t) = envelopeMark ++ '[' :: t := rfl
  rw [itemPath, toList_envelope, h, hstays, ← h, ← toList_envelope, String.ofList_toList]

section Continuations

variable {suffix : String} {rest : Path}

/-- The two readings find the same in every item, on any response. -/
def FindsAlike (suffix : String) (rest : Path) : Prop :=
  ∀ item : Json,
    (item.resolve (itemPath ("data[*]" ++ suffix))).toJson? = (rest.resolve item).toJson?

theorem findsAlike_end (h : suffix = "") : FindsAlike suffix [] := by
  subst h
  intro item
  rfl

theorem findsAlike_dot {t : List Char} (h : suffix.toList = '.' :: t) (ht : t ≠ [])
    (hrest : Path.parseChars? t = some rest) : FindsAlike suffix rest := by
  intro item
  have hq : String.ofList t ≠ "" := by simpa using ht
  have hparse : Path.parse? (String.ofList t) = some rest := by
    rw [Path.parse?, String.toList_ofList, hrest]
  rw [itemPath_dot h, Json.resolve_of_parse? hq hparse]

/-- A dot at the end drops out of the path into an item, and stands for the empty key elsewhere. -/
theorem not_findsAlike_lone_dot (h : suffix.toList = ['.']) : ¬ FindsAlike suffix [.key ""] := by
  intro halike
  have hnull := halike .null
  rw [itemPath_dot h] at hnull
  exact absurd hnull (by simp [Json.resolve, Path.resolve, Json.child?, Resolved.toJson?])

/-- Before a bracket the mark stays in the path, and an item that is an array has no member `data`. -/
theorem not_findsAlike_bracket {t : List Char} (h : suffix.toList = '[' :: t) {step : Step}
    {more : Path} (hstep : ∀ name, step ≠ .key name) (hne : "data[*]" ++ suffix ≠ "")
    (hsteps : Path.parse? ("data[*]" ++ suffix)
      = some (.key "data" :: .broadcast :: step :: more)) :
    ¬ FindsAlike suffix (step :: more) := by
  intro halike
  obtain ⟨items, hfound⟩ := Path.exists_array_resolve_ne_undefined hstep more
  have harray := halike (.array items)
  rw [itemPath_bracket suffix h, Json.resolve_of_parse? hne hsteps, Path.resolve_data_array] at harray
  exact hfound ((Resolved.toJson?_eq_none_iff _).mp harray.symm)

/-- The readings find the same in every item exactly if the mark ends the source or a path follows its
dot. -/
theorem findsAlike_iff (hsteps : Path.parse? ("data[*]" ++ suffix)
    = some (.key "data" :: .broadcast :: rest)) :
    FindsAlike suffix rest ↔ suffix.toList = [] ∨ ∃ t, t ≠ [] ∧ suffix.toList = '.' :: t := by
  have hne : "data[*]" ++ suffix ≠ "" := by simp [String.append_eq_empty_iff]
  have hchars := hsteps
  rw [Path.parse?, toList_envelope] at hchars
  rcases Path.parseChars?_envelope hchars with ⟨hend, hrest⟩ | ⟨t, more, hdot, hmore, hrest⟩ |
    ⟨t, step, more, hbracket, hstep, hrest⟩ <;>
  simp only [List.cons.injEq, true_and] at hrest <;> subst hrest
  · have hempty : suffix = "" := by simpa using hend
    exact ⟨fun _ => .inl hend, fun _ => findsAlike_end hempty⟩
  · by_cases ht : t = []
    · subst ht
      have hkey : Path.parseChars? [] = some [.key ""] := by rfl
      rw [hkey, Option.some.injEq] at hmore
      subst hmore
      exact ⟨fun halike => absurd halike (not_findsAlike_lone_dot hdot), by simp [hdot]⟩
    · exact ⟨fun _ => .inr ⟨t, ht, hdot⟩, fun _ => findsAlike_dot hdot ht hmore⟩
  · exact ⟨fun halike => absurd halike (not_findsAlike_bracket hbracket hstep hne hsteps),
      by simp [hbracket]⟩

theorem continues_iff (suffix : String) :
    (suffix.toList = [] ∨ ∃ t, t ≠ [] ∧ suffix.toList = '.' :: t) ↔
      suffix = "" ∨ ∃ q, q ≠ "" ∧ suffix = "." ++ q := by
  have hdot : ∀ q : String, ("." ++ q).toList = '.' :: q.toList := by simp
  constructor
  · rintro (h | ⟨t, ht, h⟩)
    · exact .inl (by simpa using h)
    · refine .inr ⟨String.ofList t, by simpa using ht, String.toList_injective ?_⟩
      rw [h, hdot, String.toList_ofList]
  · rintro (rfl | ⟨q, hq, rfl⟩)
    · exact .inl rfl
    · exact .inr ⟨q.toList, by simpa using hq, hdot q⟩

end Continuations

/-- **The mapping agrees with the broadcast where the mark ends the source or a path follows its
dot.** A well-formed source through the envelope gives as many records as slots, for every response
with data. The fields have the values of the slots for every such response if and only if nothing
follows the mark, or a dot and a path that is not empty. -/
theorem agreesOn_iff (suffix target : String)
    (hwell : (Path.parse? ("data[*]" ++ suffix)).isSome) :
    (∀ members : Members, (Entries.get? members "data").isSome →
      ∃ slots, (Json.object members).resolve ("data[*]" ++ suffix) = .sequence slots ∧
        (records (dataOf (.object members)) [⟨"data[*]" ++ suffix, target⟩]).length
          = slots.length) ∧
    ((∀ members : Members, (Entries.get? members "data").isSome →
        AgreesOn (.object members) ⟨"data[*]" ++ suffix, target⟩) ↔
      suffix = "" ∨ ∃ q, q ≠ "" ∧ suffix = "." ++ q) := by
  have hne : "data[*]" ++ suffix ≠ "" := by simp [String.append_eq_empty_iff]
  obtain ⟨rest, hsteps⟩ := Path.parse?_envelope hwell
  let rule : Rule := ⟨"data[*]" ++ suffix, target⟩
  refine ⟨fun members hsome => ?_, ?_⟩
  · obtain ⟨data, hdata⟩ := Option.isSome_iff_exists.mp hsome
    refine ⟨_, resolve_source rule hne hsteps hdata, ?_⟩
    rw [dataOf_object hdata, records, List.length_map, List.length_map]
  · rw [← continues_iff, ← findsAlike_iff hsteps]
    constructor
    · -- an item stands in a response of its own
      intro hall item
      have hitem := hall [("data", .array [item])] rfl
      exact (agreesOn_iff_items rule hne hsteps rfl).mp hitem item List.mem_cons_self
    · intro halike members hsome
      obtain ⟨data, hdata⟩ := Option.isSome_iff_exists.mp hsome
      exact (agreesOn_iff_items rule hne hsteps hdata).mpr fun item _ => halike item

/-- The names of the tags of three people. -/
theorem agreesOn_iff_tags :
    (Path.parse? ("data[*]" ++ ".tags[*].name")).isSome ∧
      AgreesOn Json.taggedPeople ⟨"data[*]" ++ ".tags[*].name", "tags"⟩ := by
  have hwell : (Path.parse? ("data[*]" ++ ".tags[*].name")).isSome := by cbv
  obtain ⟨-, hagrees⟩ := agreesOn_iff ".tags[*].name" "tags" hwell
  exact ⟨hwell, hagrees.mpr (.inr ⟨"tags[*].name", by decide, rfl⟩) _ rfl⟩

/-- The first elements of two lists. -/
def twoLists : Json :=
  .object [("data", .array [.array [.ofNat 1, .ofNat 2], .array [.ofNat 3]])]

/-- A bracket behind the mark finds the first elements in the response, and nothing in the items. -/
theorem not_agreesOn_bracket :
    (Path.parse? "data[*][0]").isSome ∧ ¬ AgreesOn twoLists ⟨"data[*][0]", "first"⟩ := by
  have hsteps : Path.parse? "data[*][0]" = some [.key "data", .broadcast, .index 0] := by
    decide +kernel
  refine ⟨by rw [hsteps]; rfl, fun hagrees => ?_⟩
  have hfirst := (agreesOn_iff_items _ (by decide) hsteps rfl).mp hagrees
    (.array [.ofNat 1, .ofNat 2]) List.mem_cons_self
  have hstays : itemPath "data[*][0]" = "data[*][0]" := itemPath_bracket "[0]" rfl
  rw [hstays, Json.resolve_of_parse? (by decide) hsteps, Path.resolve_data_array] at hfirst
  exact absurd hfirst (by simp [Path.resolve, Json.element?, Resolved.toJson?])

end Mapping

end ApiChain
