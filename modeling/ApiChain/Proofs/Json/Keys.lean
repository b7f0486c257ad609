import ApiChain.Document.Fields
import ApiChain.Proofs.Entries
import ApiChain.Proofs.Json.Texts
import ApiChain.Proofs.Result

/-!
# Values with distinct keys

An object is a list of members here, so it could have a key twice; a map of keys could not. Reading sees
to it that no key comes twice, and where none does, a value that is turned into a document is read back
as it was.

* **`DistinctKeys`**: each object of the value has each of its keys once;
* **`toJson?_ofJson`**: such values are read back;
* **`distinctKeys_of_toJson?`**: every value that is read is such a value.
-/

namespace ApiChain

namespace Json

/-- Each object of the value has each of its keys once. -/
inductive DistinctKeys : Json → Prop
  | null : DistinctKeys .null
  | bool (b : Bool) : DistinctKeys (.bool b)
  | number (n : Json.Number) : DistinctKeys (.number n)
  | string (s : String) : DistinctKeys (.string s)
  | array {items : List Json} : (∀ j ∈ items, DistinctKeys j) → DistinctKeys (.array items)
  | object {members : Members} : (Entries.names members).Nodup →
      (∀ m ∈ members, DistinctKeys m.2) → DistinctKeys (.object members)

end Json

namespace Document

theorem itemsToJson?_ofItems {items : List Json}
    (h : ∀ j ∈ items, (ofJson j).toJson? = some j) : itemsToJson? (ofItems items) = some items := by
  induction items with
  | nil => rfl
  | cons j rest ih =>
    obtain ⟨hj, hrest⟩ := List.forall_mem_cons.mp h
    rw [ofItems, itemsToJson?, hj, Option.bind_some, ih hrest, Option.map_some]

theorem membersToJson?_ofMembers {members : Members}
    (h : ∀ m ∈ members, (ofJson m.2).toJson? = some m.2) :
    membersToJson? (ofMembers members) = some members := by
  induction members with
  | nil => rfl
  | cons m rest ih =>
    obtain ⟨key, j⟩ := m
    obtain ⟨hj, hrest⟩ := List.forall_mem_cons.mp h
    have hkey : (Document.scalar (Scalar.ofString key)).text? = some key := rfl
    rw [ofMembers, membersToJson?, hkey, Option.bind_some, hj, Option.bind_some, ih hrest,
      Option.map_some]

theorem toJson?_ofJson {j : Json} (h : j.DistinctKeys) : (ofJson j).toJson? = some j := by
  induction h with
  | null => rfl
  | bool b => rfl
  | number n => rfl
  | string s => rfl
  | array _ ih => rw [ofJson, toJson?, itemsToJson?_ofItems ih, Option.map_some]
  | object hkeys _ ih =>
    rw [ofJson, toJson?, membersToJson?_ofMembers ih, Option.map_some, Entries.ofList_eq_self hkeys]

theorem asJson_ofJson {j : Json} (h : j.DistinctKeys) : asJson (ofJson j) = .ok j := by
  rw [asJson, toJson?_ofJson h]

/-- A value that may be left out is read back, except that `null` is no value. -/
theorem asOptional_ofJson {j : Json} (h : j.DistinctKeys) :
    asOptional asJson (ofJson j) = .ok (if j = .null then none else some j) := by
  have hread := asJson_ofJson h
  cases j with
  | null => rfl
  | bool b => rfl
  | number n => rfl
  | string s => rfl
  | array items => rw [asOptional, hread]; rfl
  | object members => rw [asOptional, hread]; rfl

/-- The members of an object are read where its values are. -/
theorem readMembers_asJson (members : Members) :
    readMembers asJson (ofMembers members)
      = match membersToJson? (ofMembers members) with
        | some ms => .ok ms
        | none => .error (.expected "a value") := by
  induction members with
  | nil => rfl
  | cons m rest ih =>
    obtain ⟨key, j⟩ := m
    have hkey : (Document.scalar (Scalar.ofString key)).text? = some key := rfl
    have htext : (Document.scalar (Scalar.ofString key)).asText = .ok key := rfl
    rw [ofMembers, readMembers, membersToJson?, hkey, htext, ih, asJson]
    cases toJson? (ofJson j) with
    | none => rfl
    | some v => cases membersToJson? (ofMembers rest) <;> rfl

theorem asEntriesOf_ofJson {members : Members} (h : (Json.object members).DistinctKeys) :
    asEntriesOf asJson (ofJson (.object members)) = .ok members := by
  cases h with
  | object hkeys hmembers =>
    show (readMembers asJson (ofMembers members)).bind _ = _
    rw [readMembers_asJson, membersToJson?_ofMembers fun m hm => toJson?_ofJson (hmembers m hm)]
    show Except.ok (Entries.ofList members) = _
    rw [Entries.ofList_eq_self hkeys]

/-! ## What is read -/

section Read

variable {j : Json}

theorem distinctKeys_items {items read : List Json}
    (h : ∀ j ∈ items, ∀ v, (ofJson j).toJson? = some v → v.DistinctKeys)
    (hread : itemsToJson? (ofItems items) = some read) : ∀ v ∈ read, v.DistinctKeys := by
  induction items generalizing read with
  | nil =>
    obtain rfl : [] = read := Option.some.inj hread
    exact List.forall_mem_nil _
  | cons j rest ih =>
    obtain ⟨hj, hrest⟩ := List.forall_mem_cons.mp h
    rw [ofItems, itemsToJson?, Option.bind_eq_some_iff] at hread
    obtain ⟨v, hv, hread⟩ := hread
    obtain ⟨more, hmore, rfl⟩ := Option.map_eq_some_iff.mp hread
    exact List.forall_mem_cons.mpr ⟨hj v hv, ih hrest hmore⟩

theorem distinctKeys_members {members read : List (String × Json)}
    (h : ∀ m ∈ members, ∀ v, (ofJson m.2).toJson? = some v → v.DistinctKeys)
    (hread : membersToJson? (ofMembers members) = some read) : ∀ m ∈ read, m.2.DistinctKeys := by
  induction members generalizing read with
  | nil =>
    obtain rfl : [] = read := Option.some.inj hread
    exact List.forall_mem_nil _
  | cons m rest ih =>
    obtain ⟨key, j⟩ := m
    obtain ⟨hj, hrest⟩ := List.forall_mem_cons.mp h
    have hkey : (Document.scalar (Scalar.ofString key)).text? = some key := rfl
    rw [ofMembers, membersToJson?, hkey, Option.bind_some, Option.bind_eq_some_iff] at hread
    obtain ⟨v, hv, hread⟩ := hread
    obtain ⟨more, hmore, rfl⟩ := Option.map_eq_some_iff.mp hread
    exact List.forall_mem_cons.mpr ⟨hj v hv, ih hrest hmore⟩

theorem distinctKeys_of_toJson? {v : Json} (h : (ofJson j).toJson? = some v) : v.DistinctKeys := by
  induction j using Json.cases_induction generalizing v with
  | null =>
    obtain rfl := Option.some.inj h
    exact .null
  | bool b =>
    obtain rfl := Option.some.inj h
    exact .bool b
  | number n =>
    obtain rfl := Option.some.inj h
    exact .number n
  | string s =>
    obtain rfl := Option.some.inj h
    exact .string s
  | array items ih =>
    rw [ofJson, toJson?, Option.map_eq_some_iff] at h
    obtain ⟨read, hread, rfl⟩ := h
    exact .array (distinctKeys_items (fun j hj v => ih j hj) hread)
  | object members ih =>
    rw [ofJson, toJson?, Option.map_eq_some_iff] at h
    obtain ⟨read, hread, rfl⟩ := h
    have hmembers := distinctKeys_members (fun m hm v => ih m hm) hread
    exact .object (Entries.nodup_names_ofList read) fun m hm =>
      hmembers m (Entries.mem_of_mem_ofList hm)

theorem toJson?_of_asJson {d : Document} {v : Json} (h : asJson d = .ok v) : d.toJson? = some v := by
  rw [asJson] at h
  cases hread : d.toJson? with
  | none =>
    rw [hread] at h
    cases h
  | some w =>
    rw [hread] at h
    rw [Except.ok.inj h]

theorem toJson?_of_asOptional {d : Document} {v : Json} (h : asOptional asJson d = .ok (some v)) :
    d.toJson? = some v := by
  rw [asOptional] at h
  cases hpresence : d.presence with
  | absent =>
    rw [hpresence] at h
    cases h
  | refused =>
    rw [hpresence] at h
    cases h
  | present =>
    rw [hpresence] at h
    obtain ⟨w, hread, hsome⟩ := of_map_eq_ok h
    obtain rfl := Option.some.inj hsome
    exact toJson?_of_asJson hread

theorem toJson?_of_asEntriesOf {members : Members} (h : asEntriesOf asJson (ofJson j) = .ok members) :
    (ofJson j).toJson? = some (.object members) := by
  cases j with
  | null => cases h
  | bool b => cases h
  | number n => cases h
  | string s => cases h
  | array items => cases h
  | object written =>
    change (readMembers asJson (ofMembers written)).bind _ = _ at h
    rw [readMembers_asJson] at h
    rw [ofJson, toJson?]
    cases hread : membersToJson? (ofMembers written) with
    | none =>
      rw [hread] at h
      cases h
    | some read =>
      rw [hread] at h
      cases h
      rfl

end Read

end Document

end ApiChain
