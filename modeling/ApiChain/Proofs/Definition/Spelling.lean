import ApiChain.Definition.Encoding
import ApiChain.Proofs.Document.Members
import ApiChain.Proofs.Json.Keys
import ApiChain.Proofs.Result
import Mathlib.Logic.Relation

/-!
# Spellings of a definition

A definition is written in one way and read in many: its members and those of its rules may come in any
order and beside others, and three fields have a second name. What is not left to the writer is to give
a field twice.

* **`Definition.Edit`** is one change to how a definition is spelled, in its own members or in those of
  one of its rules, and **`Definition.SpelledBy`** is what every such change keeps;
* **`Definition.ofMembers_of_spelledBy`**: whatever spells a definition is read as it, a null body apart;
* **`Definition.ofMembers_of_edits`**: so the written form is read back after any edits, and as soon as
  a field is given twice nothing is.
-/

namespace ApiChain

open Document hiding ofMembers

/-! ## Rules -/

namespace Rule

/-- The value of each field of a rule. -/
def value? (r : Rule) : Field → Option Json
  | .source => some (.string r.source)
  | .target => some (.string r.target)

/-- The value is an object that spells the rule. -/
inductive SpelledBy (r : Rule) : Json → Prop
  | object {ms : Members} : fieldSet.Gives ms r.value? → SpelledBy r (.object ms)

theorem toJson_spells (r : Rule) : r.SpelledBy r.toJson :=
  .object (.of_valued (by decide) (fun f => by cases f <;> decide) rfl)

theorem ofDocument_of_spelledBy {r : Rule} {j : Json} (h : r.SpelledBy j) :
    ofDocument (ofJson j) = .ok r := by
  cases h with
  | object hgives =>
    obtain ⟨found, hfound, hlookup⟩ := hgives.found
    have hsource : required fieldSet found .source asText = .ok r.source :=
      required_of_lookup (hlookup .source)
    have htarget : required fieldSet found .target asText = .ok r.target :=
      required_of_lookup (hlookup .target)
    rw [ofJson, ofDocument]
    simp only [bind, Except.bind, hfound, hsource, htarget]

theorem ofDocument_of_repeat {r : Rule} {f : Field} {ms ms' : Members} (h : fieldSet.Gives ms r.value?)
    (hrepeat : Document.Repeat fieldSet f ms ms') :
    ofDocument (ofJson (.object ms')) = .error (.repeated (fieldSet.name f)) := by
  show (collect fieldSet (Document.ofMembers ms')).bind _ = _
  rw [collect_of_repeat hrepeat h.once]
  rfl

end Rule

/-! ## Definitions -/

namespace Definition

/-- Each object of the definition has each of its keys once, as where objects are maps. -/
structure DistinctKeys (d : Definition) : Prop where
  parameters : (Json.object d.parameters).DistinctKeys
  headers : (Json.object d.headers).DistinctKeys
  body : ∀ b, d.body = some b → b.DistinctKeys

/-- The value of each field of a definition whose rules are spelled by `rules`. -/
def value? (d : Definition) (rules : List Json) : Field → Option Json
  | .id => some (.string d.id)
  | .name => d.name.map .string
  | .description => d.description.map .string
  | .method => some (.string d.method.name)
  | .host => some (.string d.host)
  | .url => some (.string d.url)
  | .parameters => some (.object d.parameters)
  | .headers => some (.object d.headers)
  | .body => d.body
  | .previous => d.previous.map .string
  | .mapping => some (.array rules)

/-- The members spell the definition. -/
inductive SpelledBy (d : Definition) (ms : Members) : Prop
  | members {rules : List Json} : List.Forall₂ Rule.SpelledBy d.mapping rules →
      fieldSet.Gives ms (d.value? rules) → SpelledBy d ms

theorem known_toMembers (d : Definition) :
    fieldSet.known d.toMembers = valued (d.value? (d.mapping.map Rule.toJson)) fieldSet.all := by
  obtain ⟨id, name, description, method, host, url, parameters, headers, body, previous, mapping⟩ := d
  cases name <;> cases description <;> cases body <;> cases previous <;> rfl

theorem toMembers_spells (d : Definition) : d.SpelledBy d.toMembers := by
  refine .members ?_ (.of_valued (by decide) (fun f => by cases f <;> decide) d.known_toMembers)
  rw [List.forall₂_map_right_iff]
  exact List.forall₂_same.mpr fun r _ => r.toJson_spells

/-! ### Reading -/

/-- The definition without its body, if that is `null`. -/
def withoutNullBody (d : Definition) : Definition :=
  { d with body := d.body.filter fun b => b ≠ .null }

theorem method_ofDocument_name (m : Method) : Method.ofDocument (ofJson (.string m.name)) = .ok m := by
  have htext : asText (ofJson (.string m.name)) = .ok m.name := rfl
  simp only [Method.ofDocument, bind, Except.bind, htext, Method.parse?_name]

theorem optional_asJson {found : List (Field × Document)} {f : Field} {body : Option Json}
    (hbody : ∀ b, body = some b → b.DistinctKeys) (h : found.lookup f = body.map ofJson) :
    optional found f asJson = .ok (body.filter fun b => b ≠ .null) := by
  rw [Document.optional, withDefault, h]
  cases body with
  | none => rfl
  | some b =>
    show asOptional asJson (ofJson b) = _
    rw [asOptional_ofJson (hbody b rfl), Option.filter_some]
    by_cases hb : b = .null <;> simp [hb]

/-- Everything but the rules is read back from the members that give it. -/
theorem ofMembers_of_gives {d : Definition} (hd : d.DistinctKeys) {rules : List Json} {ms : Members}
    (h : fieldSet.Gives ms (d.value? rules)) :
    ofMembers ms = (readAll Rule.ofDocument (ofItems rules)).map fun mapping =>
      { d.withoutNullBody with mapping } := by
  obtain ⟨found, hfound, hlookup⟩ := h.found
  have hid : required fieldSet found .id asText = .ok d.id := required_of_lookup (hlookup .id)
  have hname : optional found .name asText = .ok d.name := optional_asText (hlookup .name)
  have hdescription : optional found .description asText = .ok d.description :=
    optional_asText (hlookup .description)
  have hmethod : required fieldSet found .method Method.ofDocument = .ok d.method :=
    (required_of_lookup (hlookup .method)).trans (method_ofDocument_name d.method)
  have hhost : withDefault found .host "" asText = .ok d.host :=
    withDefault_of_lookup "" (hlookup .host)
  have hurl : withDefault found .url "" asText = .ok d.url := withDefault_of_lookup "" (hlookup .url)
  have hparameters : withDefault found .parameters [] (asEntriesOf asJson) = .ok d.parameters :=
    (withDefault_of_lookup [] (hlookup .parameters)).trans (asEntriesOf_ofJson hd.parameters)
  have hheaders : withDefault found .headers [] (asEntriesOf asJson) = .ok d.headers :=
    (withDefault_of_lookup [] (hlookup .headers)).trans (asEntriesOf_ofJson hd.headers)
  have hbody : optional found .body asJson = .ok d.withoutNullBody.body :=
    optional_asJson hd.body (hlookup .body)
  have hprevious : optional found .previous asText = .ok d.previous :=
    optional_asText (hlookup .previous)
  have hmapping : required fieldSet found .mapping (asListOf Rule.ofDocument)
      = readAll Rule.ofDocument (ofItems rules) := required_of_lookup (hlookup .mapping)
  rw [ofMembers, ofDocument]
  simp only [bind, Except.bind, hfound, hid, hname, hdescription, hmethod, hhost, hurl, hparameters,
    hheaders, hbody, hprevious, hmapping]
  cases readAll Rule.ofDocument (ofItems rules) <;> rfl

theorem ofMembers_of_spelledBy {d : Definition} (hd : d.DistinctKeys) {ms : Members}
    (h : d.SpelledBy ms) : ofMembers ms = .ok d.withoutNullBody := by
  obtain ⟨hrules, hgives⟩ := h
  rw [ofMembers_of_gives hd hgives,
    readAll_ofItems (hrules.imp fun r j hj => Rule.ofDocument_of_spelledBy hj)]
  rfl

/-! ### What is read -/

theorem distinctKeys_of_withDefault {found : List (Field × Document)} {f : Field}
    {value? : Option Json} {members : Members} (hlookup : found.lookup f = value?.map ofJson)
    (h : withDefault found f [] (asEntriesOf asJson) = .ok members) :
    (Json.object members).DistinctKeys := by
  rw [withDefault, hlookup] at h
  cases value? with
  | none =>
    cases h
    exact .object List.nodup_nil (List.forall_mem_nil _)
  | some j => exact distinctKeys_of_toJson? (toJson?_of_asEntriesOf h)

theorem distinctKeys_of_optional {found : List (Field × Document)} {f : Field} {value? : Option Json}
    {b : Json} (hlookup : found.lookup f = value?.map ofJson)
    (h : Document.optional found f asJson = .ok (some b)) : b.DistinctKeys := by
  rw [Document.optional, withDefault, hlookup] at h
  cases value? with
  | none => cases h
  | some j => exact distinctKeys_of_toJson? (toJson?_of_asOptional h)

theorem ofMembers_of_collect_error {ms : Members} {e : DecodeError}
    (h : collect fieldSet (Document.ofMembers ms) = .error e) : ofMembers ms = .error e := by
  rw [ofMembers, ofDocument]
  show (collect fieldSet (Document.ofMembers ms)).bind _ = _
  rw [h]
  rfl

/-- Every definition that is read has distinct keys. -/
theorem distinctKeys_of_ofMembers {ms : Members} {d : Definition} (h : ofMembers ms = .ok d) :
    d.DistinctKeys := by
  by_cases honce : ((fieldSet.known ms).map Prod.fst).Nodup
  · have hgives : fieldSet.Gives ms fun f => (fieldSet.known ms).lookup f := ⟨honce, fun _ => rfl⟩
    obtain ⟨found, hfound, hlookup⟩ := hgives.found
    rw [ofMembers, ofDocument, hfound] at h
    obtain ⟨_, hsame, h⟩ := of_bind_eq_ok h
    obtain rfl := Except.ok.inj hsame
    obtain ⟨id, -, h⟩ := of_bind_eq_ok h
    obtain ⟨name, -, h⟩ := of_bind_eq_ok h
    obtain ⟨description, -, h⟩ := of_bind_eq_ok h
    obtain ⟨method, -, h⟩ := of_bind_eq_ok h
    obtain ⟨host, -, h⟩ := of_bind_eq_ok h
    obtain ⟨url, -, h⟩ := of_bind_eq_ok h
    obtain ⟨parameters, hparameters, h⟩ := of_bind_eq_ok h
    obtain ⟨headers, hheaders, h⟩ := of_bind_eq_ok h
    obtain ⟨body, hbody, h⟩ := of_bind_eq_ok h
    obtain ⟨previous, -, h⟩ := of_bind_eq_ok h
    obtain ⟨mapping, -, h⟩ := of_bind_eq_ok h
    obtain rfl := Except.ok.inj h
    exact ⟨distinctKeys_of_withDefault (hlookup .parameters) hparameters,
      distinctKeys_of_withDefault (hlookup .headers) hheaders,
      fun b => by
        rintro rfl
        exact distinctKeys_of_optional (hlookup .body) hbody⟩
  · obtain ⟨f, -, herror⟩ := collect_of_repeated honce
    rw [ofMembers_of_collect_error herror] at h
    cases h

/-! ### Edits -/

/-- A change of the members of one of the rules, at any place of the list. -/
inductive AtRule (change : Members → Members → Prop) : Members → Members → Prop
  | rule (before after : Members) (first last : List Json) {ms ms' : Members} : change ms ms' →
      AtRule change (before ++ ("mapping", .array (first ++ .object ms :: last)) :: after)
        (before ++ ("mapping", .array (first ++ .object ms' :: last)) :: after)

/-- A change in how a definition is spelled. -/
inductive Edit : Members → Members → Prop
  | members {ms ms' : Members} : Document.Edit fieldSet ms ms' → Edit ms ms'
  | rule {ms ms' : Members} : AtRule (Document.Edit Rule.fieldSet) ms ms' → Edit ms ms'

/-- Where one rule's members change, that is a change of the value of the mapping and of no other
field. -/
theorem SpelledBy.atRule {d : Definition} {change : Members → Members → Prop} {ms ms' : Members}
    (h : d.SpelledBy ms) (hchange : AtRule change ms ms') :
    ∃ (xs : List Rule) (r : Rule) (ys : List Rule) (first last : List Json) (m m' : Members),
      d.mapping = xs ++ r :: ys ∧ List.Forall₂ Rule.SpelledBy xs first ∧
      Rule.fieldSet.Gives m r.value? ∧ change m m' ∧ List.Forall₂ Rule.SpelledBy ys last ∧
      fieldSet.Gives ms' (d.value? (first ++ .object m' :: last)) := by
  obtain ⟨hrules, hgives⟩ := h
  cases hchange with
  | rule before after first last hm =>
    rename_i rules m m'
    -- the mapping is given once, so the list that changes is the one of the rules
    obtain ⟨hvalue, hgives⟩ := hgives.replace rfl (.array (first ++ .object m' :: last))
    obtain rfl : rules = first ++ .object m :: last := by injection Option.some.inj hvalue
    have hvalues : (fun g => if g = .mapping then some (.array (first ++ .object m' :: last))
        else d.value? (first ++ .object m :: last) g)
        = d.value? (first ++ .object m' :: last) := by
      funext g
      cases g <;> rfl
    have hfirst := List.forall₂_take_append _ _ _ hrules
    have hrest := List.forall₂_drop_append _ _ _ hrules
    obtain ⟨r, ys, hr, hlast, hdrop⟩ := List.forall₂_cons_right_iff.mp hrest
    cases hr with
    | object hr =>
      refine ⟨_, r, ys, first, last, m, m', ?_, hfirst, hr, hm, hlast, hvalues ▸ hgives⟩
      rw [← hdrop, List.take_append_drop]

theorem SpelledBy.edit {d : Definition} {ms ms' : Members} (h : d.SpelledBy ms)
    (hedit : Edit ms ms') : d.SpelledBy ms' := by
  cases hedit with
  | members hmembers =>
    obtain ⟨hrules, hgives⟩ := h
    exact .members hrules (hgives.edit hmembers)
  | rule hrule =>
    obtain ⟨xs, r, ys, first, last, m, m', hmapping, hfirst, hm, hedit, hlast, hgives⟩ :=
      h.atRule hrule
    refine .members ?_ hgives
    rw [hmapping]
    exact List.rel_append hfirst (.cons (.object (hm.edit hedit)) hlast)

theorem SpelledBy.edits {d : Definition} {ms ms' : Members} (h : d.SpelledBy ms)
    (hedits : Relation.ReflTransGen Edit ms ms') : d.SpelledBy ms' := by
  induction hedits with
  | refl => exact h
  | tail _ hedit ih => exact ih.edit hedit

/-! ### Repetitions -/

theorem ofMembers_of_repeat {d : Definition} {f : Field} {ms ms' : Members} (h : d.SpelledBy ms)
    (hrepeat : Document.Repeat fieldSet f ms ms') :
    ofMembers ms' = .error (.repeated (fieldSet.name f)) := by
  obtain ⟨_, hgives⟩ := h
  exact ofMembers_of_collect_error (collect_of_repeat hrepeat hgives.once)

theorem ofMembers_of_atRule_repeat {d : Definition} (hd : d.DistinctKeys) {f : Rule.Field}
    {ms ms' : Members} (h : d.SpelledBy ms) (hrepeat : AtRule (Document.Repeat Rule.fieldSet f) ms ms') :
    ofMembers ms' = .error (.repeated (Rule.fieldSet.name f)) := by
  obtain ⟨xs, r, ys, first, last, m, m', -, hfirst, hm, hrepeat, -, hgives⟩ := h.atRule hrepeat
  -- the rules before it are read, so the list has its error, whatever comes after it
  rw [ofMembers_of_gives hd hgives, readAll_ofItems_error last
    (hfirst.imp fun r j hj => Rule.ofDocument_of_spelledBy hj) (Rule.ofDocument_of_repeat hm hrepeat)]
  rfl

/-! ### The written form and its edits -/

/-- The written form of a definition is read back, and so is whatever edits turn it into; a member that
repeats a field, of the definition or of a rule, makes reading fail and name the field. -/
theorem ofMembers_of_edits (d : Definition) (hd : d.DistinctKeys) {ms : Members}
    (h : Relation.ReflTransGen Edit d.toMembers ms) :
    ofMembers ms = .ok d.withoutNullBody ∧
      (∀ (f : Field) (ms' : Members), Document.Repeat fieldSet f ms ms' →
        ofMembers ms' = .error (.repeated (fieldSet.name f))) ∧
      (∀ (f : Rule.Field) (ms' : Members), AtRule (Document.Repeat Rule.fieldSet f) ms ms' →
        ofMembers ms' = .error (.repeated (Rule.fieldSet.name f))) := by
  have hspelled := d.toMembers_spells.edits h
  exact ⟨ofMembers_of_spelledBy hd hspelled, fun f ms' => ofMembers_of_repeat hspelled,
    fun f ms' => ofMembers_of_atRule_repeat hd hspelled⟩

theorem ofMembers_of_edits_renamed :
    let d : Definition := { basic "a" .post "h" "/x" with
      body := some .null, mapping := [⟨"s", "x"⟩, ⟨"t", "y"⟩] }
    let mapping (second : Members) : String × Json :=
      ("mapping", .array [Rule.toJson ⟨"s", "x"⟩, .object second])
    let second : Members := [("to", .string "y"), ("source", .string "t")]
    let rest : Members := [("note", .bool true), ("id", .string "a"), ("method", .string "POST"),
      ("host", .string "h"), ("path", .string "/x"), ("parameters", .object []),
      ("headers", .object []), ("body", .null)]
    ofMembers (mapping second :: rest) = .ok { d with body := none } ∧
      ofMembers (("url", .string "/y") :: mapping second :: rest) = .error (.repeated "url") ∧
      ofMembers (mapping (second ++ [("from", .string "u")]) :: rest)
        = .error (.repeated "source") := by
  intro d mapping second rest
  have hd : d.DistinctKeys :=
    ⟨.object List.nodup_nil (List.forall_mem_nil _), .object List.nodup_nil (List.forall_mem_nil _),
      fun b hb => by
        cases hb
        exact .null⟩
  have hnote : Edit d.toMembers (("note", .bool true) :: d.toMembers) :=
    .members (.ignored [] _ _ rfl)
  have hpath : Edit (("note", .bool true) :: d.toMembers)
      (rest ++ [mapping (Rule.toMembers ⟨"t", "y"⟩)]) :=
    .members (.renamed (rest.take 4) (rest.drop 5 ++ [_]) _ rfl rfl)
  have hto : Edit (rest ++ [mapping (Rule.toMembers ⟨"t", "y"⟩)]) (rest ++ [mapping second.reverse]) :=
    .rule (.rule rest [] [_] [] (.renamed [_] [] _ rfl rfl))
  have hsecond : Edit (rest ++ [mapping second.reverse]) (rest ++ [mapping second]) :=
    .rule (.rule rest [] [_] [] (.reorder second.reverse_perm))
  have hfront : Edit (rest ++ [mapping second]) (mapping second :: rest) :=
    .members (.reorder (List.perm_append_singleton _ _))
  have hedits := ((((Relation.ReflTransGen.single hnote).tail hpath).tail hto).tail hsecond).tail hfront
  obtain ⟨hread, htwice, hruleTwice⟩ := ofMembers_of_edits d hd hedits
  refine ⟨hread, htwice .url _ ?_, hruleTwice .source _ (.rule [] rest [_] [] ?_)⟩
  · exact .added [] _ _ rfl ⟨("path", .string "/x"), by decide, rfl⟩
  · exact .added second [] _ rfl ⟨("source", .string "t"), by decide, rfl⟩

end Definition

end ApiChain
