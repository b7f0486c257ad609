import ApiChain.Proofs.Json.Printed
import ApiChain.Proofs.Plan.Isolation
import ApiChain.Proofs.Template.Taken
import ApiChain.Proofs.Text.Parts
import ApiChain.Proofs.Text.Trim

/-!
# The search for a broadcast

A definition is searched for a broadcast over its dependency before it is planned. The URL is searched
as it is filled. Of the parameters and the body the compact text is searched, while they are filled
string by string; so a broadcast that one of the strings holds may be hidden by the text around it and
by what is escaped.

* **`parseChars_dot`**: what stands in a hole, told by its first dot;
* **`broadcastsOver_escaped_iff`**: an escaped hole is a broadcast over the same call exactly if nothing
  is escaped before its first dot;
* **`holdsBroadcast_printed_iff`**: in the compact text a broadcast of a string is found exactly if also
  no pair of braces before it waits for a closing one;
* **`detects_shown_broadcasts`** says what this means for the plan of a definition.
-/

namespace ApiChain

open Json (Leaf escaped)
open Template (Piece TakesHole BroadcastsOver HoldsBroadcast Settled containsBroadcast)

/-! ## Holes with a path -/

namespace Placeholder

theorem parseChars_dot {name : List Char} (hname : '.' ∉ name) (path : List Char) :
    parseChars (name ++ '.' :: path)
      = ⟨String.ofList (Text.trimStart name), String.ofList (Text.trimEnd path)⟩ := by
  have hdot : Text.isBlank '.' = false := by decide
  have htrim : Text.trim (name ++ '.' :: path) = Text.trimStart name ++ '.' :: Text.trimEnd path := by
    rw [Text.trim, Text.trimStart_append_cons hdot, Text.trimEnd_append_cons hdot]
  have hstart : '.' ∉ Text.trimStart name := fun hmem =>
    hname ((Text.trimStart_isSuffix name).subset hmem)
  rw [parseChars_eq, nameIn, pathIn, htrim, Text.takeWhile_append_cons hstart,
    Text.dropWhile_append_cons hstart]
  simp

/-- A broadcast has a path, so a dot stands in its hole. -/
theorem exists_dot_of_isBroadcast {inner : List Char} (h : (parseChars inner).isBroadcast = true) :
    ∃ name path, '.' ∉ name ∧ inner = name ++ '.' :: path := by
  by_cases hdot : '.' ∈ inner
  · obtain ⟨name, path, hinner, hname⟩ := List.eq_append_cons_of_mem hdot
    exact ⟨name, path, hname, hinner⟩
  · have htrim : '.' ∉ Text.trim inner := fun hmem => hdot (Text.mem_of_mem_trim hmem)
    rw [parseChars, Text.splitOnce_eq, if_neg htrim] at h
    have hpath : Text.occursIn broadcastMark [] = true := h
    exact absurd hpath (by decide)

end Placeholder

/-! ## Escaped holes -/

/-- What stands in a hole before its first dot: a name, and the blanks that stand before the name. -/
def Template.beforeDot (inner : List Char) : List Char := inner.takeWhile (· ≠ '.')

theorem Template.beforeDot_append {name : List Char} (hname : '.' ∉ name) (path : List Char) :
    beforeDot (name ++ '.' :: path) = name :=
  Text.takeWhile_append_cons hname path

/-- A mark stays when a path is escaped and trimmed. -/
theorem Template.mark_escaped {path : List Char}
    (h : Placeholder.broadcastMark <:+: Text.trimEnd path) :
    Placeholder.broadcastMark <:+: Text.trimEnd (escaped path) := by
  obtain ⟨a, b, hpath⟩ := h.trans (Text.trimEnd_isPrefix path).isInfix
  have hmark : escaped Placeholder.broadcastMark = Placeholder.broadcastMark :=
    Json.escaped_marks (by simp [Placeholder.broadcastMark, Json.marks])
  -- the mark ends in a bracket, at which trimming stops
  have hescaped : escaped path = (escaped a ++ ['[', '*']) ++ ']' :: escaped b := by
    rw [← hpath, Json.escaped_append, Json.escaped_append, hmark]
    simp [Placeholder.broadcastMark]
  rw [hescaped, Text.trimEnd_append_cons (by decide)]
  exact ⟨escaped a, Text.trimEnd (escaped b), by simp [Placeholder.broadcastMark]⟩

/-- Escaping keeps a broadcast, and keeps the call that it names exactly if nothing before its first dot
is escaped. -/
theorem Template.broadcastsOver_escaped_iff {inner : List Char} {api : String}
    (h : BroadcastsOver inner api) :
    BroadcastsOver (escaped inner) api ↔ escaped (beforeDot inner) = beforeDot inner := by
  obtain ⟨name, path, hname, rfl⟩ := Placeholder.exists_dot_of_isBroadcast h.2
  have hdot : Json.Unescaped '.' := Json.unescaped_of_mem_marks (by decide)
  have hescaped : escaped (name ++ '.' :: path) = escaped name ++ '.' :: escaped path := by
    rw [Json.escaped_append, Json.escaped_cons, hdot.self, List.singleton_append]
  have hname' : '.' ∉ escaped name := mt (hdot.mem_escaped_iff name).mp hname
  obtain ⟨hapi, hmark⟩ := h
  rw [Placeholder.parseChars_dot hname] at hapi hmark
  rw [BroadcastsOver, hescaped, Placeholder.parseChars_dot hname', beforeDot_append hname, ← hapi,
    String.ofList_inj, Json.trimStart_escaped_iff]
  refine and_iff_left ?_
  rw [Placeholder.isBroadcast, Text.occursIn_iff, String.toList_ofList] at hmark ⊢
  exact mark_escaped hmark

theorem Json.escaped_hole (inner : List Char) :
    escaped (Piece.hole inner).chars = (Piece.hole (escaped inner)).chars := by
  have hopen : escaped ['{', '{'] = ['{', '{'] := escaped_marks (by simp [marks])
  have hclose : escaped ['}', '}'] = ['}', '}'] := escaped_marks (by simp [marks])
  rw [Piece.chars, escaped_append, escaped_append, hopen, hclose, Piece.chars]

/-! ## Holes in the compact text -/

/-- Nothing hides the hole that stands in the leaf behind `gap`: no pair of opening braces before it
waits for a closing one, and nothing is escaped before its first dot. -/
structure Json.Leaf.Shows (leaf : Leaf) (gap inner : List Char) : Prop where
  settled : Settled (leaf.before ++ '"' :: escaped gap)
  literal : escaped (Template.beforeDot inner) = Template.beforeDot inner

/-- A hole of a leaf is written, escaped, in the compact text. -/
theorem takesHole_printed_iff {value : Json} {leaf : Leaf} (hleaf : leaf ∈ value.leaves)
    {gap inner : List Char} (h : TakesHole leaf.text.toList gap inner) :
    TakesHole value.printChars (leaf.before ++ '"' :: escaped gap) (escaped inner) ↔
      Settled (leaf.before ++ '"' :: escaped gap) := by
  obtain ⟨hne, hfree, -, behind, htext⟩ := (Template.takesHole_iff _ _ _).mp h
  have hclosing : Json.Unescaped '}' := Json.unescaped_of_mem_marks (by decide)
  obtain ⟨after, hprinted⟩ := Json.standsIn_of_mem_leaves hleaf
  rw [Template.takesHole_iff]
  refine ⟨fun hstands => hstands.settled, fun hsettled => ⟨Json.escaped_ne_nil hne,
    mt (hclosing.mem_escaped_iff inner).mp hfree, hsettled, escaped behind ++ '"' :: after, ?_⟩⟩
  rw [← hprinted, Json.quoted_eq, htext, Json.escaped_append, Json.escaped_append,
    Json.escaped_hole]
  simp

/-- In the compact text a broadcast of a leaf is found exactly if nothing hides it. -/
theorem holdsBroadcast_printed_iff {value : Json} {leaf : Leaf} (hleaf : leaf ∈ value.leaves)
    {gap inner : List Char} {api : String} (h : HoldsBroadcast leaf.text.toList gap inner api) :
    HoldsBroadcast value.printChars (leaf.before ++ '"' :: escaped gap) (escaped inner) api ↔
      leaf.Shows gap inner := by
  have htakes := takesHole_printed_iff hleaf h.takes
  have hover := Template.broadcastsOver_escaped_iff h.broadcasts
  exact ⟨fun hfound => ⟨htakes.mp hfound.takes, hover.mp hfound.broadcasts⟩,
    fun hshows => ⟨htakes.mpr hshows.settled, hover.mpr hshows.literal⟩⟩

/-! ## The search -/

namespace Definition

/-- The values of the definition that are searched in their compact text. -/
def searched (d : Definition) : List Json := .object d.parameters :: d.body.toList

theorem referencesBroadcast_iff (d : Definition) (dependency : String) :
    d.referencesBroadcast dependency = true ↔
      containsBroadcast d.url dependency = true ∨
        ∃ value ∈ d.searched, containsBroadcast value.print dependency = true := by
  simp only [referencesBroadcast, searched, Bool.or_eq_true, List.exists_mem_cons_iff, or_assoc,
    Option.any_eq_true, Option.mem_toList]

/-- The broadcast is detected, so where the data of the dependency are a list the call is made once for
each element. -/
structure Detects (d : Definition) (dependency : String) : Prop where
  references : d.referencesBroadcast dependency = true
  fansOut : d.previous = some dependency → ∀ (store : Store) (elements : List Json),
    store.HoldsElements dependency elements → (Plan.of d store).isFanOut = true

theorem detects_of_references {d : Definition} {dependency : String}
    (h : d.referencesBroadcast dependency = true) : d.Detects dependency := by
  refine ⟨h, fun hprevious store elements hstore => ?_⟩
  rw [Plan.of_holdsElements hprevious h hstore]
  rfl

/-- **A broadcast is detected unless the compact text hides it.** A broadcast in the URL is always
detected. The leaves of the parameters and of the body are their strings, and a broadcast in one of them
is found in the compact text exactly if nothing hides it there: no key and no string before it leaves a
pair of opening braces waiting for a closing one, and no character of its name, nor a blank before the
name, is escaped. What is found is detected. -/
theorem detects_shown_broadcasts (d : Definition) (dependency : String) :
    (containsBroadcast d.url dependency = true → d.Detects dependency) ∧
    ∀ value ∈ d.searched, value.leaves.map Leaf.text = value.texts ∧
      ∀ leaf ∈ value.leaves,
        (containsBroadcast leaf.text dependency = true ↔
          ∃ gap inner, HoldsBroadcast leaf.text.toList gap inner dependency) ∧
        ∀ gap inner, HoldsBroadcast leaf.text.toList gap inner dependency →
          (HoldsBroadcast value.printChars (leaf.before ++ '"' :: escaped gap) (escaped inner)
              dependency ↔ leaf.Shows gap inner) ∧
          (leaf.Shows gap inner → d.Detects dependency) := by
  refine ⟨fun hurl => ?_, fun value hvalue => ⟨Json.map_text_leaves value, fun leaf hleaf => ?_⟩⟩
  · exact detects_of_references ((d.referencesBroadcast_iff dependency).mpr (.inl hurl))
  · refine ⟨Template.containsBroadcast_iff _ _, fun gap inner hholds => ?_⟩
    have hfound := holdsBroadcast_printed_iff hleaf hholds
    refine ⟨hfound, fun hshows => detects_of_references ?_⟩
    have hprinted : containsBroadcast value.print dependency = true := by
      rw [Template.containsBroadcast_iff, Json.print, String.toList_ofList]
      exact ⟨_, _, hfound.mpr hshows⟩
    exact (d.referencesBroadcast_iff dependency).mpr (.inr ⟨value, hvalue, hprinted⟩)

/-- A call for the roles of some users. -/
def roles (users : String) : Definition :=
  (basic "roles" .post "api.test" "/roles").withPrevious users

/-- A note with a pair of braces that it closes, and a hole with blanks of two kinds. -/
def notedBody : Json :=
  .object [("note", .string "\x7b\x7b\"a\"\x7d"),
    ("user", .string "by \x7b\x7b users.data[*].id\n\x7d\x7d")]

/-- The leaf with the hole, behind the escaped note. -/
def notedLeaf : Leaf where
  before := "\x7b\"note\":\"\x7b\x7b\\\"a\\\"\x7d\",\"user\":".toList
  text := "by \x7b\x7b users.data[*].id\n\x7d\x7d"

/-- The pair of braces in the note does not wait, and the escaped blank stands behind the name. -/
theorem detects_shown_broadcasts_noted :
    notedLeaf ∈ notedBody.leaves ∧
      HoldsBroadcast notedLeaf.text.toList "by ".toList " users.data[*].id\n".toList "users" ∧
      notedLeaf.Shows "by ".toList " users.data[*].id\n".toList ∧
      ((roles "users").withBody notedBody).Detects "users" := by
  obtain ⟨-, hsearched⟩ := detects_shown_broadcasts ((roles "users").withBody notedBody) "users"
  have hbody : notedBody ∈ ((roles "users").withBody notedBody).searched := by
    simp [searched, withBody]
  have hleaf : notedLeaf ∈ notedBody.leaves := by
    have hleaves : notedBody.leaves
        = [⟨"\x7b\"note\":".toList, "\x7b\x7b\"a\"\x7d"⟩, notedLeaf] := by cbv
    simp [hleaves]
  have hholds : HoldsBroadcast notedLeaf.text.toList "by ".toList " users.data[*].id\n".toList
      "users" := by
    refine ⟨⟨"by ".toList.map .char, [], ?_, rfl⟩, ?_, ?_⟩ <;> cbv
  have hsettled : Settled (notedLeaf.before ++ '"' :: escaped "by ".toList) :=
    (Template.settled_append_closing "\x7b\"note\":\"\x7b\x7b\\\"a\\\"".toList _).mpr
      (Template.settled_of_notMem (by decide))
  have hshows : notedLeaf.Shows "by ".toList " users.data[*].id\n".toList := ⟨hsettled, by cbv⟩
  obtain ⟨-, hholes⟩ := (hsearched notedBody hbody).2 notedLeaf hleaf
  exact ⟨hleaf, hholds, hshows, (hholes _ _ hholds).2 hshows⟩

/-- A string of the parameters or of the body holds a broadcast over the dependency, and yet the call is
not made once for each element, whatever is stored. -/
structure Misses (d : Definition) (dependency text : String) : Prop where
  inSearched : ∃ value ∈ d.searched, text ∈ value.texts
  broadcast : containsBroadcast text dependency = true
  undetected : d.referencesBroadcast dependency = false
  notMade : d.previous = some dependency ∧ ∀ store, (Plan.of d store).isFanOut = false

theorem isFanOut_of_not_references {d : Definition} {dependency : String}
    (hprevious : d.previous = some dependency) (h : d.referencesBroadcast dependency = false)
    (store : Store) : (Plan.of d store).isFanOut = false := by
  simp only [Plan.of, basis, hprevious, h, Bool.false_eq_true, if_false]
  cases store.get? dependency with
  | none => rfl
  | some payload =>
    dsimp only
    split <;> rfl

theorem misses_of_mem {d : Definition} {dependency text : String} {value : Json}
    (hvalue : value ∈ d.searched) (htext : text ∈ value.texts)
    (hbroadcast : containsBroadcast text dependency = true)
    (hprevious : d.previous = some dependency) (h : d.referencesBroadcast dependency = false) :
    d.Misses dependency text :=
  ⟨⟨value, hvalue, htext⟩, hbroadcast, h, hprevious, isFanOut_of_not_references hprevious h⟩

/-- The pair of braces in the note waits for a closing one. -/
def unclosedNote : Definition :=
  (roles "users").withBody (.object [("note", .string "\x7b\x7b"),
    ("user", .string "{{users.data[*].id}}")])

/-- A tab stands before the name. -/
def tabbed : Definition :=
  (roles "users").withParameter "user" (.string "\x7b\x7b\tusers.data[*].id\x7d\x7d")

/-- Quotes stand in the name. -/
def quotedName : Definition :=
  (roles "\"all\"").withParameter "user" (.string "\x7b\x7b\"all\".data[*].id\x7d\x7d")

/-- Broadcasts are missed behind a pair of braces that waits, behind an escaped blank, and in a name
with characters that are escaped. -/
theorem misses_hidden_broadcasts :
    unclosedNote.Misses "users" "{{users.data[*].id}}" ∧
      tabbed.Misses "users" "\x7b\x7b\tusers.data[*].id\x7d\x7d" ∧
      quotedName.Misses "\"all\"" "\x7b\x7b\"all\".data[*].id\x7d\x7d" := by
  refine ⟨?_, ?_, ?_⟩
  · refine misses_of_mem (List.mem_cons_of_mem _ (List.mem_singleton_self _)) ?_ ?_ rfl ?_
    · simp [Json.texts, Json.memberTexts]
    · cbv
    · cbv
  · have htexts : (Json.object tabbed.parameters).texts
        = ["\x7b\x7b\tusers.data[*].id\x7d\x7d"] := by cbv
    refine misses_of_mem List.mem_cons_self (htexts ▸ List.mem_singleton_self _) ?_ rfl ?_
    · cbv
    · cbv
  · have htexts : (Json.object quotedName.parameters).texts
        = ["\x7b\x7b\"all\".data[*].id\x7d\x7d"] := by cbv
    refine misses_of_mem List.mem_cons_self (htexts ▸ List.mem_singleton_self _) ?_ rfl ?_
    · cbv
    · cbv

end Definition

end ApiChain
