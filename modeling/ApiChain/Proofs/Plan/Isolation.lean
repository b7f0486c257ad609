import ApiChain.Proofs.Path.Slots
import ApiChain.Proofs.Template.Pieces
import ApiChain.Plan
import Mathlib.Data.List.OfFn

/-!
# What a request shows of the stored responses

A plan reads one payload of the store, that of the call it depends on. A fan-out reads even less: it
plans a request for each element of the payload's data, and fills the holes of each from a view that
holds this element and nothing else.

* **`Plan.of_congr`**: a plan is told by the payload of its dependency.
* **`Plan.fanOut_isolated`**: a request of a fan-out is told by its element, so neither the other
  elements nor the rest of the payload show in it.
* **`Definition.elementView_holds_slot`**: a hole that broadcasts is filled with what the broadcast
  finds in the element's own slot.
-/

namespace ApiChain

open Template (Piece scan fill fillMembers fillJson fillPiece replacement?)

/-! ## The requests of a fan-out -/

/-- The payload of the identifier has these elements for its data, in an envelope or bare. -/
def Store.HoldsElements (store : Store) (api : String) (elements : List Json) : Prop :=
  ∃ payload, store.get? api = some payload ∧ dataOf payload = .array elements

namespace Plan

theorem of_congr {d : Definition} {s s' : Store}
    (h : ∀ dependency, d.previous = some dependency → s.get? dependency = s'.get? dependency) :
    of d s = of d s' := by
  have hbasis : d.basis s = d.basis s' := by
    cases hprevious : d.previous with
    | none => simp only [Definition.basis, hprevious]
    | some dependency => simp only [Definition.basis, hprevious, h dependency hprevious]
  rw [of, of, hbasis]

/-- The plan of a definition that broadcasts over a list. -/
theorem of_holdsElements {d : Definition} {dependency : String}
    (hprevious : d.previous = some dependency) (hrefers : d.referencesBroadcast dependency = true)
    {store : Store} {elements : List Json} (hstore : store.HoldsElements dependency elements) :
    of d store
      = .fanOut (elements.map fun e => d.filledRequest dependency (Definition.elementView e)) := by
  obtain ⟨payload, hpayload, hdata⟩ := hstore
  have hbasis : d.basis store = .each dependency elements := by
    simp only [Definition.basis, hprevious, hpayload, hdata, hrefers, if_true]
  rw [of, hbasis, ofBasis]

/-- **A fan-out sends one request for each element, told by that element alone.** Let a definition
depend on a call and broadcast over it.

* Where the data of the call's payload are a list, the plan has one request for each element, in
  order: its URL, its parameters and its body are the definition's, filled from the view of the element.
* Two stores, their lists having the same element at one place each, plan the same request there.
* Elements in another order give the requests in that order.
* It makes no difference whether the list is the payload or stands in an envelope. -/
theorem fanOut_isolated (d : Definition) (dependency : String)
    (hprevious : d.previous = some dependency)
    (hrefers : d.referencesBroadcast dependency = true) :
    (∀ (store : Store) (elements : List Json), store.HoldsElements dependency elements →
      ∃ requests, of d store = .fanOut requests ∧ requests.length = elements.length ∧
        ∀ (i : Nat) (h : i < elements.length),
          let view := Definition.elementView elements[i]
          requests[i]? = some (d.assemble (fill view dependency d.url)
            (fillMembers view dependency d.parameters) (d.body.map (fillJson view dependency)))) ∧
    (∀ (store₁ store₂ : Store) (elements₁ elements₂ : List Json),
      store₁.HoldsElements dependency elements₁ → store₂.HoldsElements dependency elements₂ →
      ∀ (i j : Nat) (e : Json), elements₁[i]? = some e → elements₂[j]? = some e →
        ∃ r, (of d store₁).requests[i]? = some r ∧ (of d store₂).requests[j]? = some r) ∧
    (∀ (n : Nat) (elements : Fin n → Json) (σ : Equiv.Perm (Fin n)) (store₁ store₂ : Store),
      store₁.HoldsElements dependency (List.ofFn elements) →
      store₂.HoldsElements dependency (List.ofFn fun i => elements (σ i)) →
      ∃ requests : Fin n → Request, of d store₁ = .fanOut (List.ofFn requests) ∧
        of d store₂ = .fanOut (List.ofFn fun i => requests (σ i))) ∧
    ∀ (store₁ store₂ : Store) (elements : List Json) (members : Members),
      store₁.get? dependency = some (.array elements) →
      store₂.get? dependency = some (.object members) →
      Entries.get? members "data" = some (.array elements) → of d store₁ = of d store₂ := by
  refine ⟨?_, ?_, ?_, ?_⟩
  · intro store elements hstore
    refine ⟨_, of_holdsElements hprevious hrefers hstore, List.length_map _, ?_⟩
    intro i h view
    rw [List.getElem?_map, List.getElem?_eq_getElem h, Option.map_some, Definition.filledRequest]
  · intro store₁ store₂ elements₁ elements₂ hstore₁ hstore₂ i j e hi hj
    rw [of_holdsElements hprevious hrefers hstore₁, of_holdsElements hprevious hrefers hstore₂]
    refine ⟨d.filledRequest dependency (Definition.elementView e), ?_, ?_⟩
    · rw [requests, List.getElem?_map, hi, Option.map_some]
    · rw [requests, List.getElem?_map, hj, Option.map_some]
  · intro n elements σ store₁ store₂ hstore₁ hstore₂
    refine ⟨fun i => d.filledRequest dependency (Definition.elementView (elements i)), ?_, ?_⟩
    · rw [of_holdsElements hprevious hrefers hstore₁, List.map_ofFn]
      rfl
    · rw [of_holdsElements hprevious hrefers hstore₂, List.map_ofFn]
      rfl
  · intro store₁ store₂ elements members hbare henvelope hdata
    have hstore₁ : store₁.HoldsElements dependency elements := ⟨_, hbare, rfl⟩
    have hstore₂ : store₂.HoldsElements dependency elements :=
      ⟨_, henvelope, by rw [dataOf, hdata, Option.getD_some]⟩
    rw [of_holdsElements hprevious hrefers hstore₁, of_holdsElements hprevious hrefers hstore₂]

/-- Asks for the card of each user. -/
def cards : Definition :=
  (Definition.basic "cards" .get "api.test" "/u/{{users.data[*].id}}").withPrevious "users"

def user (id secret : String) : Json := .object [("id", .string id), ("secret", .string secret)]

/-- The same user comes second in a bare list and first in an envelope. -/
theorem fanOut_isolated_cards :
    cards.previous = some "users" ∧ cards.referencesBroadcast "users" = true ∧
      ∃ r, (of cards ⟨[("users", .array [user "1" "x", user "2" "y"])]⟩).requests[1]? = some r ∧
        (of cards ⟨[("users", .object [("total", .ofNat 9),
          ("data", .array [user "2" "y", user "3" "z"])])]⟩).requests[0]? = some r := by
  have hrefers : cards.referencesBroadcast "users" = true := by cbv
  obtain ⟨-, hisolated, -, -⟩ := fanOut_isolated cards "users" rfl hrefers
  exact ⟨rfl, hrefers, hisolated _ _ [user "1" "x", user "2" "y"] [user "2" "y", user "3" "z"]
    ⟨_, rfl, rfl⟩ ⟨_, rfl, rfl⟩ 1 0 _ rfl rfl⟩

end Plan

/-! ## The view of an element -/

namespace Definition

/-- The text that fills a hole from the view of an element, where the hole's path goes through the
envelope: the text of the element's slot. -/
theorem replacement?_elementView {element : Json} {dependency path : String} {slot : Resolved}
    (hview : (elementView element).resolve path = .sequence [slot]) {inner : List Char}
    (hinner : Placeholder.parseChars inner = ⟨dependency, path⟩) :
    replacement? (elementView element) dependency inner = slot.textChars? := by
  rw [replacement?, hinner]
  simp only [if_true, hview, Resolved.textChars?_singleton]

/-- **The view of an element holds the element's slot.** A broadcast through the envelope finds one slot
for each item. In the view of item `i` the same path finds slot `i` alone, so in every text the holes
with this path get the text of slot `i`; a hole stays as written if and only if the slot is
unresolved. -/
theorem elementView_holds_slot (items : List Json) (i : Nat) (hi : i < items.length)
    (suffix : String) (hwell : (Path.parse? ("data[*]" ++ suffix)).isSome) :
    ∃ slots : List Resolved,
      (Json.object [("data", .array items)]).resolve ("data[*]" ++ suffix) = .sequence slots ∧
      slots.length = items.length ∧
      ∃ slot, slots[i]? = some slot ∧
        (elementView items[i]).resolve ("data[*]" ++ suffix) = .sequence [slot] ∧
        (slot.text? = none ↔ slot.isUnresolved = true) ∧
        ∀ dependency text : String,
          (scan text.toList).flatMap Piece.chars = text.toList ∧
          ∀ (before after : List Piece) (inner : List Char),
            scan text.toList = before ++ .hole inner :: after →
            Placeholder.parseChars inner = ⟨dependency, "data[*]" ++ suffix⟩ →
            (fill (elementView items[i]) dependency text).toList
              = before.flatMap (fillPiece (elementView items[i]) dependency)
                ++ (match slot.text? with
                    | some found => found.toList
                    | none => (Piece.hole inner).chars)
                ++ after.flatMap (fillPiece (elementView items[i]) dependency) := by
  obtain ⟨rest, hsteps⟩ := Path.parse?_envelope hwell
  have hne : "data[*]" ++ suffix ≠ "" := by simp [String.append_eq_empty_iff]
  have hresolve : ∀ elements : List Json,
      (Json.object [("data", .array elements)]).resolve ("data[*]" ++ suffix)
        = .sequence (elements.map rest.resolve) := fun elements => by
    rw [Json.resolve_of_parse? hne hsteps, Path.resolve_envelope]
  have hview : (elementView items[i]).resolve ("data[*]" ++ suffix)
      = .sequence [rest.resolve items[i]] := hresolve [items[i]]
  refine ⟨items.map rest.resolve, hresolve items, List.length_map _, rest.resolve items[i], ?_,
    hview, Resolved.text?_eq_none_iff _, ?_⟩
  · rw [List.getElem?_map, List.getElem?_eq_getElem hi, Option.map_some]
  · intro dependency text
    refine ⟨Template.flatMap_chars_scan _, ?_⟩
    intro before after inner hscan hinner
    rw [Template.fill_of_scan _ _ hscan, fillPiece, replacement?_elementView hview hinner]
    cases h : (rest.resolve items[i]).textChars? with
    | none => simp [Resolved.text?, h]
    | some found => simp [Resolved.text?, h]

/-- The first person has two tags, one of them without a name. -/
theorem elementView_holds_slot_tags :
    (fill (elementView Json.taggedItems[0]) "users"
        "/t/{{ users.data[*].tags[*].name }}/{{x}}").toList = "/t/a,/{{x}}".toList := by
  have hwell : (Path.parse? ("data[*]" ++ ".tags[*].name")).isSome := by cbv
  obtain ⟨slots, -, -, slot, -, hview, -, hfill⟩ :=
    elementView_holds_slot Json.taggedItems 0 (by decide) ".tags[*].name" hwell
  have hslot : (elementView Json.taggedItems[0]).resolve ("data[*]" ++ ".tags[*].name")
      = .sequence [.sequence [.scalar (.string "a"), .undefined]] := by cbv
  rw [hslot, Resolved.sequence.injEq, List.cons.injEq] at hview
  obtain ⟨rfl, -⟩ := hview
  have hscan : scan "/t/{{ users.data[*].tags[*].name }}/{{x}}".toList
      = [.char '/', .char 't', .char '/'] ++ .hole " users.data[*].tags[*].name ".toList
        :: [.char '/', .hole ['x']] := by cbv
  have hinner : Placeholder.parseChars " users.data[*].tags[*].name ".toList
      = ⟨"users", "data[*]" ++ ".tags[*].name"⟩ := by cbv
  refine ((hfill "users" _).2 _ _ _ hscan hinner).trans ?_
  cbv

end Definition

end ApiChain
