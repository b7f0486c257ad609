import ApiChain.Document.Fields
import Mathlib.Data.List.Perm.Basic
import Mathlib.Data.List.Nodup

/-!
# What a reader sees of the members

A reader of a record takes the members whose keys stand for its fields, and it takes them by field. So
it does not see the order of the members, members that are no fields, and which of its names a field is
given by.

* **`FieldSet.known`** is what is seen of the members of an object;
* **`collect_of_nodup`, `collect_of_repeated`**: the reader has a result exactly if no field is given
  twice, and else it says which one is;
* **`Edit`** is a change that is not seen (`Edit.known_perm`), **`Repeat`** one that is refused
  (`collect_of_repeat`);
* **`FieldSet.Gives`**: the members give each field at most once, and with such a value; edits keep this.
-/

namespace ApiChain.Document

variable {F : Type} [DecidableEq F] (fs : FieldSet F)

/-- The fields among some members, each with its value. -/
def FieldSet.known (ms : List (String × Json)) : List (F × Json) :=
  ms.filterMap fun m => (fs.ofKey? m.1).map fun f => (f, m.2)

/-! ## Collecting -/

section Collect

variable {fs}

omit [DecidableEq F] in
theorem FieldSet.known_append (ms ms' : List (String × Json)) :
    fs.known (ms ++ ms') = fs.known ms ++ fs.known ms' := List.filterMap_append

omit [DecidableEq F] in
theorem FieldSet.known_cons_field {key : String} {f : F} (h : fs.ofKey? key = some f) (value : Json)
    (ms : List (String × Json)) : fs.known ((key, value) :: ms) = (f, value) :: fs.known ms := by
  simp [known, h]

omit [DecidableEq F] in
theorem FieldSet.known_cons_other {key : String} (h : fs.ofKey? key = none) (value : Json)
    (ms : List (String × Json)) : fs.known ((key, value) :: ms) = fs.known ms := by
  simp [known, h]

theorem collect_cons_field {key : String} {f : F} (h : fs.ofKey? key = some f) (value : Json)
    (ms : List (String × Json)) :
    collect fs (ofMembers ((key, value) :: ms))
      = (collect fs (ofMembers ms)).bind fun found =>
          if found.any fun e => e.1 == f then .error (.repeated (fs.name f))
          else .ok ((f, ofJson value) :: found) := by
  show (collect fs (ofMembers ms)).bind _ = _
  rw [h]

theorem collect_cons_other {key : String} (h : fs.ofKey? key = none) (value : Json)
    (ms : List (String × Json)) :
    collect fs (ofMembers ((key, value) :: ms)) = collect fs (ofMembers ms) := by
  show (collect fs (ofMembers ms)).bind _ = _
  rw [h]
  cases collect fs (ofMembers ms) <;> rfl

/-- Among the fields that a reader has found there are those of the members. -/
theorem any_found (ms : List (String × Json)) (f : F) :
    ((fs.known ms).map fun p => (p.1, ofJson p.2)).any (fun e => e.1 == f)
      = decide (f ∈ (fs.known ms).map Prod.fst) := by
  rw [List.any_map, Bool.eq_iff_iff, List.any_eq_true, decide_eq_true_iff, List.mem_map]
  simp

theorem collect_of_nodup {ms : List (String × Json)} (h : ((fs.known ms).map Prod.fst).Nodup) :
    collect fs (ofMembers ms) = .ok ((fs.known ms).map fun p => (p.1, ofJson p.2)) := by
  induction ms with
  | nil => rfl
  | cons m rest ih =>
    obtain ⟨key, value⟩ := m
    cases hkey : fs.ofKey? key with
    | none =>
      rw [FieldSet.known_cons_other hkey] at h ⊢
      rw [collect_cons_other hkey, ih h]
    | some f =>
      rw [FieldSet.known_cons_field hkey, List.map_cons, List.nodup_cons] at h
      obtain ⟨hnew, hrest⟩ := h
      rw [FieldSet.known_cons_field hkey, collect_cons_field hkey, ih hrest, Except.bind, any_found,
        decide_eq_false hnew, if_neg Bool.false_ne_true]
      rfl

/-- A reader that refuses the members names a field that is given twice. -/
theorem collect_of_repeated {ms : List (String × Json)} (h : ¬ ((fs.known ms).map Prod.fst).Nodup) :
    ∃ f, 1 < ((fs.known ms).map Prod.fst).count f ∧
      collect fs (ofMembers ms) = .error (.repeated (fs.name f)) := by
  induction ms with
  | nil => exact absurd List.nodup_nil h
  | cons m rest ih =>
    obtain ⟨key, value⟩ := m
    cases hkey : fs.ofKey? key with
    | none =>
      rw [FieldSet.known_cons_other hkey] at h ⊢
      rw [collect_cons_other hkey]
      exact ih h
    | some f =>
      rw [FieldSet.known_cons_field hkey, List.map_cons] at h ⊢
      rw [collect_cons_field hkey]
      by_cases hrest : ((fs.known rest).map Prod.fst).Nodup
      · -- the later members are fine, so it is this one that comes again
        have hmem : f ∈ (fs.known rest).map Prod.fst := by
          by_contra hnew
          exact h (List.nodup_cons.mpr ⟨hnew, hrest⟩)
        have hpos := List.count_pos_iff.mpr hmem
        refine ⟨f, ?_, ?_⟩
        · rw [List.count_cons_self]
          omega
        · rw [collect_of_nodup hrest, Except.bind, any_found, decide_eq_true hmem, if_pos rfl]
      · obtain ⟨g, hcount, herror⟩ := ih hrest
        refine ⟨g, ?_, by rw [herror]; rfl⟩
        rw [List.count_cons]
        omega

theorem lookup_cons_eq_ite {β : Type} (f k : F) (v : β) (l : List (F × β)) :
    ((k, v) :: l).lookup f = if f = k then some v else l.lookup f := by
  by_cases h : f = k
  · simp [h]
  · have hb : (f == k) = false := by simp [h]
    simp [List.lookup_cons, hb, h]

theorem lookup_map {β γ : Type} (g : β → γ) (l : List (F × β)) (f : F) :
    (l.map fun p => (p.1, g p.2)).lookup f = (l.lookup f).map g := by
  induction l with
  | nil => rfl
  | cons p rest ih =>
    rw [List.map_cons, lookup_cons_eq_ite, lookup_cons_eq_ite, ih, apply_ite (Option.map g),
      Option.map_some]

/-- Where each field has one value, the order does not count for lookups. -/
theorem lookup_perm {β : Type} {l l' : List (F × β)} (h : l.Perm l')
    (hnodup : (l.map Prod.fst).Nodup) (f : F) : l.lookup f = l'.lookup f := by
  induction h with
  | nil => rfl
  | cons p _ ih =>
    rw [List.map_cons, List.nodup_cons] at hnodup
    rw [lookup_cons_eq_ite, lookup_cons_eq_ite, ih hnodup.2]
  | swap p q l =>
    obtain ⟨g, v⟩ := p
    obtain ⟨k, w⟩ := q
    have hne : k ≠ g := fun heq => by simp [heq] at hnodup
    simp only [lookup_cons_eq_ite]
    by_cases hg : f = g
    · subst hg
      rw [if_neg (Ne.symm hne), if_pos rfl, if_pos rfl]
    · rw [if_neg hg, if_neg hg]
  | trans hfirst _ ih ih' =>
    exact (ih hnodup).trans (ih' ((hfirst.map _).nodup_iff.mp hnodup))

end Collect

/-! ## Edits -/

/-- A change in how members are written: another order, a member more whose key is no field, or another
name of the same field. -/
inductive Edit : List (String × Json) → List (String × Json) → Prop
  | reorder {ms ms' : List (String × Json)} : ms.Perm ms' → Edit ms ms'
  | ignored (before after : List (String × Json)) {key : String} (value : Json) :
      fs.ofKey? key = none → Edit (before ++ after) (before ++ (key, value) :: after)
  | renamed (before after : List (String × Json)) {key key' : String} {f : F} (value : Json) :
      fs.ofKey? key = some f → fs.ofKey? key' = some f →
        Edit (before ++ (key, value) :: after) (before ++ (key', value) :: after)

/-- A member more for a field that is given already, under any of its names and with any value. -/
inductive Repeat (f : F) : List (String × Json) → List (String × Json) → Prop
  | added (before after : List (String × Json)) {key : String} (value : Json) :
      fs.ofKey? key = some f → (∃ m ∈ before ++ after, fs.ofKey? m.1 = some f) →
        Repeat f (before ++ after) (before ++ (key, value) :: after)

variable {fs} {ms ms' : List (String × Json)}

omit [DecidableEq F] in
theorem Edit.known_perm (h : Edit fs ms ms') : (fs.known ms).Perm (fs.known ms') := by
  cases h with
  | reorder hperm => exact hperm.filterMap _
  | ignored before after value hkey =>
    rw [FieldSet.known_append, FieldSet.known_append, FieldSet.known_cons_other hkey]
  | renamed before after value hkey hkey' =>
    rw [FieldSet.known_append, FieldSet.known_append, FieldSet.known_cons_field hkey,
      FieldSet.known_cons_field hkey']

theorem collect_of_repeat {f : F} (h : Repeat fs f ms ms')
    (hnodup : ((fs.known ms).map Prod.fst).Nodup) :
    collect fs (ofMembers ms') = .error (.repeated (fs.name f)) := by
  cases h with
  | added before after value hkey hgiven =>
    rename_i key
    obtain ⟨m, hm, hfield⟩ := hgiven
    have hmem : f ∈ (fs.known (before ++ after)).map Prod.fst :=
      List.mem_map.mpr ⟨(f, m.2), List.mem_filterMap.mpr ⟨m, hm, by rw [hfield]; rfl⟩, rfl⟩
    have hperm : ((fs.known (before ++ (key, value) :: after)).map Prod.fst).Perm
        (f :: (fs.known (before ++ after)).map Prod.fst) := by
      rw [FieldSet.known_append, FieldSet.known_cons_field hkey, FieldSet.known_append]
      exact List.perm_middle.map Prod.fst
    have hrepeated : ¬ ((fs.known (before ++ (key, value) :: after)).map Prod.fst).Nodup := by
      rw [hperm.nodup_iff, List.nodup_cons]
      exact fun hnew => hnew.1 hmem
    -- no other field is given twice, so this is the one that the reader names
    obtain ⟨g, hcount, herror⟩ := collect_of_repeated hrepeated
    rw [hperm.count_eq, List.count_cons] at hcount
    have honce := List.nodup_iff_count_le_one.mp hnodup g
    have heq : f = g := by
      by_contra hne
      have hb : (f == g) = false := by simp [hne]
      rw [hb, if_neg Bool.false_ne_true] at hcount
      omega
    rw [herror, heq]

/-! ## Fields and their values -/

/-- Some fields with their values, those left out that have none. -/
def valued (value? : F → Option Json) (l : List F) : List (F × Json) :=
  l.filterMap fun f => (value? f).map fun j => (f, j)

omit [DecidableEq F] in
theorem fields_valued (value? : F → Option Json) (l : List F) :
    (valued value? l).map Prod.fst = l.filter fun f => (value? f).isSome := by
  induction l with
  | nil => rfl
  | cons f rest ih =>
    rw [valued] at ih ⊢
    cases hv : value? f <;> simp [hv, ih]

theorem lookup_valued (value? : F → Option Json) (l : List F) (f : F) :
    (valued value? l).lookup f = if f ∈ l then value? f else none := by
  induction l with
  | nil => rfl
  | cons g rest ih =>
    rw [valued] at ih ⊢
    by_cases hg : f = g
    · subst hg
      cases hv : value? f with
      | some j => simp [hv]
      | none => simp [hv, ih]
    · cases hv : value? g <;> simp [hv, ih, hg, lookup_cons_eq_ite]

/-- The members give each field at most once, and with this value. -/
structure FieldSet.Gives (fs : FieldSet F) (ms : List (String × Json)) (value? : F → Option Json) :
    Prop where
  once : ((fs.known ms).map Prod.fst).Nodup
  value : ∀ f, (fs.known ms).lookup f = value? f

namespace FieldSet.Gives

variable {value? : F → Option Json}

theorem of_perm (h : fs.Gives ms value?) (hperm : (fs.known ms).Perm (fs.known ms')) :
    fs.Gives ms' value? where
  once := (hperm.map _).nodup_iff.mp h.once
  value f := (lookup_perm hperm h.once f).symm.trans (h.value f)

/-- Members that are written field by field give the fields. -/
theorem of_valued (hall : fs.all.Nodup) (hmem : ∀ f, f ∈ fs.all)
    (h : fs.known ms = valued value? fs.all) : fs.Gives ms value? where
  once := by
    rw [h, fields_valued]
    exact hall.filter _
  value f := by rw [h, lookup_valued, if_pos (hmem f)]

theorem edit (h : fs.Gives ms value?) (hedit : Edit fs ms ms') : fs.Gives ms' value? :=
  h.of_perm hedit.known_perm

/-- What the reader has of each field. -/
theorem found (h : fs.Gives ms value?) : ∃ found : List (F × Document),
    (∀ least, fields fs least (.record (ofMembers ms)) = .ok found) ∧
      ∀ f, found.lookup f = (value? f).map ofJson := by
  refine ⟨_, fun least => collect_of_nodup h.once, fun f => ?_⟩
  rw [lookup_map, h.value]

/-- A member for a field has the field's value, and another value for it changes no other field. -/
theorem replace {before after : List (String × Json)} {key : String} {f : F} {value : Json}
    (h : fs.Gives (before ++ (key, value) :: after) value?) (hkey : fs.ofKey? key = some f)
    (value' : Json) : value? f = some value ∧
      fs.Gives (before ++ (key, value') :: after)
        (fun g => if g = f then some value' else value? g) := by
  have hperm : ∀ v, (fs.known (before ++ (key, v) :: after)).Perm
      ((f, v) :: fs.known (before ++ after)) := by
    intro v
    rw [known_append, known_cons_field hkey, known_append]
    exact List.perm_middle
  have hlookup := fun g => (lookup_perm (hperm value) h.once g).symm.trans (h.value g)
  have honce := ((hperm value).map Prod.fst).nodup_iff.mp h.once
  have honce' := ((hperm value').map Prod.fst).nodup_iff.mpr honce
  refine ⟨?_, honce', fun g => ?_⟩
  · rw [← hlookup f, List.lookup_cons_self]
  · rw [lookup_perm (hperm value') honce', ← hlookup g, lookup_cons_eq_ite, lookup_cons_eq_ite]
    by_cases hg : g = f
    · rw [if_pos hg, if_pos hg]
    · rw [if_neg hg, if_neg hg, if_neg hg]

end FieldSet.Gives

/-! ## Reading a field -/

section Field

variable {found : List (F × Document)} {f : F} {α : Type} {read : Document → Decoded α}

theorem required_of_lookup {d : Document} (h : found.lookup f = some d) :
    required fs found f read = read d := by rw [required, h]

theorem withDefault_of_lookup {d : Document} (default : α) (h : found.lookup f = some d) :
    withDefault found f default read = read d := by rw [withDefault, h]

theorem optional_asText {text? : Option String}
    (h : found.lookup f = (text?.map Json.string).map ofJson) :
    optional found f asText = .ok text? := by
  rw [optional, withDefault, h]
  cases text? <;> rfl

end Field

/-! ## Lists of items -/

section Items

variable {α : Type} {read : Document → Decoded α} {items : List Json} {xs : List α}

theorem readAll_ofItems (h : List.Forall₂ (fun x j => read (ofJson j) = .ok x) xs items) :
    readAll read (ofItems items) = .ok xs := by
  induction h with
  | nil => rfl
  | cons hj _ ih =>
    rw [ofItems, readAll, hj, ih]
    rfl

/-- The error of the first item that is refused is the error of the list. -/
theorem readAll_ofItems_error {e : DecodeError} {j : Json} (last : List Json)
    (h : List.Forall₂ (fun x j => read (ofJson j) = .ok x) xs items)
    (hj : read (ofJson j) = .error e) : readAll read (ofItems (items ++ j :: last)) = .error e := by
  induction h with
  | nil =>
    rw [List.nil_append, ofItems, readAll, hj]
    rfl
  | cons hfirst _ ih =>
    rw [List.cons_append, ofItems, readAll, hfirst, ih]
    rfl

end Items

end ApiChain.Document
