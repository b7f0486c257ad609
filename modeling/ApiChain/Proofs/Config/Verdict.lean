import ApiChain.Config.Basic
import Mathlib.Data.Nat.Find
import Mathlib.Data.List.Basic

/-!
# The verdict on a configuration

A configuration is refused for the first thing that is wrong with it: it has no definitions, a setting
cannot be used, or the first definition that is not sound lacks a field or repeats an identifier. On the
way a warning is reported for each dependency that no earlier definition answers.

* **`Verdict`** says, case by case, what is reported and what is refused, in terms of the places of the
  definitions and not of the search;
* **`checkDefinitions_of_soundBefore`**: the search goes past sound definitions and keeps their warnings;
* **`check_iff`**: the check gives this verdict and no other, and it accepts exactly the configurations
  that are well formed.
-/

namespace ApiChain.Config

/-! ## What a definition must have -/

/-- The definition has an identifier, and a host or an absolute URL. -/
structure Complete (d : Definition) : Prop where
  id : Text.allBlank d.id = false
  address : d.hasAbsoluteUrl = true ∨ Text.allBlank d.host = false

/-- What the definition at a place lacks: its identifier, or else an address. A definition without an
identifier is named by its place, counted from one. -/
inductive Lacks (place : Nat) (d : Definition) : ConfigError → Prop
  | id (hid : Text.allBlank d.id = true) :
      Lacks place d (.missingField ("#" ++ toString (place + 1)) "id")
  | host (hid : Text.allBlank d.id = false) (hurl : d.hasAbsoluteUrl = false)
      (hhost : Text.allBlank d.host = true) : Lacks place d (.missingField d.id "host")

theorem incomplete?_eq_some_of_lacks {place : Nat} {d : Definition} {e : ConfigError}
    (h : Lacks place d e) : incomplete? place d = some e := by
  cases h with
  | id hid => rw [incomplete?, if_pos hid]
  | host hid hurl hhost => simp [incomplete?, hid, hurl, hhost]

theorem incomplete?_of_complete {d : Definition} (h : Complete d) (place : Nat) :
    incomplete? place d = none := by
  rcases h.address with hurl | hhost
  · simp [incomplete?, h.id, hurl]
  · simp [incomplete?, h.id, hhost]

theorem complete_or_lacks (place : Nat) (d : Definition) :
    Complete d ∨ ∃ e, Lacks place d e := by
  cases hid : Text.allBlank d.id with
  | true => exact .inr ⟨_, .id hid⟩
  | false =>
    cases hurl : d.hasAbsoluteUrl with
    | true => exact .inl ⟨hid, .inl hurl⟩
    | false =>
      cases hhost : Text.allBlank d.host with
      | true => exact .inr ⟨_, .host hid hurl hhost⟩
      | false => exact .inl ⟨hid, .inr hhost⟩

/-! ## Places -/

section Places

variable (ds : List Definition)

/-- The identifiers of the definitions before a place. -/
def earlierIds (place : Nat) : List String := (ds.take place).map (·.id)

/-- The warning about the definition at a place: its dependency is no earlier definition. -/
def warningAt? (place : Nat) : Option Notice :=
  ds[place]?.bind fun d => d.previous.bind fun dependency =>
    if dependency ∈ earlierIds ds place then none else some (.unknownDependency d.id dependency)

/-- The warnings about the first `n` definitions, in their order. -/
def warnings (n : Nat) : List Notice := (List.range n).filterMap (warningAt? ds)

/-- The definitions before a place are complete, and none repeats an identifier. -/
def SoundBefore (place : Nat) : Prop :=
  ∀ i < place, ∀ d, ds[i]? = some d → Complete d ∧ d.id ∉ earlierIds ds i

end Places

variable {ds : List Definition} {place : Nat} {d : Definition}

theorem earlierIds_succ (hd : ds[place]? = some d) :
    earlierIds ds (place + 1) = earlierIds ds place ++ [d.id] := by
  rw [earlierIds, List.take_add_one, hd, List.map_append]
  rfl

theorem warnings_succ (ds : List Definition) (n : Nat) :
    warnings ds (n + 1) = warnings ds n ++ (warningAt? ds n).toList := by
  rw [warnings, List.range_succ, List.filterMap_append]
  cases h : warningAt? ds n with
  | none => simp [warnings, h]
  | some notice => simp [warnings, h]

theorem SoundBefore.mono {n : Nat} (h : SoundBefore ds n) (hle : place ≤ n) :
    SoundBefore ds place :=
  fun i hi d hd => h i (Nat.lt_of_lt_of_le hi hle) d hd

/-- The search reports what is to be reported about the definition at its place. -/
theorem dependencyNotices_eq (hd : ds[place]? = some d) :
    dependencyNotices (earlierIds ds place).reverse d = (warningAt? ds place).toList := by
  rw [dependencyNotices, warningAt?, hd, Option.bind_some]
  cases d.previous with
  | none => rfl
  | some dependency =>
    by_cases hseen : dependency ∈ earlierIds ds place
    · simp [hseen]
    · simp [hseen]

/-! ## The search -/

/-- The search from a place on. -/
def checkFrom (ds : List Definition) (place : Nat) : List Notice × Option ConfigError :=
  checkDefinitions place (earlierIds ds place).reverse (ds.drop place)

theorem drop_eq_cons (hd : ds[place]? = some d) : ds.drop place = d :: ds.drop (place + 1) := by
  obtain ⟨hlt, rfl⟩ := List.getElem?_eq_some_iff.mp hd
  exact List.drop_eq_getElem_cons hlt

theorem checkFrom_of_lacks (hd : ds[place]? = some d) {e : ConfigError} (h : Lacks place d e) :
    checkFrom ds place = ([], some e) := by
  rw [checkFrom, drop_eq_cons hd, checkDefinitions, incomplete?_eq_some_of_lacks h]

theorem checkFrom_of_repeats (hd : ds[place]? = some d) (hcomplete : Complete d)
    (h : d.id ∈ earlierIds ds place) :
    checkFrom ds place = ((warningAt? ds place).toList, some (.duplicateId d.id)) := by
  have hseen : (earlierIds ds place).reverse.contains d.id = true := by simpa using h
  rw [checkFrom, drop_eq_cons hd, checkDefinitions, incomplete?_of_complete hcomplete,
    ← dependencyNotices_eq hd]
  simp only [hseen, if_true]

theorem checkFrom_of_sound (hd : ds[place]? = some d) (hcomplete : Complete d)
    (h : d.id ∉ earlierIds ds place) :
    checkFrom ds place
      = ((warningAt? ds place).toList ++ (checkFrom ds (place + 1)).1,
          (checkFrom ds (place + 1)).2) := by
  have hseen : (earlierIds ds place).reverse.contains d.id = false := by simpa using h
  have hnext : checkFrom ds (place + 1)
      = checkDefinitions (place + 1) (d.id :: (earlierIds ds place).reverse)
          (ds.drop (place + 1)) := by
    rw [checkFrom, earlierIds_succ hd, List.reverse_concat]
  rw [hnext, checkFrom, drop_eq_cons hd, checkDefinitions, incomplete?_of_complete hcomplete,
    ← dependencyNotices_eq hd]
  simp only [hseen, Bool.false_eq_true, if_false]

/-- The search goes past sound definitions and keeps their warnings. -/
theorem checkDefinitions_of_soundBefore (hsound : SoundBefore ds place)
    (hplace : place ≤ ds.length) :
    checkDefinitions 0 [] ds
      = (warnings ds place ++ (checkFrom ds place).1, (checkFrom ds place).2) := by
  -- on the number of definitions passed; the last of them is one step of the search
  induction place with
  | zero => rfl
  | succ n ih =>
    have hd : ds[n]? = some ds[n] := List.getElem?_eq_getElem hplace
    obtain ⟨hcomplete, hnew⟩ := hsound n (Nat.lt_succ_self n) _ hd
    rw [ih (hsound.mono (Nat.le_succ n)) (Nat.le_of_succ_le hplace),
      checkFrom_of_sound hd hcomplete hnew, warnings_succ, List.append_assoc]

/-! ## Verdicts -/

/-- The settings can be used, and there is something to run. -/
structure Runnable (c : Config) : Prop where
  nonempty : c.definitions ≠ []
  timeout : c.settings.timeout ≠ some 0
  delimiter : c.delimiter ∉ ['"', '\n', '\r']

/-- The delimiters that are refused, as the message shows them. -/
def refusedDelimiters : List (Char × String) := [('"', "'\"'"), ('\n', "'\\n'"), ('\r', "'\\r'")]

/-- What is reported about a configuration, and why it is refused, if it is. -/
inductive Verdict (c : Config) : List Notice × Option ConfigError → Prop
  | noDefinitions (hnone : c.definitions = []) : Verdict c ([], some .noDefinitions)
  | timeout (hsome : c.definitions ≠ []) (hzero : c.settings.timeout = some 0) :
      Verdict c ([], some (.invalidSetting "timeout" "must be greater than 0"))
  | delimiter {shown : String} (hsome : c.definitions ≠ []) (htimeout : c.settings.timeout ≠ some 0)
      (hrefused : (c.delimiter, shown) ∈ refusedDelimiters) :
      Verdict c ([], some (.invalidSetting "delimiter" (shown ++ " cannot be used as a delimiter")))
  | lacking {place : Nat} {d : Definition} {e : ConfigError} (hrunnable : Runnable c)
      (hd : c.definitions[place]? = some d) (hsound : SoundBefore c.definitions place)
      (hlacks : Lacks place d e) : Verdict c (warnings c.definitions place, some e)
  | repeating {place : Nat} {d : Definition} (hrunnable : Runnable c)
      (hd : c.definitions[place]? = some d) (hsound : SoundBefore c.definitions place)
      (hcomplete : Complete d) (hrepeats : d.id ∈ earlierIds c.definitions place) :
      Verdict c (warnings c.definitions (place + 1), some (.duplicateId d.id))
  | accepted (hrunnable : Runnable c) (hsound : SoundBefore c.definitions c.definitions.length) :
      Verdict c (warnings c.definitions c.definitions.length, none)

variable {c : Config}

theorem isUsableDelimiter_iff (x : Char) :
    isUsableDelimiter x = true ↔ x ∉ ['"', '\n', '\r'] := by
  simp [isUsableDelimiter, and_assoc]

theorem mem_refusedDelimiters {x : Char} {shown : String} (h : (x, shown) ∈ refusedDelimiters) :
    isUsableDelimiter x = false ∧ shownDelimiter x = shown := by
  simp only [refusedDelimiters, List.mem_cons, Prod.mk.injEq, List.not_mem_nil, or_false] at h
  rcases h with ⟨rfl, rfl⟩ | ⟨rfl, rfl⟩ | ⟨rfl, rfl⟩ <;> exact ⟨by decide, by decide⟩

theorem check_of_runnable (h : Runnable c) : c.check = checkDefinitions 0 [] c.definitions := by
  have hdelimiter := (isUsableDelimiter_iff c.delimiter).mpr h.delimiter
  simp [check, h.nonempty, h.timeout, hdelimiter]

theorem check_eq_of_verdict {v : List Notice × Option ConfigError} (h : Verdict c v) :
    c.check = v := by
  cases h with
  | noDefinitions hnone => simp [check, hnone]
  | timeout hsome hzero => simp [check, hsome, hzero]
  | delimiter hsome htimeout hrefused =>
    obtain ⟨hunusable, hshown⟩ := mem_refusedDelimiters hrefused
    simp [check, hsome, htimeout, hunusable, hshown]
  | lacking hrunnable hd hsound hlacks =>
    have hplace := Nat.le_of_lt (List.getElem?_eq_some_iff.mp hd).1
    rw [check_of_runnable hrunnable, checkDefinitions_of_soundBefore hsound hplace,
      checkFrom_of_lacks hd hlacks, List.append_nil]
  | repeating hrunnable hd hsound hcomplete hrepeats =>
    have hplace := Nat.le_of_lt (List.getElem?_eq_some_iff.mp hd).1
    rw [check_of_runnable hrunnable, checkDefinitions_of_soundBefore hsound hplace,
      checkFrom_of_repeats hd hcomplete hrepeats, warnings_succ]
  | accepted hrunnable hsound =>
    rw [check_of_runnable hrunnable, checkDefinitions_of_soundBefore hsound (Nat.le_refl _),
      checkFrom, List.drop_length, checkDefinitions, List.append_nil]

/-- The definitions are sound, or there is a first one that is not. -/
theorem soundBefore_length_or_first (ds : List Definition) :
    SoundBefore ds ds.length ∨ ∃ place d, ds[place]? = some d ∧ SoundBefore ds place ∧
      ¬ (Complete d ∧ d.id ∉ earlierIds ds place) := by
  classical
  -- the first place is the least of those at which something is wrong
  by_cases h : ∃ place d, ds[place]? = some d ∧ ¬ (Complete d ∧ d.id ∉ earlierIds ds place)
  · obtain ⟨d, hd, hunsound⟩ := Nat.find_spec h
    refine .inr ⟨Nat.find h, d, hd, ?_, hunsound⟩
    intro i hi other hother
    by_contra hother'
    exact Nat.find_min h hi ⟨other, hother, hother'⟩
  · refine .inl fun i _ d hd => ?_
    by_contra hunsound
    exact h ⟨i, d, hd, hunsound⟩

theorem exists_verdict (c : Config) : ∃ v, Verdict c v := by
  by_cases hnone : c.definitions = []
  · exact ⟨_, .noDefinitions hnone⟩
  by_cases hzero : c.settings.timeout = some 0
  · exact ⟨_, .timeout hnone hzero⟩
  by_cases hdelimiter : c.delimiter ∈ ['"', '\n', '\r']
  · have hrefused : c.delimiter ∈ refusedDelimiters.map Prod.fst := hdelimiter
    obtain ⟨⟨x, shown⟩, hmem, hx⟩ := List.mem_map.mp hrefused
    obtain rfl : x = c.delimiter := hx
    exact ⟨_, .delimiter hnone hzero hmem⟩
  have hrunnable : Runnable c := ⟨hnone, hzero, hdelimiter⟩
  rcases soundBefore_length_or_first c.definitions with hsound | ⟨place, d, hd, hsound, hunsound⟩
  · exact ⟨_, .accepted hrunnable hsound⟩
  · rcases complete_or_lacks place d with hcomplete | ⟨e, hlacks⟩
    · have hrepeats : d.id ∈ earlierIds c.definitions place := by
        by_contra hnew
        exact hunsound ⟨hcomplete, hnew⟩
      exact ⟨_, .repeating hrunnable hd hsound hcomplete hrepeats⟩
    · exact ⟨_, .lacking hrunnable hd hsound hlacks⟩

/-- The check gives one verdict. -/
theorem check_eq_iff {v : List Notice × Option ConfigError} : c.check = v ↔ Verdict c v := by
  constructor
  · rintro rfl
    obtain ⟨v, hv⟩ := exists_verdict c
    rw [check_eq_of_verdict hv]
    exact hv
  · exact check_eq_of_verdict

/-! ## Well-formed configurations -/

/-- The configuration can be run as it stands. -/
structure WellFormed (c : Config) : Prop extends Runnable c where
  complete : ∀ d ∈ c.definitions, Complete d
  distinct : c.definitions.Pairwise fun a b => a.id ≠ b.id

theorem mem_earlierIds_iff {id : String} :
    id ∈ earlierIds ds place ↔ ∃ i < place, ∃ d, ds[i]? = some d ∧ d.id = id := by
  rw [earlierIds, List.mem_map]
  constructor
  · rintro ⟨d, hd, rfl⟩
    obtain ⟨i, hi⟩ := List.mem_iff_getElem?.mp hd
    rw [List.getElem?_take] at hi
    split at hi
    · rename_i hlt
      exact ⟨i, hlt, d, hi, rfl⟩
    · exact absurd hi (by simp)
  · rintro ⟨i, hlt, d, hd, rfl⟩
    refine ⟨d, List.mem_of_getElem? (i := i) ?_, rfl⟩
    rw [List.getElem?_take_of_lt hlt, hd]

theorem soundBefore_length_iff :
    SoundBefore ds ds.length ↔
      (∀ d ∈ ds, Complete d) ∧ ds.Pairwise fun a b => a.id ≠ b.id := by
  constructor
  · intro h
    refine ⟨?_, ?_⟩
    · intro d hd
      obtain ⟨i, hi⟩ := List.mem_iff_getElem?.mp hd
      exact (h i (List.getElem?_eq_some_iff.mp hi).1 d hi).1
    · rw [List.pairwise_iff_getElem]
      intro i j hi hj hlt heq
      obtain ⟨-, hnew⟩ := h j hj _ (List.getElem?_eq_getElem hj)
      exact hnew (mem_earlierIds_iff.mpr ⟨i, hlt, _, List.getElem?_eq_getElem hi, heq⟩)
  · rintro ⟨hcomplete, hdistinct⟩ i _ d hd
    refine ⟨hcomplete d (List.mem_of_getElem? hd), ?_⟩
    intro hmem
    obtain ⟨j, hlt, other, hother, heq⟩ := mem_earlierIds_iff.mp hmem
    obtain ⟨hj, rfl⟩ := List.getElem?_eq_some_iff.mp hother
    obtain ⟨hi, rfl⟩ := List.getElem?_eq_some_iff.mp hd
    exact List.pairwise_iff_getElem.mp hdistinct j i hj hi hlt heq

/-- A well-formed configuration is checked to the end. -/
theorem check_of_wellFormed (h : WellFormed c) :
    c.check = (warnings c.definitions c.definitions.length, none) :=
  check_eq_of_verdict (.accepted h.toRunnable (soundBefore_length_iff.mpr ⟨h.complete, h.distinct⟩))

theorem check_eq_none_iff : c.check.2 = none ↔ WellFormed c := by
  constructor
  · intro haccepted
    obtain ⟨v, hv⟩ := exists_verdict c
    rw [check_eq_of_verdict hv] at haccepted
    cases hv with
    | accepted hrunnable hsound =>
      obtain ⟨hcomplete, hdistinct⟩ := soundBefore_length_iff.mp hsound
      exact ⟨hrunnable, hcomplete, hdistinct⟩
    | _ => exact absurd haccepted (by simp)
  · intro h
    rw [check_of_wellFormed h]

/-- **A configuration is accepted exactly if it is well formed, and refused for its first defect.** It is
well formed if it has definitions, settings that can be used, and definitions that are complete and have
different identifiers. The check gives its verdict and no other: what is refused, where several things
are wrong, and the warnings up to there. -/
theorem check_iff (c : Config) :
    (c.check.2 = none ↔ WellFormed c) ∧ ∀ v, c.check = v ↔ Verdict c v :=
  ⟨check_eq_none_iff, fun _ => check_eq_iff⟩

/-- A call on a host, made after another one. -/
def callAfter (id previous : String) : Definition :=
  (Definition.basic id .get "api.test" "/").withPrevious previous

/-- The repeated identifier comes before the missing one, and its own dependency is still reported. -/
example :
    (ofDefinitions
        [callAfter "a" "b", callAfter "b" "a", callAfter "a" "c", callAfter "" "d"]).check
      = ([.unknownDependency "a" "b", .unknownDependency "a" "c"], some (.duplicateId "a")) := by
  decide

end ApiChain.Config
