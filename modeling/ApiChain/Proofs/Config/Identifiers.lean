import ApiChain.Proofs.Config.Verdict

/-!
# What a checked configuration is known to have

A configuration without a defect is well formed. What follows from that for its definitions is stated
here one by one, as a run uses it.

* **`complete_of_check`**: what no definition lacks;
* **`ids_nodup_of_check`**: the identifiers are distinct;
* **`mem_check_iff`**: what is reported about the definition at a position.
-/

namespace ApiChain.Config

theorem complete_of_check {c : Config} (h : c.check.2 = none) {d : Definition}
    (hd : d ∈ c.definitions) : Complete d :=
  (check_eq_none_iff.mp h).complete d hd

/-- A configuration without a defect has distinct identifiers. -/
theorem ids_nodup_of_check {c : Config} (h : c.check.2 = none) :
    (c.definitions.map (·.id)).Nodup := by
  rw [List.nodup_iff_pairwise_ne, List.pairwise_map]
  exact (check_eq_none_iff.mp h).distinct

/-- Where the identifiers are distinct, they tell the positions. -/
theorem position_unique {ds : List Definition} (hnodup : (ds.map (·.id)).Nodup) {i j : Nat}
    {d other : Definition} (hi : ds[i]? = some d) (hj : ds[j]? = some other)
    (hid : d.id = other.id) : i = j := by
  have hlt : i < (ds.map (·.id)).length := by
    rw [List.length_map]
    exact (List.getElem?_eq_some_iff.mp hi).1
  refine (List.getElem?_inj hlt hnodup).mp ?_
  rw [List.getElem?_map, List.getElem?_map, hi, hj, Option.map_some, Option.map_some, hid]

/-! ## Dependencies -/

/-- There is a warning about a definition exactly if it depends on one that does not come before. -/
theorem warningAt?_eq_some_iff {ds : List Definition} {place : Nat} {n : Notice} :
    warningAt? ds place = some n ↔
      ∃ d dependency, ds[place]? = some d ∧ d.previous = some dependency ∧
        dependency ∉ earlierIds ds place ∧ n = .unknownDependency d.id dependency := by
  simp only [warningAt?, Option.bind_eq_some_iff, Option.ite_none_left_eq_some, Option.some.injEq]
  constructor
  · rintro ⟨d, hd, dependency, hprevious, hnew, rfl⟩
    exact ⟨d, dependency, hd, hprevious, hnew, rfl⟩
  · rintro ⟨d, dependency, hd, hprevious, hnew, rfl⟩
    exact ⟨d, hd, dependency, hprevious, hnew, rfl⟩

/-- What a check without a defect reports about the definition at a position: its dependency, where no
definition before it has that identifier. -/
theorem mem_check_iff {c : Config} (h : c.check.2 = none) {i : Nat} {d : Definition}
    (hd : c.definitions[i]? = some d) (dependency : String) :
    Notice.unknownDependency d.id dependency ∈ c.check.1 ↔
      d.previous = some dependency ∧ dependency ∉ (c.definitions.take i).map (·.id) := by
  have hnodup := ids_nodup_of_check h
  rw [check_of_wellFormed (check_eq_none_iff.mp h), warnings, List.mem_filterMap]
  constructor
  · rintro ⟨j, -, hwarning⟩
    obtain ⟨other, found, hother, hprevious, hnew, heq⟩ := warningAt?_eq_some_iff.mp hwarning
    obtain ⟨hid, rfl⟩ := Notice.unknownDependency.inj heq
    -- the notice names the definition, as no other one has its identifier
    obtain rfl : i = j := position_unique hnodup hd hother hid
    obtain rfl := Option.some.inj (hd.symm.trans hother)
    exact ⟨hprevious, hnew⟩
  · rintro ⟨hprevious, hnew⟩
    refine ⟨i, List.mem_range.mpr (List.getElem?_eq_some_iff.mp hd).1, ?_⟩
    exact warningAt?_eq_some_iff.mpr ⟨d, dependency, hd, hprevious, hnew, rfl⟩

end ApiChain.Config
