import ApiChain.Table.Basic

/-!
# The header in the order of first appearance

`distinct` keeps each name at its first place. `FirstSeen` says so without the recursion: the names of
one list, sorted by the place at which each first stands in it. There is only one such list
(`FirstSeen.unique`), so `firstSeen_distinct` describes `distinct` completely.
-/

namespace ApiChain

/-- `names` lists what stands in `all`, each once, in the order of first appearance. -/
structure FirstSeen (names all : List String) : Prop where
  nodup : names.Nodup
  mem_iff : ∀ name, name ∈ names ↔ name ∈ all
  order : names.Pairwise fun a b => all.idxOf a < all.idxOf b

/-- No other list has the same names in the same order. -/
theorem FirstSeen.unique {a b all : List String} (ha : FirstSeen a all) (hb : FirstSeen b all) :
    a = b := by
  have hmem : ∀ name, name ∈ a ↔ name ∈ b := fun name =>
    (ha.mem_iff name).trans (hb.mem_iff name).symm
  have hperm : a.Perm b := (List.perm_ext_iff_of_nodup ha.nodup hb.nodup).mpr hmem
  refine List.Perm.eq_of_pairwise ?_ ha.order hb.order hperm
  intro x y _ _ hlt hgt
  omega

theorem mem_distinct (all : List String) (name : String) : name ∈ distinct all ↔ name ∈ all := by
  induction all with
  | nil => rfl
  | cons first rest ih =>
    by_cases h : name = first
    · simp [distinct, h]
    · simp [distinct, h, ih]

theorem distinct_order (all : List String) :
    (distinct all).Pairwise fun a b => all.idxOf a < all.idxOf b := by
  induction all with
  | nil => exact List.Pairwise.nil
  | cons first rest ih =>
    -- a name other than the first stands one place further on than in the rest
    have hlater : ∀ name, name ≠ first → (first :: rest).idxOf name = rest.idxOf name + 1 := by
      intro name hne
      have hb : (first == name) = false := by simp [Ne.symm hne]
      rw [List.idxOf_cons, hb, cond_false]
    unfold distinct
    rw [List.pairwise_cons]
    refine ⟨?_, ?_⟩
    · intro name hname
      obtain ⟨-, hne⟩ := List.mem_filter.mp hname
      rw [hlater name (by simpa using hne), List.idxOf_cons_self]
      exact Nat.succ_pos _
    · refine (List.Pairwise.filter _ ih).imp_of_mem ?_
      intro a b ha hb hlt
      obtain ⟨-, hna⟩ := List.mem_filter.mp ha
      obtain ⟨-, hnb⟩ := List.mem_filter.mp hb
      rw [hlater a (by simpa using hna), hlater b (by simpa using hnb)]
      omega

theorem firstSeen_distinct (all : List String) : FirstSeen (distinct all) all where
  nodup := (distinct_order all).imp fun hlt heq => by
    subst heq
    exact Nat.lt_irrefl _ hlt
  mem_iff := mem_distinct all
  order := distinct_order all

/-! ## Lists one after the other -/

theorem distinct_append (xs ys : List String) :
    distinct (xs ++ ys) = distinct xs ++ (distinct ys).filter (· ∉ xs) := by
  induction xs with
  | nil =>
    rw [List.filter_eq_self.mpr (by simp)]
    rfl
  | cons x rest ih =>
    rw [List.cons_append, distinct, ih, List.filter_append, List.filter_filter, distinct,
      List.cons_append]
    congr 2
    refine List.filter_congr fun y _ => ?_
    simp [List.mem_cons, not_or]

/-- A name at the end is new, or it changes nothing. -/
theorem distinct_concat (xs : List String) (x : String) :
    distinct (xs ++ [x]) = if x ∈ distinct xs then distinct xs else distinct xs ++ [x] := by
  rw [distinct_append]
  by_cases h : x ∈ xs
  · simp [distinct, mem_distinct, h]
  · simp [distinct, mem_distinct, h]

/-- Names that all stand further to the front change nothing. -/
theorem distinct_append_of_subset {xs ys : List String} (h : ∀ y ∈ ys, y ∈ xs) :
    distinct (xs ++ ys) = distinct xs := by
  rw [distinct_append, List.filter_eq_nil_iff.mpr, List.append_nil]
  intro y hy
  simpa using h y ((mem_distinct ys y).mp hy)

theorem distinct_append_congr {xs xs' ys ys' : List String} (hxs : distinct xs = distinct xs')
    (hys : distinct ys = distinct ys') : distinct (xs ++ ys) = distinct (xs' ++ ys') := by
  have hmem : ∀ y, y ∈ xs ↔ y ∈ xs' := by
    intro y
    rw [← mem_distinct xs, hxs, mem_distinct]
  rw [distinct_append, distinct_append, hxs, hys]
  congr 1
  refine List.filter_congr fun y _ => ?_
  simp [hmem y]

/-! ## The header of some records -/

/-- Where some record has a field, the header is not empty. -/
theorem header_ne_nil {records : List Record} (h : ∃ r ∈ records, r.isEmpty = false) :
    Table.header records ≠ [] := by
  obtain ⟨r, hr, hfields⟩ := h
  obtain ⟨fields⟩ := r
  cases fields with
  | nil => exact absurd hfields (by simp [Record.isEmpty])
  | cons field more =>
    have hmem : field.1 ∈ Table.header records := by
      rw [Table.header, mem_distinct, List.mem_flatMap]
      exact ⟨_, hr, by simp [Record.names, Entries.names]⟩
    exact List.ne_nil_of_mem hmem

end ApiChain
