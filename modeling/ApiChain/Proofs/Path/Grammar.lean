import ApiChain.Proofs.Number.Written
import ApiChain.Proofs.Path.Compose

/-!
# The grammar of paths

What a written path is, said without the reader. Segments stand between dots. A segment is a key, which
has no opening bracket, and a row of groups; between the brackets of a group stands a selector, which
has no closing bracket: a star or a number, and blanks around it.

* **`readGroups_eq_some_iff`**, **`readSegment_eq_some_iff`**: the reader of each part accepts that part
  of the grammar, with the same steps;
* **`parseChars?_eq_some_iff`**: a text is read as some steps exactly if it writes these steps.
-/

namespace ApiChain.Path

/-! ## Selectors -/

/-- The text between brackets stands for the step: a star, or a number that fits into 64 bits, and
blanks around it. -/
inductive Selects : List Char → Step → Prop
  | broadcast {inner : List Char} : Text.trim inner = ['*'] → Selects inner .broadcast
  | index {inner : List Char} {n : Nat} : Number.Writes (Text.trim inner) n →
      n ≤ Number.maxUnsigned64 → Selects inner (.index n)

theorem not_writes_star (n : Nat) : ¬ Number.Writes ['*'] n := by
  intro h
  exact absurd (h.isDigit_or_plus '*' (List.mem_singleton_self '*')) (by decide)

theorem selector?_eq_some_iff {inner : List Char} {step : Step} :
    selector? inner = some step ↔ Selects inner step := by
  simp only [selector?]
  split
  · rename_i hstar
    constructor
    · rintro ⟨⟩
      exact .broadcast hstar
    · rintro (_ | ⟨hwrites, _⟩)
      · rfl
      · exact absurd (hstar ▸ hwrites) (not_writes_star _)
  · rename_i hstar
    rw [Option.map_eq_some_iff]
    constructor
    · rintro ⟨n, hn, rfl⟩
      obtain ⟨hwrites, hbound⟩ := Number.ofText?_eq_some_iff.mp hn
      exact .index hwrites hbound
    · rintro (h | ⟨hwrites, hbound⟩)
      · exact absurd h hstar
      · exact ⟨_, Number.ofText?_eq_some_iff.mpr ⟨hwrites, hbound⟩, rfl⟩

/-! ## Groups -/

/-- A row of groups, each with its selector, and the steps that they stand for. -/
inductive Groups : List Char → Path → Prop
  | nil : Groups [] []
  | group {inner rest : List Char} {step : Step} {steps : Path} : ']' ∉ inner →
      Selects inner step → Groups rest steps →
      Groups ('[' :: (inner ++ ']' :: rest)) (step :: steps)

/-- A group ends at its first closing bracket. -/
theorem readGroups_open {inner : List Char} (hfree : ']' ∉ inner) (acc rest : List Char) :
    readGroups (some acc) (inner ++ ']' :: rest)
      = (selector? (acc.reverse ++ inner)).bind fun step =>
          (readGroups none rest).map (step :: ·) := by
  induction inner generalizing acc with
  | nil => simp [readGroups]
  | cons c inner ih =>
    rw [List.mem_cons, not_or] at hfree
    rw [List.cons_append, readGroups, if_neg (Ne.symm hfree.1), ih hfree.2]
    simp

theorem readGroups_unclosed {s : List Char} (h : ']' ∉ s) (acc : List Char) :
    readGroups (some acc) s = none := by
  induction s generalizing acc with
  | nil => rfl
  | cons c s ih =>
    rw [List.mem_cons, not_or] at h
    rw [readGroups, if_neg (Ne.symm h.1), ih h.2]

theorem readGroups_of_groups {s : List Char} {steps : Path} (h : Groups s steps) :
    readGroups none s = some steps := by
  induction h with
  | nil => rfl
  | group hfree hselects _ ih =>
    rw [readGroups, if_pos rfl, readGroups_open hfree, List.reverse_nil, List.nil_append,
      selector?_eq_some_iff.mpr hselects, Option.bind_some, ih, Option.map_some]

theorem groups_of_readGroups : ∀ {s : List Char} {steps : Path},
    readGroups none s = some steps → Groups s steps
  | [], steps, h => by
    obtain rfl : [] = steps := Option.some.inj h
    exact .nil
  | c :: s, steps, h => by
    rw [readGroups] at h
    split at h
    · rename_i hopen
      by_cases hclose : ']' ∈ s
      · obtain ⟨inner, rest, hsplit, hfree⟩ := List.eq_append_cons_of_mem hclose
        have hshorter : rest.length < s.length := by
          rw [hsplit, List.length_append, List.length_cons]
          omega
        rw [hsplit, readGroups_open hfree] at h
        obtain ⟨step, hstep, h⟩ := Option.bind_eq_some_iff.mp h
        obtain ⟨steps, hsteps, rfl⟩ := Option.map_eq_some_iff.mp h
        rw [hopen, hsplit]
        exact .group hfree (selector?_eq_some_iff.mp hstep) (groups_of_readGroups hsteps)
      · rw [readGroups_unclosed hclose] at h
        exact absurd h (by simp)
    · exact absurd h (by simp)
termination_by s => s.length
decreasing_by
  rw [List.length_cons]
  omega

theorem readGroups_eq_some_iff {s : List Char} {steps : Path} :
    readGroups none s = some steps ↔ Groups s steps :=
  ⟨groups_of_readGroups, readGroups_of_groups⟩

theorem Groups.append {s t : List Char} {p q : Path} (hs : Groups s p) (ht : Groups t q) :
    Groups (s ++ t) (p ++ q) := by
  induction hs with
  | nil => exact ht
  | group hfree hselects _ ih =>
    rw [List.cons_append, List.append_assoc, List.cons_append]
    exact .group hfree hselects ih

/-! ## Segments -/

/-- A key and a row of groups. An empty key is a step only where no group follows. -/
inductive Segment : List Char → Path → Prop
  | keyed {key groups : List Char} {steps : Path} : '[' ∉ key → Groups groups steps →
      (key ≠ [] ∨ groups = []) →
      Segment (key ++ groups) (.key (String.ofList key) :: steps)
  | bare {groups : List Char} {steps : Path} : groups ≠ [] → Groups groups steps →
      Segment groups steps

/-- A segment is parted at its first opening bracket. -/
theorem readSegment_append {key groups : List Char} (hkey : '[' ∉ key) {steps : Path}
    (hgroups : Groups groups steps) :
    readSegment (key ++ groups)
      = some ((if key = [] ∧ groups ≠ [] then [] else [.key (String.ofList key)]) ++ steps) := by
  have hall : ∀ c ∈ key, (decide (c ≠ '[')) = true := by
    intro c hc
    simpa using fun heq : c = '[' => hkey (heq ▸ hc)
  have htake : groups.takeWhile (· ≠ '[') = [] := by cases hgroups <;> simp
  have hdrop : groups.dropWhile (· ≠ '[') = groups := by cases hgroups <;> simp
  simp only [readSegment, List.takeWhile_append_of_pos hall, List.dropWhile_append_of_pos hall,
    htake, hdrop, List.append_nil, readGroups_of_groups hgroups, Option.map_some, Bool.and_eq_true,
    List.isEmpty_iff, Bool.not_eq_true', List.isEmpty_eq_false_iff, ne_eq]

theorem segment_of_readSegment {s : List Char} {steps : Path} (h : readSegment s = some steps) :
    Segment s steps := by
  have hsplit := List.takeWhile_append_dropWhile (p := (· ≠ '[')) (l := s)
  have hkey : '[' ∉ s.takeWhile (· ≠ '[') := fun hmem => by
    simpa using List.mem_takeWhile_imp hmem
  obtain ⟨rest, hrest, -⟩ := Option.map_eq_some_iff.mp h
  have hgroups := readGroups_eq_some_iff.mp hrest
  rw [← hsplit] at h ⊢
  rw [readSegment_append hkey hgroups, Option.some.injEq] at h
  subst h
  split
  · rename_i hbare
    rw [hbare.1, List.nil_append, List.nil_append]
    exact .bare hbare.2 hgroups
  · rename_i hkeyed
    exact .keyed hkey hgroups (by tauto)

theorem readSegment_eq_some_iff {s : List Char} {steps : Path} :
    readSegment s = some steps ↔ Segment s steps := by
  refine ⟨segment_of_readSegment, ?_⟩
  rintro (⟨hkey, hgroups, hor⟩ | ⟨hne, hgroups⟩)
  · rw [readSegment_append hkey hgroups, if_neg (by tauto)]
    rfl
  · have hread := @readSegment_append [] _ List.not_mem_nil _ hgroups
    rwa [if_pos ⟨rfl, hne⟩] at hread

/-- A group may follow any segment that is not empty. -/
theorem Segment.group {s inner : List Char} {p : Path} {step : Step} (h : Segment s p) (hne : s ≠ [])
    (hfree : ']' ∉ inner) (hselects : Selects inner step) :
    Segment (s ++ '[' :: (inner ++ [']'])) (p ++ [step]) := by
  have hgroup : Groups ('[' :: (inner ++ [']'])) [step] := .group hfree hselects .nil
  cases h with
  | keyed hkey hgroups hor =>
    rw [List.append_assoc]
    refine .keyed hkey (hgroups.append hgroup) (.inl ?_)
    rintro rfl
    rcases hor with hor | rfl
    · exact hor rfl
    · exact hne rfl
  | bare _ hgroups => exact .bare (by simp) (hgroups.append hgroup)

/-! ## Paths -/

/-- The text writes the steps: those of its segments, one after the other. -/
inductive Written : List Char → Path → Prop
  | last {s : List Char} {p : Path} : '.' ∉ s → Segment s p → Written s p
  | more {s t : List Char} {p q : Path} : '.' ∉ s → Segment s p → Written t q →
      Written (s ++ '.' :: t) (p ++ q)

theorem parseChars?_of_notMem {s : List Char} (hdot : '.' ∉ s) : parseChars? s = readSegment s := by
  obtain ⟨piece, pieces, hnil, hsplit⟩ := Text.splitOn_append_of_notMem hdot []
  obtain ⟨rfl, rfl⟩ := List.cons.inj hnil
  rw [List.append_nil] at hsplit
  rw [parseChars?, hsplit]
  simp [readSegments]

theorem written_of_parseChars? {s : List Char} {steps : Path} (h : parseChars? s = some steps) :
    Written s steps := by
  by_cases hdot : '.' ∈ s
  · obtain ⟨first, rest, hsplit, hfirst⟩ := List.eq_append_cons_of_mem hdot
    have hshorter : rest.length < s.length := by
      rw [hsplit, List.length_append, List.length_cons]
      omega
    rw [hsplit, parseChars?_append_dot, parseChars?_of_notMem hfirst] at h
    obtain ⟨p, hp, h⟩ := Option.bind_eq_some_iff.mp h
    obtain ⟨q, hq, rfl⟩ := Option.map_eq_some_iff.mp h
    rw [hsplit]
    exact .more hfirst (readSegment_eq_some_iff.mp hp) (written_of_parseChars? hq)
  · rw [parseChars?_of_notMem hdot] at h
    exact .last hdot (readSegment_eq_some_iff.mp h)
termination_by s.length

/-- The reader accepts exactly the written paths, with the steps that they write. -/
theorem parseChars?_eq_some_iff {s : List Char} {steps : Path} :
    parseChars? s = some steps ↔ Written s steps := by
  refine ⟨written_of_parseChars?, fun h => ?_⟩
  induction h with
  | last hdot hsegment =>
    rw [parseChars?_of_notMem hdot]
    exact readSegment_eq_some_iff.mpr hsegment
  | more hdot hsegment _ ih =>
    rw [parseChars?_append_dot, parseChars?_of_notMem hdot, readSegment_eq_some_iff.mpr hsegment, ih]
    rfl

end ApiChain.Path
