import Mathlib.Tactic.SplitIfs
import ApiChain.Files.Directory
import ApiChain.Proofs.Result

/-!
# What a directory keeps

A text written to a path is the one that is read from it afterwards, and the other files are those
that there were. A file put at a place that is no directory leaves every directory where it was
(`at?_put_directory`), so every path that led somewhere leads there still (`walk_put`).
-/

namespace ApiChain.Files.Directory

variable {d : Directory} {p q : Place} {content : ByteArray}

/-! ## A file at a place -/

theorem lookup_put_self : (d.put p content).files.lookup p = some content := by
  simp [put]

theorem lookup_filter_of_ne (files : List (Place × ByteArray)) (h : q ≠ p) :
    (files.filter fun f => f.1 != p).lookup q = files.lookup q := by
  induction files with
  | nil => rfl
  | cons f rest ih =>
    obtain ⟨place, octets⟩ := f
    by_cases hplace : place = p
    · have hq : (q == p) = false := beq_false_of_ne h
      subst hplace
      simp [List.lookup_cons, hq, ih]
    · rw [List.filter_cons_of_pos (by simpa using hplace), List.lookup_cons, List.lookup_cons, ih]

theorem lookup_put_of_ne (h : q ≠ p) :
    (d.put p content).files.lookup q = d.files.lookup q := by
  have hq : (q == p) = false := beq_false_of_ne h
  rw [put, List.lookup_cons, hq]
  exact lookup_filter_of_ne d.files h

theorem at?_file_iff {octets : ByteArray} :
    d.at? q = .file octets ↔ d.files.lookup q = some octets := by
  unfold at?
  cases hlookup : d.files.lookup q with
  | some other => simp
  | none =>
    simp only [reduceCtorEq, iff_false]
    split <;> simp

theorem at?_directory_iff :
    d.at? q = .directory ↔ d.files.lookup q = none ∧
      (q.isEmpty || d.directories.any (q.isPrefixOf ·) || d.files.any (q.isPrefixOf ·.1)) = true := by
  unfold at?
  cases hlookup : d.files.lookup q with
  | some other => simp
  | none =>
    simp only [true_and]
    split
    · next h => simpa using h
    · next h => simpa using h

theorem at?_put_file_iff {octets : ByteArray} (h : q ≠ p) :
    (d.put p content).at? q = .file octets ↔ d.at? q = .file octets := by
  rw [at?_file_iff, at?_file_iff, lookup_put_of_ne h]

/-- What leads to a file leads to it when it is put again. -/
theorem any_put (h : d.files.any (q.isPrefixOf ·.1) = true) :
    (d.put p content).files.any (q.isPrefixOf ·.1) = true := by
  obtain ⟨f, hf, hleads⟩ := List.any_eq_true.mp h
  rw [List.any_eq_true]
  by_cases hplace : f.1 = p
  · exact ⟨(p, content), List.mem_cons_self, hplace ▸ hleads⟩
  · refine ⟨f, List.mem_cons_of_mem _ ?_, hleads⟩
    simpa [List.mem_filter, hf] using hplace

theorem at?_put_directory (hp : d.at? p ≠ .directory) (h : d.at? q = .directory) :
    (d.put p content).at? q = .directory := by
  have hne : q ≠ p := by
    rintro rfl
    exact hp h
  obtain ⟨hlookup, hleads⟩ := at?_directory_iff.mp h
  refine at?_directory_iff.mpr ⟨(lookup_put_of_ne hne).trans hlookup, ?_⟩
  simp only [Bool.or_eq_true] at hleads ⊢
  exact hleads.imp_right any_put

/-! ## Paths -/

section Paths

variable (hp : d.at? p ≠ .directory)
include hp

theorem step_put {position position' : Position} {name : String}
    (h : d.step position name = .ok position') :
    (d.put p content).step position name = .ok position' := by
  cases position with
  | above n => exact h
  | inside place =>
    cases hat : d.at? place with
    | directory =>
      have hat' : (d.put p content).at? place = .directory := at?_put_directory hp hat
      simp only [step, hat] at h
      simpa only [step, hat'] using h
    | file _ => simp [step, hat] at h
    | nothing => simp [step, hat] at h

theorem steps_put {position position' : Position} {names : List String}
    (h : d.steps position names = .ok position') :
    (d.put p content).steps position names = .ok position' := by
  induction names generalizing position with
  | nil => exact h
  | cons name rest ih =>
    rw [steps] at h
    obtain ⟨next, hstep, hrest⟩ := of_bind_eq_ok h
    rw [steps, step_put hp hstep]
    exact ih hrest

theorem walk_put {path : String} {position : Position} (h : d.walk path = .ok position) :
    (d.put p content).walk path = .ok position := by
  unfold walk at h ⊢
  split_ifs at h ⊢
  · exact steps_put hp h
  · exact steps_put hp h

end Paths

/-! ## Writing and reading -/

theorem writeText_put {path text : String} {d' : Directory} (h : d.writeText path text = .ok d') :
    ∃ p, d.walk path = .ok (.inside p) ∧ d.at? p ≠ .directory ∧ d' = d.put p text.toUTF8 := by
  rw [writeText] at h
  obtain ⟨position, hwalk, h⟩ := of_bind_eq_ok h
  cases position with
  | above n => cases h
  | inside p =>
    refine ⟨p, hwalk, ?_⟩
    cases hat : d.at? p with
    | directory => simp [hat] at h
    | file _ => simp_all
    | nothing =>
      simp only [hat] at h
      split at h
      · simp_all
      · simp at h
      · simp at h

/-- What is written to a path is read from it. -/
theorem readText_writeText {path text : String} {d' : Directory}
    (h : d.writeText path text = .ok d') : d'.readText path = .ok text := by
  obtain ⟨p, hwalk, hp, rfl⟩ := writeText_put h
  have hat : (d.put p text.toUTF8).at? p = .file text.toUTF8 := at?_file_iff.mpr lookup_put_self
  have htext : String.fromUTF8? text.toUTF8 = some text := by
    rw [String.fromUTF8?, dif_pos ⟨text.toList, by simp⟩]
    rfl
  rw [readText, walk_put hp hwalk]
  simp only [bind, Except.bind, hat, htext]

/-- Any other file is there after a text was written if and only if it was there before. -/
theorem at?_writeText_file_iff {path text : String} {d' : Directory} {octets : ByteArray}
    (h : d.writeText path text = .ok d') (hother : d.walk path ≠ .ok (.inside q)) :
    d'.at? q = .file octets ↔ d.at? q = .file octets := by
  obtain ⟨p, hwalk, -, rfl⟩ := writeText_put h
  refine at?_put_file_iff ?_
  rintro rfl
  exact hother hwalk

end ApiChain.Files.Directory
