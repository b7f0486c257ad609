import ApiChain.Cli.Arguments
import ApiChain.Proofs.Result
import ApiChain.Proofs.Text.Parts

/-!
# What the arguments say of the table

Where the table goes is said by the arguments before two hyphens. `--stdout` asks for it to be printed.
An option with the letter `o` or the name `output` asks for a file, which stands in the same argument or
is the next one; letters of other options may stand before it.

* **`Mentions`** lists the ways in which one argument can speak of the file, **`NamesOutput`** says that
  the arguments name it;
* **`Parsed.takeArgument_says`** is what one argument does to what was read so far, and
  **`Parsed.takeAll_says`** what all do;
* **`options_of_arguments`** reads it off the options.
-/

namespace ApiChain.Cli

/-! ## How a file is named -/

/-- The letters are of options that take no value. -/
def Plain (letters : List Char) : Prop := ∀ c ∈ letters, c = 'v' ∨ c = 'q'

/-- The file named behind the letter of the output, perhaps after a sign of equality. -/
def fileBehind : List Char → Option (List Char)
  | [] => none
  | '=' :: file => some file
  | file => some file

/-- The argument speaks of the file for the table: it names it, or leaves that to the next one. -/
inductive Mentions : List Char → Option (List Char) → Prop
  | long (file : List Char) : Mentions ('-' :: '-' :: ("output".toList ++ '=' :: file)) (some file)
  | longNext : Mentions ('-' :: '-' :: "output".toList) none
  | letters {letters : List Char} (rest : List Char) : Plain letters →
      Mentions ('-' :: (letters ++ 'o' :: rest)) (fileBehind rest)

/-- One of the arguments names the file, or has it for the next one. -/
inductive NamesOutput (file : List Char) : List (List Char) → Prop
  | here {argument : List Char} (rest : List (List Char)) : Mentions argument (some file) →
      NamesOutput file (argument :: rest)
  | next {argument : List Char} (rest : List (List Char)) : Mentions argument none →
      NamesOutput file (argument :: file :: rest)
  | later (argument : List Char) {rest : List (List Char)} : NamesOutput file rest →
      NamesOutput file (argument :: rest)

/-- The arguments that are read as options: those before two hyphens. -/
def optionArguments (arguments : List (List Char)) : List (List Char) :=
  arguments.takeWhile (· ≠ ['-', '-'])

section Mentioned

variable {argument : List Char} {m m' : Option (List Char)}

theorem Plain.notMem {letters : List Char} (h : Plain letters) :
    'o' ∉ letters ∧ '-' ∉ letters := by
  constructor <;> intro hmem <;> rcases h _ hmem with h | h <;> exact absurd h (by decide)

/-- Letters start with no hyphen, so they are no long name. -/
theorem Plain.append_ne {letters : List Char} (h : Plain letters) (rest name : List Char) :
    letters ++ 'o' :: rest ≠ '-' :: name := by
  intro heq
  cases letters with
  | nil => simp at heq
  | cons c more => exact h.notMem.2 ((List.cons.inj heq).1 ▸ List.mem_cons_self)

theorem Plain.not_mentions {letters : List Char} (h : Plain letters) :
    ¬ Mentions ('-' :: letters) m := by
  generalize hsame : '-' :: letters = argument
  rintro (file | _ | hplain)
  · exact h.notMem.2 ((List.cons.inj hsame).2 ▸ List.mem_cons_self)
  · exact h.notMem.2 ((List.cons.inj hsame).2 ▸ List.mem_cons_self)
  · exact h.notMem.1 ((List.cons.inj hsame).2 ▸ List.mem_append_right _ List.mem_cons_self)

theorem Mentions.looksLikeOption (h : Mentions argument m) :
    Parsed.looksLikeOption argument = true := by
  cases h with
  | long file => rfl
  | longNext => rfl
  | letters rest hplain =>
    rename_i letters
    cases letters <;> rfl

/-- An argument speaks of the file in one way. -/
theorem Mentions.unique (h : Mentions argument m) (h' : Mentions argument m') : m = m' := by
  cases h with
  | long file =>
    generalize hsame : '-' :: '-' :: ("output".toList ++ '=' :: file) = same at h'
    cases h' with
    | long file' => simpa using hsame
    | longNext => simp at hsame
    | letters rest hplain => exact absurd (List.cons.inj hsame).2.symm (hplain.append_ne rest _)
  | longNext =>
    generalize hsame : '-' :: '-' :: "output".toList = same at h'
    cases h' with
    | long file => simp at hsame
    | longNext => rfl
    | letters rest hplain => exact absurd (List.cons.inj hsame).2.symm (hplain.append_ne rest _)
  | letters rest hplain =>
    rename_i letters
    generalize hsame : '-' :: (letters ++ 'o' :: rest) = same at h'
    cases h' with
    | long file => exact absurd (List.cons.inj hsame).2 (hplain.append_ne rest _)
    | longNext => exact absurd (List.cons.inj hsame).2 (hplain.append_ne rest _)
    | letters rest' hplain' =>
      have htail := (List.cons.inj hsame).2
      obtain rfl := Text.eq_of_append_cons_eq hplain.notMem.1 hplain'.notMem.1 htail
      obtain rfl : rest = rest' := (List.cons.inj (List.append_cancel_left htail)).2
      rfl

/-- A long name that speaks of the file is `output`, alone or with the file behind it. -/
theorem Mentions.name_eq {name : List Char} (h : Mentions ('-' :: '-' :: name) m) :
    name = "output".toList ∨ ∃ file, name = "output".toList ++ '=' :: file := by
  generalize hsame : '-' :: '-' :: name = argument at h
  cases h with
  | long file => exact .inr ⟨file, by simpa using hsame⟩
  | longNext => exact .inl (by simpa using hsame)
  | letters rest hplain => exact absurd (List.cons.inj hsame).2.symm (hplain.append_ne rest _)

/-- The long name of another option does not speak of the file. -/
theorem Flag.not_mentions_long {f : Flag} (h : f ≠ .output) :
    ¬ Mentions ('-' :: '-' :: f.long.toList) m := by
  intro hm
  rcases hm.name_eq with hname | ⟨file, hname⟩ <;> cases f <;> simp [Flag.long] at hname h

variable {file value : List Char} {rest : List (List Char)}

theorem not_namesOutput_nil : ¬ NamesOutput file [] := nofun

theorem namesOutput_cons_of_not_mentions (h : ∀ m, ¬ Mentions argument m) :
    NamesOutput file (argument :: rest) ↔ NamesOutput file rest := by
  refine ⟨fun hnames => ?_, .later argument⟩
  cases hnames with
  | here _ hm => exact absurd hm (h _)
  | next _ hm => exact absurd hm (h _)
  | later _ hnames => exact hnames

theorem namesOutput_cons_of_some (h : Mentions argument (some value)) :
    NamesOutput file (argument :: rest) ↔ file = value ∨ NamesOutput file rest := by
  constructor
  · intro hnames
    cases hnames with
    | here _ hm => exact .inl (Option.some.inj (hm.unique h))
    | next _ hm => exact absurd (hm.unique h) (by simp)
    | later _ hnames => exact .inr hnames
  · rintro (rfl | hnames)
    · exact .here rest h
    · exact .later argument hnames

/-- The next argument is the file, and speaks of no other: it does not look like an option. -/
theorem namesOutput_cons_of_none (h : Mentions argument none)
    (hvalue : Parsed.looksLikeOption value = false) :
    NamesOutput file (argument :: value :: rest) ↔ file = value ∨ NamesOutput file rest := by
  have hsilent : ∀ m, ¬ Mentions value m := by
    intro m hm
    rw [hm.looksLikeOption] at hvalue
    cases hvalue
  constructor
  · intro hnames
    cases hnames with
    | here _ hm => exact absurd (hm.unique h) (by simp)
    | next _ _ => exact .inl rfl
    | later _ hnames => exact .inr ((namesOutput_cons_of_not_mentions hsilent).mp hnames)
  · rintro (rfl | hnames)
    · exact .next rest h
    · exact .later argument (.later value hnames)

end Mentioned

/-! ## One argument -/

namespace Flag

theorem short?_of_ofShort? {c : Char} {f : Flag} (h : ofShort? c = some f) :
    f.short? = some c := by
  simpa using List.find?_some h

theorem long_of_ofLong? {name : List Char} {f : Flag} (h : ofLong? name = some f) :
    f.long.toList = name := by
  simpa using List.find?_some h

end Flag

namespace Parsed

variable {p p' : Parsed} {waiting : Bool}

/-- What was read of the file, after an argument that spoke of it. -/
def Outcome (p p' : Parsed) (waiting : Bool) : Option (List Char) → Prop
  | none => waiting = true ∧ p'.output = p.output
  | some file => waiting = false ∧ p.output = none ∧ p'.output = some (String.ofList file)

theorem Outcome.of_output_eq {q : Parsed} {m : Option (List Char)} (h : Outcome q p' waiting m)
    (hsame : q.output = p.output) : Outcome p p' waiting m := by
  cases m with
  | none => exact ⟨h.1, h.2.trans hsame⟩
  | some file => exact ⟨h.1, hsame.symm.trans h.2.1, h.2.2⟩

/-- What an argument says of the table, and how it is kept. -/
structure Says (argument : List Char) (p p' : Parsed) (waiting : Bool) : Prop where
  stdout : p'.stdout = true ↔ p.stdout = true ∨ "--stdout".toList = argument
  output : (waiting = false ∧ p'.output = p.output ∧ ∀ m, ¬ Mentions argument m) ∨
    ∃ m, Mentions argument m ∧ Outcome p p' waiting m

theorem takeFlag_ok {f : Flag} (h : p.takeFlag f = .ok p') :
    p'.output = p.output ∧
      (f = .stdout ∧ p'.stdout = true ∨ (f = .verbose ∨ f = .quiet) ∧ p'.stdout = p.stdout) := by
  cases f with
  | stdout =>
    rw [takeFlag] at h
    split at h
    · cases h
    · cases h
      exact ⟨rfl, .inl ⟨rfl, rfl⟩⟩
  | quiet =>
    rw [takeFlag] at h
    split at h
    · cases h
    · cases h
      exact ⟨rfl, .inr ⟨.inr rfl, rfl⟩⟩
  | verbose =>
    cases h
    exact ⟨rfl, .inr ⟨.inl rfl, rfl⟩⟩
  | help => cases h
  | version => cases h
  | output => cases h

theorem takeOutput_ok {file : List Char} (h : p.takeOutput file = .ok p') :
    p'.stdout = p.stdout ∧ p.output = none ∧ p'.output = some (String.ofList file) := by
  rw [takeOutput] at h
  split at h
  · cases h
  · split at h
    · cases h
    · cases h
      rename_i hnew _
      exact ⟨rfl, by simpa using hnew, rfl⟩

theorem takePositional_ok {value : List Char} (h : p.takePositional value = .ok p') :
    p'.stdout = p.stdout ∧ p'.output = p.output := by
  rw [takePositional] at h
  split at h
  · cases h
  · split at h
    · cases h
    · cases h
      exact ⟨rfl, rfl⟩

/-- A file that was read is kept, where there was none. -/
theorem outcome_of_takeOutput {file : List Char}
    (h : (p.takeOutput file).map (fun p => (p, false)) = .ok (p', waiting)) :
    p'.stdout = p.stdout ∧ Outcome p p' waiting (some file) := by
  obtain ⟨q, htake, hq⟩ := of_map_eq_ok h
  cases hq
  obtain ⟨hstdout, hnew, hfile⟩ := takeOutput_ok htake
  exact ⟨hstdout, rfl, hnew, hfile⟩

theorem takeLetters_ok {cs : List Char} (h : p.takeLetters cs = .ok (p', waiting)) :
    p'.stdout = p.stdout ∧
      (waiting = false ∧ p'.output = p.output ∧ Plain cs ∨
        ∃ letters rest, cs = letters ++ 'o' :: rest ∧ Plain letters ∧
          Outcome p p' waiting (fileBehind rest)) := by
  have hplain : Plain [] := List.forall_mem_nil _
  -- the reading goes on letter by letter, up to the first `o`: all that follows it is the file
  fun_induction takeLetters p cs with
  | case1 p =>
    cases h
    exact ⟨rfl, .inl ⟨rfl, rfl, hplain⟩⟩
  | case2 p c rest hf => cases h
  | case3 p c hf =>
    obtain rfl : 'o' = c := Option.some.inj (Flag.short?_of_ofShort? hf)
    cases h
    exact ⟨rfl, .inr ⟨[], [], rfl, hplain, rfl, rfl⟩⟩
  | case4 p c hf file =>
    obtain rfl : 'o' = c := Option.some.inj (Flag.short?_of_ofShort? hf)
    obtain ⟨hstdout, houtcome⟩ := outcome_of_takeOutput h
    exact ⟨hstdout, .inr ⟨[], _, rfl, hplain, houtcome⟩⟩
  | case5 p c hf file hsome hequals =>
    obtain rfl : 'o' = c := Option.some.inj (Flag.short?_of_ofShort? hf)
    obtain ⟨hstdout, houtcome⟩ := outcome_of_takeOutput h
    refine ⟨hstdout, .inr ⟨[], file, rfl, hplain, ?_⟩⟩
    rwa [fileBehind]
    · exact hsome
    · exact hequals
  | case6 p c rest f hne hf ih =>
    obtain ⟨q, hflag, h⟩ := of_bind_eq_ok h
    obtain ⟨hout, hkind⟩ := takeFlag_ok hflag
    obtain ⟨hletter, hsame⟩ : (c = 'v' ∨ c = 'q') ∧ q.stdout = p.stdout := by
      rcases hkind with ⟨rfl, -⟩ | ⟨rfl | rfl, hsame⟩
      · exact absurd (Flag.short?_of_ofShort? hf) (by simp [Flag.short?])
      · exact ⟨.inl (Option.some.inj (Flag.short?_of_ofShort? hf)).symm, hsame⟩
      · exact ⟨.inr (Option.some.inj (Flag.short?_of_ofShort? hf)).symm, hsame⟩
    obtain ⟨hstdout, hrest⟩ := ih q h
    refine ⟨hstdout.trans hsame, ?_⟩
    rcases hrest with ⟨hwaiting, hkept, hrest⟩ | ⟨letters, behind, rfl, hletters, houtcome⟩
    · exact .inl ⟨hwaiting, hkept.trans hout, List.forall_mem_cons.mpr ⟨hletter, hrest⟩⟩
    · exact .inr ⟨c :: letters, behind, rfl, List.forall_mem_cons.mpr ⟨hletter, hletters⟩,
        houtcome.of_output_eq hout⟩

theorem takeLong_says {name : List Char} (h : p.takeLong name = .ok (p', waiting)) :
    Says ('-' :: '-' :: name) p p' waiting := by
  rw [takeLong, Text.splitOnce_eq] at h
  by_cases hequals : '=' ∈ name
  · -- the name ends at the first sign of equality, and only the output takes what is behind it
    obtain ⟨n, file, rfl, hn⟩ := List.eq_append_cons_of_mem hequals
    rw [if_pos hequals, Text.takeWhile_append_cons hn, Text.dropWhile_append_cons hn] at h
    cases hf : Flag.ofLong? n with
    | none => simp [hf] at h
    | some f =>
      cases f with
      | output =>
        simp only [hf, List.tail_cons] at h
        obtain ⟨hstdout, houtcome⟩ := outcome_of_takeOutput h
        obtain rfl := Flag.long_of_ofLong? hf
        refine ⟨?_, .inr ⟨some file, .long file, houtcome⟩⟩
        rw [hstdout]
        simp [Flag.long]
      | _ => simp [hf] at h
  · rw [if_neg hequals] at h
    cases hf : Flag.ofLong? name with
    | none => simp [hf] at h
    | some f =>
      obtain rfl := Flag.long_of_ofLong? hf
      by_cases houtput : f = .output
      · subst houtput
        simp only [hf] at h
        cases h
        exact ⟨by simp [Flag.long], .inr ⟨none, .longNext, rfl, rfl⟩⟩
      · have htake : (p.takeFlag f).map (fun p => (p, false)) = .ok (p', waiting) := by
          cases f with
          | output => exact absurd rfl houtput
          | _ => simpa [hf] using h
        obtain ⟨q, hflag, hq⟩ := of_map_eq_ok htake
        cases hq
        obtain ⟨hout, hkind⟩ := takeFlag_ok hflag
        have hsilent : ∀ m, ¬ Mentions ('-' :: '-' :: f.long.toList) m :=
          fun _ => Flag.not_mentions_long houtput
        rcases hkind with ⟨rfl, hstdout⟩ | ⟨hf, hstdout⟩
        · exact ⟨by simp [hstdout, Flag.long], .inl ⟨rfl, hout, hsilent⟩⟩
        · refine ⟨?_, .inl ⟨rfl, hout, hsilent⟩⟩
          rcases hf with rfl | rfl <;> simp [hstdout, Flag.long]

theorem takeArgument_says {argument : List Char} (h : p.takeArgument argument = .ok (p', waiting)) :
    Says argument p p' waiting := by
  rw [takeArgument.eq_def] at h
  split at h
  · exact takeLong_says h
  · rename_i c letters hlong
    obtain ⟨hstdout, hout⟩ := takeLetters_ok h
    have hne : c ≠ '-' := hlong
    refine ⟨by simp [hstdout, Ne.symm hne], ?_⟩
    rcases hout with ⟨hwaiting, hkept, hplain⟩ | ⟨letters, rest, hsame, hplain, houtcome⟩
    · exact .inl ⟨hwaiting, hkept, fun m => hplain.not_mentions⟩
    · exact .inr ⟨_, hsame ▸ .letters rest hplain, houtcome⟩
  · rename_i hlong hshort
    obtain ⟨q, htake, hq⟩ := of_map_eq_ok h
    cases hq
    obtain ⟨hstdout, hout⟩ := takePositional_ok htake
    refine ⟨?_, .inl ⟨rfl, hout, fun m hm => ?_⟩⟩
    · rw [hstdout]
      refine ⟨.inl, fun hor => hor.resolve_right ?_⟩
      rintro rfl
      exact hlong "stdout".toList rfl
    · cases hm with
      | long file => exact hlong _ rfl
      | longNext => exact hlong _ rfl
      | letters rest hplain =>
        rename_i letters
        cases letters with
        | nil => exact hshort _ _ rfl
        | cons c more => exact hshort _ _ rfl

/-! ## All arguments -/

theorem foldlM_takePositional_ok {rest : List (List Char)}
    (h : rest.foldlM takePositional p = .ok p') : p'.stdout = p.stdout ∧ p'.output = p.output := by
  induction rest generalizing p with
  | nil =>
    cases h
    exact ⟨rfl, rfl⟩
  | cons value rest ih =>
    rw [List.foldlM_cons] at h
    obtain ⟨q, htake, h⟩ := of_bind_eq_ok h
    obtain ⟨hstdout, hout⟩ := takePositional_ok htake
    obtain ⟨hstdout', hout'⟩ := ih h
    exact ⟨hstdout'.trans hstdout, hout'.trans hout⟩

theorem optionArguments_cons {argument : List Char} (h : argument ≠ ['-', '-'])
    (rest : List (List Char)) :
    optionArguments (argument :: rest) = argument :: optionArguments rest :=
  List.takeWhile_cons_of_pos (by simpa using h)

/-- The argument before the others, if it left the file to the next one. -/
inductive Before : Bool → List (List Char) → Prop
  | none : Before false []
  | asking {argument : List Char} : Mentions argument none → Before true [argument]

theorem Says.names {argument : List Char} (h : Says argument p p' waiting) :
    ∃ before, Before waiting before ∧ ∀ file rest,
      p'.output = some (String.ofList file) ∨ NamesOutput file (before ++ rest) ↔
        p.output = some (String.ofList file) ∨ NamesOutput file (argument :: rest) := by
  rcases h.output with ⟨rfl, hkept, hsilent⟩ | ⟨m, hm, houtcome⟩
  · refine ⟨[], .none, fun file rest => ?_⟩
    rw [hkept, List.nil_append, namesOutput_cons_of_not_mentions hsilent]
  · cases m with
    | none =>
      obtain ⟨rfl, hkept⟩ := houtcome
      refine ⟨[argument], .asking hm, fun file rest => ?_⟩
      rw [hkept, List.singleton_append]
    | some value =>
      obtain ⟨rfl, hnew, hfile⟩ := houtcome
      refine ⟨[], .none, fun file rest => ?_⟩
      rw [hfile, hnew, List.nil_append, namesOutput_cons_of_some hm]
      simp [String.ofList_inj, eq_comm]

/-- What was read in the end, of the arguments behind `before`. -/
theorem takeAll_says {before arguments : List (List Char)} (hbefore : Before waiting before)
    (h : takeAll p waiting arguments = .ok p') :
    (p'.stdout = true ↔
      p.stdout = true ∨ "--stdout".toList ∈ optionArguments arguments) ∧
    ∀ file, p'.output = some (String.ofList file) ↔
      p.output = some (String.ofList file) ∨
        NamesOutput file (before ++ optionArguments arguments) := by
  -- `before` is the argument that waits for its file: only together with it does the next one name any
  fun_induction takeAll p waiting arguments generalizing before with
  | case1 p =>
    cases h
    cases hbefore
    exact ⟨by simp [optionArguments], fun file => by simp [optionArguments, not_namesOutput_nil]⟩
  | case2 p => cases h
  | case3 p value rest hlooks => cases h
  | case4 p value rest hlooks ih =>
    obtain ⟨q, htake, h⟩ := of_bind_eq_ok h
    obtain ⟨hstdout, hnew, hfile⟩ := takeOutput_ok htake
    obtain ⟨hstdout', hout⟩ := ih q .none h
    have hvalue : looksLikeOption value = false := by simpa using hlooks
    have hoption : ∀ c name, value ≠ '-' :: c :: name := by
      rintro c name rfl
      cases hvalue
    rw [optionArguments_cons (hoption _ _)]
    refine ⟨?_, fun file => ?_⟩
    · rw [hstdout', hstdout, List.mem_cons]
      exact or_congr_right (or_iff_right (Ne.symm (hoption _ _))).symm
    · cases hbefore with
      | asking hm =>
        rw [hout, hfile, hnew, List.singleton_append, namesOutput_cons_of_none hm hvalue]
        simp [String.ofList_inj, eq_comm]
  | case5 p rest =>
    cases hbefore
    obtain ⟨hstdout, hout⟩ := foldlM_takePositional_ok h
    refine ⟨?_, fun file => ?_⟩
    · simp [hstdout, optionArguments]
    · simp [hout, optionArguments, not_namesOutput_nil]
  | case6 p argument rest hne ih =>
    cases hbefore
    obtain ⟨⟨q, waiting⟩, htake, h⟩ := of_bind_eq_ok h
    have hsays := takeArgument_says htake
    obtain ⟨before, hbefore, hnames⟩ := hsays.names
    obtain ⟨hstdout, hout⟩ := ih q waiting hbefore h
    rw [optionArguments_cons hne, List.nil_append]
    refine ⟨?_, fun file => (hout file).trans (hnames file _)⟩
    rw [hstdout, hsays.stdout, List.mem_cons, or_assoc]

end Parsed

/-! ## Arguments that end the reading -/

/-- What ends the reading early is no run. -/
def NoRun {α : Type} (x : Except Command α) : Prop := ∀ o, x ≠ .error (.run o)

namespace NoRun

variable {α β : Type} {x : Except Command α}

theorem map (h : NoRun x) (f : α → β) : NoRun (x.map f) := by
  cases x with
  | error c => exact fun o heq => h o (congrArg Except.error (Except.error.inj heq))
  | ok a => exact nofun

theorem bind {f : α → Except Command β} (h : NoRun x) (hf : ∀ a, NoRun (f a)) :
    NoRun (x >>= f) := by
  cases x with
  | error c => exact fun o heq => h o (congrArg Except.error (Except.error.inj heq))
  | ok a => exact hf a

end NoRun

namespace Parsed

theorem noRun_takeFlag (p : Parsed) (f : Flag) : NoRun (p.takeFlag f) := by
  cases f with
  | stdout => rw [takeFlag]; split <;> exact nofun
  | quiet => rw [takeFlag]; split <;> exact nofun
  | _ => exact nofun

theorem noRun_takeOutput (p : Parsed) (file : List Char) : NoRun (p.takeOutput file) := by
  rw [takeOutput]
  split
  · exact nofun
  · split <;> exact nofun

theorem noRun_takePositional (p : Parsed) (value : List Char) : NoRun (p.takePositional value) := by
  rw [takePositional]
  split
  · exact nofun
  · split <;> exact nofun

theorem noRun_takeLetters (p : Parsed) (cs : List Char) : NoRun (p.takeLetters cs) := by
  fun_induction takeLetters p cs with
  | case1 p => exact nofun
  | case2 p c rest hf => exact nofun
  | case3 p c hf => exact nofun
  | case4 p c hf file => exact (noRun_takeOutput p file).map _
  | case5 p c hf file hsome hequals => exact (noRun_takeOutput p file).map _
  | case6 p c rest f hne hf ih => exact (noRun_takeFlag p f).bind ih

theorem noRun_takeLong (p : Parsed) (argument : List Char) : NoRun (p.takeLong argument) := by
  rw [takeLong.eq_def]
  dsimp only
  split
  · exact nofun
  · exact (noRun_takeOutput p _).map _
  · exact nofun
  · exact nofun
  · exact (noRun_takeFlag p _).map _

theorem noRun_takeArgument (p : Parsed) (argument : List Char) :
    NoRun (p.takeArgument argument) := by
  rw [takeArgument.eq_def]
  split
  · exact noRun_takeLong p _
  · exact noRun_takeLetters p _
  · exact (noRun_takePositional p _).map _

theorem noRun_takeAll (p : Parsed) (waiting : Bool) (arguments : List (List Char)) :
    NoRun (takeAll p waiting arguments) := by
  fun_induction takeAll p waiting arguments with
  | case1 p => exact nofun
  | case2 p => exact nofun
  | case3 p value rest hlooks => exact nofun
  | case4 p value rest hlooks ih => exact (noRun_takeOutput p value).bind ih
  | case5 p rest =>
    induction rest generalizing p with
    | nil => exact nofun
    | cons value rest ih => exact (noRun_takePositional p value).bind ih
  | case6 p argument rest hne ih =>
    exact (noRun_takeArgument p argument).bind fun taken => ih taken.1 taken.2

end Parsed

/-! ## Options -/

theorem finish_eq_run {p : Parsed} {o : Options} (h : p.finish = .run o) :
    o.stdout = p.stdout ∧ o.output = p.output ∧ (p.stdout = true → p.output = none) := by
  rw [Parsed.finish] at h
  split at h
  · cases h
  · rename_i hboth
    split at h
    · cases h
    · cases h
      exact ⟨rfl, rfl, by simpa using hboth⟩

/-- **The options say of the table what the arguments say.** Among the arguments of a command line that
is accepted, before two hyphens if there are any, `--stdout` is there exactly if the table is to be
printed, a file is named exactly if the table is to be written to that file, and not both are. -/
theorem options_of_arguments {arguments : List String} {o : Options}
    (h : Command.ofArguments arguments = .run o) :
    (o.stdout = true ↔ "--stdout".toList ∈ optionArguments (arguments.map String.toList)) ∧
    (∀ path, o.output = some path ↔
      NamesOutput path.toList (optionArguments (arguments.map String.toList))) ∧
    (o.stdout = true → o.output = none) := by
  rw [Command.ofArguments] at h
  split at h
  · rename_i p htaken
    obtain ⟨hstdout, hout⟩ := Parsed.takeAll_says .none htaken
    obtain ⟨hprinted, hwritten, hone⟩ := finish_eq_run h
    refine ⟨?_, fun path => ?_, ?_⟩
    · rw [hprinted, hstdout]
      exact or_iff_right (by decide)
    · have hpath := hout path.toList
      rw [String.ofList_toList] at hpath
      rw [hwritten, hpath]
      exact or_iff_right (by simp [Parsed.empty])
    · rwa [hprinted, hwritten]
  · rename_i c hended
    exact absurd (h ▸ hended) (Parsed.noRun_takeAll _ _ _ o)

/-- Another letter stands before that of the output, and what follows two hyphens is the configuration. -/
example : Command.ofArguments ["-vo", "t.csv", "--", "--stdout"]
    = .run ⟨"--stdout", some "t.csv", false, 1, false⟩ := by
  cbv

end ApiChain.Cli
