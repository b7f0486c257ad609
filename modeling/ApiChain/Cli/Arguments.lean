import ApiChain.Text.Split

/-!
# The command line

The arguments of the program: a configuration file, where the table goes, and how much is reported. They
are read from left to right. A request for help or for the version is answered as soon as it is reached,
anything that is wrong before it comes first, and what does not go together is found at the end.
-/

namespace ApiChain.Cli

/-- What the arguments ask for. -/
structure Options where
  /-- The file of the configuration. -/
  config : String
  /-- Where the table is written instead of the configured file. -/
  output : Option String
  /-- Whether the table is printed. -/
  stdout : Bool
  /-- How often more reports were asked for. -/
  verbosity : Nat
  /-- Whether only warnings and errors are reported. -/
  quiet : Bool
deriving DecidableEq, Repr

/-- Why a command line is refused. -/
inductive UsageError where
  | unknownArgument (argument : String)
  | missingValue (option : String)
  | unexpectedValue (option : String)
  | repeated (option : String)
  | conflict (first second : String)
deriving DecidableEq, Repr

/-- The wording of the error. -/
def UsageError.message : UsageError → String
  | .unknownArgument argument => "unexpected argument '" ++ argument ++ "' found"
  | .missingValue option => "a value is required for '" ++ option ++ "' but none was supplied"
  | .unexpectedValue option => "unexpected value for '" ++ option ++ "' found"
  | .repeated option => "the argument '" ++ option ++ "' cannot be used multiple times"
  | .conflict first second => "the argument '" ++ first ++ "' cannot be used with '" ++ second ++ "'"

/-- What the program is asked to do. -/
inductive Command where
  | run (o : Options)
  | help
  | version
  | refuse (e : UsageError)
deriving DecidableEq, Repr

/-! ## Options -/

/-- An option of the program. -/
inductive Flag where
  | output
  | stdout
  | verbose
  | quiet
  | help
  | version
deriving DecidableEq, Repr

namespace Flag

/-- All options. -/
def all : List Flag := [.output, .stdout, .verbose, .quiet, .help, .version]

/-- The long name of an option. -/
def long : Flag → String
  | .output => "output"
  | .stdout => "stdout"
  | .verbose => "verbose"
  | .quiet => "quiet"
  | .help => "help"
  | .version => "version"

/-- The letter of an option. -/
def short? : Flag → Option Char
  | .output => some 'o'
  | .stdout => none
  | .verbose => some 'v'
  | .quiet => some 'q'
  | .help => some 'h'
  | .version => some 'V'

/-- How an option is written in a message. -/
def shown (f : Flag) : String := "--" ++ f.long

/-- The option with a long name. -/
def ofLong? (name : List Char) : Option Flag := all.find? fun f => f.long.toList == name

/-- The option with a letter. -/
def ofShort? (c : Char) : Option Flag := all.find? fun f => f.short? == some c

end Flag

/-! ## Reading the arguments -/

/-- The configuration file where none is named. -/
def defaultConfig : String := "config.yaml"

/-- What was read so far. -/
structure Parsed where
  config : Option String
  output : Option String
  stdout : Bool
  verbosity : Nat
  quiet : Bool
deriving DecidableEq, Repr

namespace Parsed

/-- Before any argument. -/
def empty : Parsed := ⟨none, none, false, 0, false⟩

/-- Takes an option without a value. -/
def takeFlag (p : Parsed) : Flag → Except Command Parsed
  | .stdout =>
    if p.stdout then .error (.refuse (.repeated Flag.stdout.shown)) else .ok { p with stdout := true }
  | .quiet =>
    if p.quiet then .error (.refuse (.repeated Flag.quiet.shown)) else .ok { p with quiet := true }
  | .verbose => .ok { p with verbosity := p.verbosity + 1 }
  | .help => .error .help
  | .version => .error .version
  | .output => .error (.refuse (.missingValue Flag.output.shown))

/-- Takes the file of the output. -/
def takeOutput (p : Parsed) (value : List Char) : Except Command Parsed :=
  if p.output.isSome then .error (.refuse (.repeated Flag.output.shown))
  else if value.isEmpty then .error (.refuse (.missingValue Flag.output.shown))
  else .ok { p with output := some (String.ofList value) }

/-- Takes an argument that is no option. -/
def takePositional (p : Parsed) (value : List Char) : Except Command Parsed :=
  if p.config.isSome then .error (.refuse (.unknownArgument (String.ofList value)))
  else if value.isEmpty then .error (.refuse (.missingValue "[CONFIG]"))
  else .ok { p with config := some (String.ofList value) }

/-- Takes options written as letters in one argument. The answer says whether the value of the last
one is still to come. -/
def takeLetters (p : Parsed) : List Char → Except Command (Parsed × Bool)
  | [] => .ok (p, false)
  | c :: rest =>
    match Flag.ofShort? c with
    | none => .error (.refuse (.unknownArgument (String.ofList ['-', c])))
    | some .output =>
      match rest with
      | [] => .ok (p, true)
      | '=' :: value => (p.takeOutput value).map fun p => (p, false)
      | value => (p.takeOutput value).map fun p => (p, false)
    | some f => do takeLetters (← p.takeFlag f) rest

/-- Takes an option written with its long name, and perhaps with its value. -/
def takeLong (p : Parsed) (argument : List Char) : Except Command (Parsed × Bool) :=
  let (name, value) := match Text.splitOnce '=' argument with
    | some (name, value) => (name, some value)
    | none => (argument, none)
  match Flag.ofLong? name, value with
  | none, _ => .error (.refuse (.unknownArgument (String.ofList ('-' :: '-' :: name))))
  | some .output, some value => (p.takeOutput value).map fun p => (p, false)
  | some .output, none => .ok (p, true)
  | some f, some _ => .error (.refuse (.unexpectedValue f.shown))
  | some f, none => (p.takeFlag f).map fun p => (p, false)

/-- Takes one argument. The answer says whether it is an option whose value is still to come. -/
def takeArgument (p : Parsed) (argument : List Char) : Except Command (Parsed × Bool) :=
  match argument with
  | '-' :: '-' :: name => p.takeLong name
  | '-' :: c :: letters => p.takeLetters (c :: letters)
  | value => (p.takePositional value).map fun p => (p, false)

/-- Whether an argument cannot be the value of the option before it. -/
def looksLikeOption : List Char → Bool
  | '-' :: _ :: _ => true
  | _ => false

/-- Takes all arguments; `waiting` if the value of an option comes first. After two hyphens every
argument is a file. -/
def takeAll : Parsed → Bool → List (List Char) → Except Command Parsed
  | p, false, [] => .ok p
  | _, true, [] => .error (.refuse (.missingValue Flag.output.shown))
  | p, true, value :: rest => do
    if looksLikeOption value then .error (.refuse (.missingValue Flag.output.shown))
    else takeAll (← p.takeOutput value) false rest
  | p, false, ['-', '-'] :: rest => rest.foldlM takePositional p
  | p, false, argument :: rest => do
    let (p, waiting) ← p.takeArgument argument
    takeAll p waiting rest

/-- What the program is asked to do, once all arguments are read. -/
def finish (p : Parsed) : Command :=
  if p.stdout && p.output.isSome then .refuse (.conflict Flag.output.shown Flag.stdout.shown)
  else if p.quiet && 0 < p.verbosity then .refuse (.conflict Flag.quiet.shown Flag.verbose.shown)
  else
    .run {
      config := p.config.getD defaultConfig, output := p.output, stdout := p.stdout
      verbosity := p.verbosity, quiet := p.quiet }

end Parsed

/-- What the arguments ask the program to do. -/
def Command.ofArguments (arguments : List String) : Command :=
  match Parsed.takeAll Parsed.empty false (arguments.map String.toList) with
  | .ok p => p.finish
  | .error c => c

/-! ## Texts -/

/-- The name of the program and its version. -/
def versionText : String := "api-harvest 0.2.0\n"

/-- How the program is used. -/
def helpText : String :=
  "Config-driven pipeline that chains REST API calls, maps response fields and writes CSV\n\n"
    ++ "Usage: api-harvest [OPTIONS] [CONFIG]\n\n"
    ++ "Arguments:\n"
    ++ "  [CONFIG]  Path to the pipeline configuration (YAML) [default: config.yaml]\n\n"
    ++ "Options:\n"
    ++ "  -o, --output <FILE>  Write CSV here instead of the configured output path\n"
    ++ "      --stdout         Write CSV to stdout\n"
    ++ "  -v, --verbose...     Log each request (repeat for trace output)\n"
    ++ "  -q, --quiet          Only log warnings and errors\n"
    ++ "  -h, --help           Print help\n"
    ++ "  -V, --version        Print version\n"

end ApiChain.Cli
