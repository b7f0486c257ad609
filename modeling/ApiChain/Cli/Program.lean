import ApiChain.Cli.Session
import ApiChain.Files.Directory

/-!
# The program over a system

The program is told by what it asks of the system that it runs on: to read a file, to let the peer
take part in a session, to print, to write a file and to show lines of a report. The system is one
that acts, or a `World`, which holds as data what the program can reach.
-/

namespace ApiChain.Cli

/-- What the program asks of a system; `σ` is the state of the peer, `m` says what it is to act. -/
structure System (σ : Type) (m : Type → Type) where
  /-- Whoever answers requests. -/
  peer : Http.Peer σ
  /-- Lets the peer take part in something. -/
  converse : {α : Type} → (σ → α × σ) → m α
  readFile : String → m (Except Files.Error String)
  /-- Prints a text on the standard output. -/
  print : String → m (Except String Unit)
  writeFile : String → String → m (Except String Unit)
  /-- Shows a line on the standard error. -/
  showLine : String → m Unit

namespace System

variable {σ : Type} {m : Type → Type} [Monad m]

/-- Shows the notices that the options choose. -/
def report (system : System σ m) (o : Options) (ns : List Notice) : m Unit :=
  (o.shown ns).forM fun n => system.showLine n.line

/-- The session for the options: its notices, and what there is to hand over. -/
def session (system : System σ m) (o : Options) :
    m (List Notice × Except ChainError Delivery) := do
  let file ← system.readFile o.config
  system.converse fun s =>
    let session := Session.of o file system.peer s
    ((session.notices, session.result), session.peer)

/-- Prints or writes a table. -/
def deliver (system : System σ m) (d : Delivery) : m (Except String Unit) :=
  match d.destination with
  | .stdout => system.print d.table
  | .file path => system.writeFile path d.table

/-- Runs a session, hands its table over, and answers with the exit code. -/
def run (system : System σ m) (o : Options) : m Nat := do
  let (notices, result) ← system.session o
  system.report o notices
  match result with
  | .error e => return exitCode e
  | .ok delivery =>
    let ending := delivery.ending (← system.deliver delivery)
    system.report o ending.notices
    return ending.code

/-- The program. -/
def program (system : System σ m) (arguments : List String) : m Nat :=
  match Command.ofArguments arguments with
  | .run o => system.run o
  | .help => do
    discard (system.print helpText)
    return successCode
  | .version => do
    discard (system.print versionText)
    return successCode
  | .refuse e => do
    system.showLine ("error: " ++ e.message)
    return usageCode

end System

/-! ## Systems as data -/

/-- All that the program can reach: the peer, what is on the disk, what was printed, and the lines
that were shown. -/
structure World (σ φ : Type) where
  peer : σ
  disk : φ
  printed : String
  shown : List String

/-- The system in which whatever is asked for happens in a world. Any text can be printed there. -/
def World.system {σ φ : Type} (peer : Http.Peer σ) (disk : Files.Disk φ) :
    System σ (StateM (World σ φ)) where
  peer := peer
  converse f w := ((f w.peer).1, { w with peer := (f w.peer).2 })
  readFile path w := (disk.read w.disk path, w)
  print text w := (.ok (), { w with printed := w.printed ++ text })
  writeFile path text w :=
    match disk.write w.disk path text with
    | .ok after => (.ok (), { w with disk := after })
    | .error e => (.error e.message, w)
  showLine line w := ((), { w with shown := w.shown ++ [line] })

end ApiChain.Cli
