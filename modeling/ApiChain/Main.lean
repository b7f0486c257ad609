import ApiChain.Cli.Program

/-!
# The program

The program over the system that it runs on: it reads the arguments and the configuration file, prints or
writes the table, and shows the notices on the standard error. The requests go to no peer: the program
has no network of its own.
-/

namespace ApiChain.Cli

/-- The error with a file that the system reports. -/
def fileError : IO.Error → Files.Error
  | .noFileOrDirectory _ _ _ => .notFound
  | e => .other e.toString

/-- The text of the file at a path. -/
def readFile (path : String) : IO (Except Files.Error String) := do
  try
    let content ← IO.FS.readBinFile path
    return match String.fromUTF8? content with
      | some text => .ok text
      | none => .error .notText
  catch e => return .error (fileError e)

/-- How an attempt ended. -/
def attempt (act : IO Unit) : IO (Except String Unit) := do
  try
    act
    return .ok ()
  catch e => return .error e.toString

/-- The system that the program runs on. -/
def actualSystem : System Unit IO where
  peer := Http.Peer.unreachable
  converse f := return (f ()).1
  readFile := readFile
  print text := attempt do
    IO.print text
    (← IO.getStdout).flush
  writeFile path text := attempt (IO.FS.writeFile path text)
  showLine := IO.eprintln

end ApiChain.Cli

open ApiChain.Cli in
/-- The program. -/
def main (arguments : List String) : IO UInt32 := do
  return (← actualSystem.program arguments).toUInt32
