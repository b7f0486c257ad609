import ApiChain.Config.Reader
import ApiChain.Files.Error

/-!
# Loading a configuration

A configuration is loaded from a file: its text is read, decoded and checked.
-/

namespace ApiChain.Config

/-- The error for a configuration file that cannot be read. -/
def unreadable (path : String) : Files.Error → ConfigError
  | .notFound => .fileNotFound path
  | e => .unreadable (path ++ ": " ++ e.message)

/-- The configuration in the file at a path that was read with the given outcome, and what is
reported on the way. -/
def load (path : String) (file : Except Files.Error String) :
    List Notice × Except ConfigError Config :=
  match file with
  | .error e => ([], .error (unreadable path e))
  | .ok text =>
    let (notices, config) := readChecked text
    (.configurationRead path :: notices, config)

end ApiChain.Config
