import ApiChain.Config.Encoding
import ApiChain.Yaml.Reader

/-!
# Configurations written in YAML

`Config.read` gives the configuration that a text holds, or says that it holds none, without
checking it; `Config.readChecked` also finds its first defect.
-/

namespace ApiChain.Config

/-- The configuration that a text holds. -/
def read (text : String) : Except ConfigError Config :=
  match Yaml.readDocument text with
  | .error e => .error (.malformed e.message)
  | .ok d =>
    match ofDocument d with
    | .error e => .error (.malformed e.message)
    | .ok c => .ok c

/-- The configuration itself if it has no defect, with what is reported while it is checked. -/
def checked (c : Config) : List Notice × Except ConfigError Config :=
  match c.check with
  | (notices, some defect) => (notices, .error defect)
  | (notices, none) => (notices, .ok c)

/-- The configuration that a text holds, if it has no defect, with what is reported on the way. -/
def readChecked (text : String) : List Notice × Except ConfigError Config :=
  match read text with
  | .error e => ([], .error e)
  | .ok c => c.checked

end ApiChain.Config
