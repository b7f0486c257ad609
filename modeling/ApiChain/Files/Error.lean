/-!
# Errors with files
-/

namespace ApiChain.Files

/-- Why a file cannot be read or written. -/
inductive Error where
  | notFound
  | isDirectory
  /-- A part of the path that should be a directory is a file. -/
  | notDirectory
  | nameTooLong
  /-- The path holds a NUL character. -/
  | nulInName
  /-- The content is not a text in UTF-8. -/
  | notText
  /-- Any other reason. -/
  | other (detail : String)
deriving DecidableEq, Repr

/-- The wording of the error. -/
def Error.message : Error → String
  | .notFound => "No such file or directory (os error 2)"
  | .isDirectory => "Is a directory (os error 21)"
  | .notDirectory => "Not a directory (os error 20)"
  | .nameTooLong => "File name too long (os error 36)"
  | .nulInName => "file name contained an unexpected NUL byte"
  | .notText => "stream did not contain valid UTF-8"
  | .other detail => detail

end ApiChain.Files
