import ApiChain.Files.Error
import ApiChain.Text.Split

/-!
# Directories

A working directory with the files below it. A path is walked part by part; whatever lies outside the
directory holds nothing.
-/

namespace ApiChain.Files

open ApiChain.Text (splitOn)

/-- A place below the directory: the names on the way to it. -/
abbrev Place := List String

/-- The files and directories below a working directory. -/
structure Directory where
  files : List (Place × ByteArray)
  directories : List Place

/-- What is at a place. -/
inductive Found where
  | file (content : ByteArray)
  | directory
  | nothing

namespace Directory

/-- A directory with nothing in it. -/
def empty : Directory := ⟨[], []⟩

/-- What is at a place. A place on the way to another one is a directory. -/
def at? (d : Directory) (p : Place) : Found :=
  match d.files.lookup p with
  | some content => .file content
  | none =>
    let leads (place : Place) : Bool := p.isPrefixOf place
    if p.isEmpty || d.directories.any leads || d.files.any (leads ·.1) then .directory else .nothing

/-! ## Walking a path -/

/-- The longest path, in octets. -/
def maxPath : Nat := 4095

/-- The longest name, in octets. -/
def maxName : Nat := 255

/-- Where a walk stands. -/
inductive Position where
  /-- At a place below the directory that the walk began in. -/
  | inside (place : Place)
  /-- This many steps above it. -/
  | above (steps : Nat)
deriving Repr

/-- The position one step up. -/
def Position.up : Position → Position
  | .inside [] => .above 1
  | .inside p => .inside p.dropLast
  | .above n => .above (n + 1)

/-- The position after a name in a directory. Nothing is known above the directory. -/
def step (d : Directory) (position : Position) (name : String) : Except Error Position :=
  match position with
  | .above _ =>
    if name = "." then .ok position
    else if name = ".." then .ok position.up
    else .error .notFound
  | .inside p =>
    match d.at? p with
    | .directory =>
      if name = "." then .ok position
      else if name = ".." then .ok position.up
      else if maxName < name.utf8ByteSize then .error .nameTooLong
      else .ok (.inside (p ++ [name]))
    | .file _ => .error .notDirectory
    | .nothing => .error .notFound

/-- The position after several names. -/
def steps (d : Directory) : Position → List String → Except Error Position
  | position, [] => .ok position
  | position, name :: rest => do steps d (← d.step position name) rest

/-- The names of a path; an empty name stands for the directory itself. -/
def namesOf (path : String) : List String :=
  (splitOn '/' path.toList).map fun name => if name.isEmpty then "." else String.ofList name

/-- The position that a path leads to. -/
def walk (d : Directory) (path : String) : Except Error Position :=
  if path.toList.contains '\x00' then .error .nulInName
  else if path.isEmpty then .error .notFound
  else if maxPath < path.utf8ByteSize then .error .nameTooLong
  else if path.toList.head? = some '/' then d.steps (.above 1) (namesOf path)
  else d.steps (.inside []) (namesOf path)

/-! ## Reading and writing -/

/-- The text of the file at a path. -/
def readText (d : Directory) (path : String) : Except Error String := do
  match ← d.walk path with
  | .above _ => .error .isDirectory
  | .inside p =>
    match d.at? p with
    | .nothing => .error .notFound
    | .directory => .error .isDirectory
    | .file content =>
      match String.fromUTF8? content with
      | some text => .ok text
      | none => .error .notText

/-- The directory with a file put at a place. -/
def put (d : Directory) (p : Place) (content : ByteArray) : Directory :=
  { d with files := (p, content) :: d.files.filter fun f => f.1 != p }

/-- The directory with a text written to the file at a path. -/
def writeText (d : Directory) (path text : String) : Except Error Directory := do
  match ← d.walk path with
  | .above _ => .error .isDirectory
  | .inside p =>
    match d.at? p with
    | .directory => .error .isDirectory
    | .file _ => .ok (d.put p text.toUTF8)
    | .nothing =>
      match d.at? p.dropLast with
      | .directory => .ok (d.put p text.toUTF8)
      | .file _ => .error .notDirectory
      | .nothing => .error .notFound

end Directory

/-! ## Disks -/

/-- Whatever texts can be read from and written to by a path; every writing changes its content `φ`. -/
structure Disk (φ : Type) where
  /-- The text of the file at a path. -/
  read : φ → String → Except Error String
  /-- The content with a text written to the file at a path. -/
  write : φ → String → String → Except Error φ

/-- A working directory as a disk. -/
def Directory.disk : Disk Directory where
  read := readText
  write := writeText

end ApiChain.Files
