import ApiChain.Text.Blank
import ApiChain.Text.Split
import ApiChain.Number.Natural

/-!
# Paths into a value

A path is written as segments between dots. A segment is a key, followed by any number of groups in
brackets: an index, or `*` for a broadcast over the elements. A segment that starts with a bracket has
no key of its own; an empty segment is the empty key.

* **`Step`** is one move into a value, `Path` a list of them.
* **`Path.parse?`** reads a path; it fails on brackets that are not well formed.
* **`Path.render`** writes one.
-/

namespace ApiChain

/-- One move into a value. -/
inductive Step where
  | key (name : String)
  | index (n : Nat)
  | broadcast
deriving DecidableEq, Repr

/-- The moves of a path, in order. -/
abbrev Path := List Step

namespace Path

/-! ## Reading -/

/-- The step that the text inside a pair of brackets stands for. Blanks around it do not count. -/
def selector? (inner : List Char) : Option Step :=
  let s := Text.trim inner
  if s = ['*'] then some .broadcast
  else (Number.ofText? Number.maxUnsigned64 s).map .index

/-- The steps of a row of bracket groups. The first argument holds the characters since the opening
bracket, last one first, while a group is open. -/
def readGroups : Option (List Char) → List Char → Option Path
  | none, [] => some []
  | none, c :: rest => if c = '[' then readGroups (some []) rest else none
  | some _, [] => none
  | some inner, c :: rest =>
    if c = ']' then
      (selector? inner.reverse).bind fun step => (readGroups none rest).map (step :: ·)
    else readGroups (some (c :: inner)) rest

/-- The steps of one segment: its key, unless that is empty before a bracket, and its groups. -/
def readSegment (s : List Char) : Option Path :=
  let key := s.takeWhile (· ≠ '[')
  let groups := s.dropWhile (· ≠ '[')
  let keySteps : Path :=
    if key.isEmpty && !groups.isEmpty then [] else [.key (String.ofList key)]
  (readGroups none groups).map (keySteps ++ ·)

/-- The steps of the segments, one after the other. -/
def readSegments : List (List Char) → Option Path
  | [] => some []
  | s :: rest => (readSegment s).bind fun steps => (readSegments rest).map (steps ++ ·)

/-- The steps of a path's characters. -/
def parseChars? (s : List Char) : Option Path := readSegments (Text.splitOn '.' s)

/-- The steps of a written path, or nothing if its brackets are not well formed. -/
def parse? (s : String) : Option Path := parseChars? s.toList

/-! ## Writing -/

/-- A step in brackets, or the key itself. -/
def stepText : Step → List Char
  | .key name => name.toList
  | .index n => '[' :: (Number.decimal n ++ [']'])
  | .broadcast => ['[', '*', ']']

/-- The steps after the first, each key with a dot before it. -/
def renderRest : Path → List Char
  | [] => []
  | .key name :: rest => '.' :: (name.toList ++ renderRest rest)
  | step :: rest => stepText step ++ renderRest rest

/-- The written form of a path. -/
def renderChars : Path → List Char
  | [] => []
  | step :: rest => stepText step ++ renderRest rest

/-- The written form of a path. -/
def render (p : Path) : String := String.ofList (renderChars p)

end Path

end ApiChain
