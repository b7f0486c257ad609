import ApiChain.Text.Blank
import ApiChain.Text.Split

/-!
# Placeholders

A template is a text with holes: two opening braces, at least one character other than a closing brace,
and two closing braces. What stands in a hole names an earlier call and, after the first dot, a path
into its response.

* **`Template.scan`** cuts a text into single characters and holes, from left to right: a hole starts
  wherever one can, and holes do not overlap.
* **`Placeholder.parse`** reads what stands in a hole.
-/

namespace ApiChain

/-! ## Holes -/

namespace Template

/-- A part of a template: a character that stands for itself, or a hole with what stands in it. -/
inductive Piece where
  | char (c : Char)
  | hole (inner : List Char)
deriving DecidableEq, Repr

/-- What stands in the hole at the start of a text, if a hole starts there. -/
def holeAt? : List Char → Option (List Char)
  | '{' :: '{' :: rest =>
    let inner := rest.takeWhile (· ≠ '}')
    match rest.dropWhile (· ≠ '}') with
    | '}' :: '}' :: _ => if inner.isEmpty then none else some inner
    | _ => none
  | _ => none

/-- The pieces of a text after the next `skip` characters. -/
def scanFrom : Nat → List Char → List Piece
  | _, [] => []
  | skip + 1, _ :: rest => scanFrom skip rest
  | 0, c :: rest =>
    match holeAt? (c :: rest) with
    | some inner => .hole inner :: scanFrom (inner.length + 3) rest
    | none => .char c :: scanFrom 0 rest

/-- The pieces of a text. -/
def scan (s : List Char) : List Piece := scanFrom 0 s

/-- Skipping characters is scanning what remains. -/
theorem scanFrom_eq_scan_drop (skip : Nat) (s : List Char) :
    scanFrom skip s = scan (s.drop skip) := by
  induction s generalizing skip with
  | nil => simp [scanFrom, scan]
  | cons c rest ih =>
    cases skip with
    | zero => rfl
    | succ n => simpa [scanFrom] using ih n

/-- The text of a piece. -/
def Piece.chars : Piece → List Char
  | .char c => [c]
  | .hole inner => ['{', '{'] ++ inner ++ ['}', '}']

end Template

/-! ## What stands in a hole -/

/-- A reference to an earlier call's response. -/
structure Placeholder where
  /-- The identifier of the call. -/
  api : String
  /-- The path into its response; empty for the whole response. -/
  path : String
deriving DecidableEq, Repr

namespace Placeholder

/-- Reads what stands in a hole: blanks at its ends do not count, and the first dot ends the call's
identifier. -/
def parseChars (inner : List Char) : Placeholder :=
  let s := Text.trim inner
  match Text.splitOnce '.' s with
  | some (api, path) => ⟨String.ofList api, String.ofList path⟩
  | none => ⟨String.ofList s, ""⟩

/-- Reads what stands in a hole. -/
def parse (inner : String) : Placeholder := parseChars inner.toList

/-- The mark of a broadcast in a path. -/
def broadcastMark : List Char := ['[', '*', ']']

/-- Whether the path holds the mark of a broadcast. -/
def isBroadcast (p : Placeholder) : Bool := Text.occursIn broadcastMark p.path.toList

end Placeholder

namespace Template

/-- The placeholders of a text, in order. -/
def placeholders (text : String) : List Placeholder :=
  (scan text.toList).filterMap fun
    | .char _ => none
    | .hole inner => some (Placeholder.parseChars inner)

/-- Whether a text holds a placeholder for the call that is a broadcast. -/
def containsBroadcast (text : String) (api : String) : Bool :=
  (placeholders text).any fun p => p.api == api && p.isBroadcast

end Template

end ApiChain
