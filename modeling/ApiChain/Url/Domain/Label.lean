import ApiChain.Url.Domain.Character

/-!
# Labels of domain names

A label is a part of a name between two points. One with characters outside ASCII is written in
punycode after a mark. Whether a label is a good one is said of its characters: it does not begin with a
mark that combines, a joiner stands only where it has an effect, and in a name that is written from right
to left all characters agree on a direction.
-/

namespace ApiChain.Url.Domain

open Punycode (isAscii)

/-! ## Joiners -/

/-- Whether a joiner has an effect between the characters `before` it, last one first, and those after
it: it follows a virama, or keeps two letters apart that would join. -/
def joinerFits (before : List Char) (c : Char) (after : List Char) : Bool :=
  before.head?.any viramas.has
    || (c == nonJoiner && (before.dropWhile isMark).head?.any joinsNext.has
      && (after.dropWhile isMark).head?.any joinsPrevious.has)

/-- Whether all joiners have an effect, `before` being the characters before, last one first. -/
def joinersFit : List Char → List Char → Bool
  | _, [] => true
  | before, c :: after =>
    (!(c == joiner || c == nonJoiner) || joinerFits before c after)
      && joinersFit (c :: before) after

/-! ## Directions -/

/-- Whether the directions of a label agree: it begins with a letter, no letter is written the other
way, and a letter or a digit ends it, marks apart. -/
def directionsAgree (label : List Char) : Bool :=
  let ds := label.map direction
  let last := (ds.reverse.dropWhile (· == .mark)).head?
  match ds.head? with
  | none => true
  | some .left =>
    ds.all (fun d => d != .right && d != .arabicDigit)
      && (last == some .left || last == some .digit)
  | some .right =>
    ds.all (· != .left) && !(ds.contains .digit && ds.contains .arabicDigit)
      && (last == some .right || last == some .digit || last == some .arabicDigit)
  | some _ => false

/-- Whether a label has a character that is written from right to left. -/
def isRightToLeft (label : List Char) : Bool :=
  label.any fun c => direction c == .right || direction c == .arabicDigit

/-! ## Written forms -/

/-- The mark of a label in punycode. -/
def punycodeMark : List Char := ['x', 'n', '-', '-']

/-- Whether the characters of a label are good ones, directions apart. -/
def isGood (label : List Char) : Bool := !label.head?.any isMark && joinersFit [] label

/-- The characters of a label in its plain form. One in punycode must stand for plain characters that
need it. -/
def readLabel (label : List Char) : Option (List Char) :=
  if punycodeMark.isPrefixOf label then
    if label.all isAscii then
      (Punycode.decode? (label.drop punycodeMark.length)).filter fun decoded =>
        decoded.any (fun c => !isAscii c) && decoded.all isPlain && isGood decoded
    else none
  else if isGood label then some label
  else none

/-- The written form of a label with the given characters. -/
def writeLabel (label : List Char) : List Char :=
  if label.all isAscii then label else punycodeMark ++ Punycode.encode label

end ApiChain.Url.Domain
