import ApiChain.Document
import ApiChain.Number.Decimal
import ApiChain.Yaml.TagKind

/-!
# What a YAML scalar stands for

Without a tag, a plain scalar is a word for nothing, a truth value, a number or a text, whatever it
looks like first; a scalar in quotes or in the form of a block is a text. A tag of the format's own
asks for one of these; a tag of the author's own is not understood where any value may stand. A
field that is a text takes every scalar as it is written.
-/

namespace ApiChain.Yaml

open ApiChain.Number (ofDigits? isDigit twoPow Double)

/-! ## Words -/

/-- The words for no value. -/
def nullWords : List String := ["null", "Null", "NULL", "~"]

/-- The words for a truth value. -/
def boolWords : List (String × Bool) :=
  [("true", true), ("True", true), ("TRUE", true), ("false", false), ("False", false), ("FALSE", false)]

/-- The words for an infinite number; a minus sign may stand before them. -/
def infinityWords : List String := [".inf", ".Inf", ".INF"]

/-- The words for a number that is none. -/
def nanWords : List String := [".nan", ".NaN", ".NAN"]

/-! ## Numbers -/

/-- The size of an integer: digits after the mark of their base, or decimal digits without a zero in
front. -/
def magnitude? : List Char → Option Nat
  | '0' :: 'x' :: digits => ofDigits? 16 digits
  | '0' :: 'o' :: digits => ofDigits? 8 digits
  | '0' :: 'b' :: digits => ofDigits? 2 digits
  | ['0'] => some 0
  | '0' :: _ => none
  | digits => ofDigits? 10 digits

/-- The integer that a text writes. -/
def integer? : List Char → Option Int
  | '-' :: rest => (magnitude? rest).map fun n => -(n : Int)
  | '+' :: rest => (magnitude? rest).map fun n => (n : Int)
  | s => (magnitude? s).map fun n => (n : Int)

/-- The reading of an integer: one of up to 64 bits is a value, one of up to 128 bits is refused, and a
larger one is no integer at all. -/
def integerReading? (s : List Char) : Option Reading :=
  (integer? s).bind fun n =>
    if -(twoPow 63 : Int) ≤ n ∧ n < twoPow 64 then some (.value (.number (.int n)))
    else if -(twoPow 127 : Int) ≤ n ∧ n < twoPow 128 then some .refused
    else none

/-- The finite float that a text writes; a plus sign stands before no other sign. -/
def finite? : List Char → Option Double
  | '+' :: '+' :: _ => none
  | '+' :: '-' :: _ => none
  | s => Double.ofText? s

/-- The reading of a float. -/
def floatReading? (s : String) : Option Reading :=
  let signed (sign : String) := infinityWords.any fun w => s == sign ++ w
  if signed "" || signed "+" || signed "-" || nanWords.contains s then some .notFinite
  else (finite? s.toList).map fun x => .value (.number (.real x))

/-- Whether a text is two or more digits, a sign aside, of which the first is a zero: a text and no
number. -/
def hasLeadingZero (s : List Char) : Bool :=
  let digits := match s with
    | '-' :: rest => rest
    | '+' :: rest => rest
    | _ => s
  match digits with
  | '0' :: d :: rest => (d :: rest).all isDigit
  | _ => false

/-! ## Readings -/

/-- What a plain scalar without a tag stands for. -/
def plainReading (s : String) : Reading :=
  if s.isEmpty || nullWords.contains s then .nothing
  else
    match boolWords.lookup s with
    | some b => .value (.bool b)
    | none =>
      match integerReading? s.toList with
      | some r => r
      | none =>
        if hasLeadingZero s.toList then .value (.string s)
        else (floatReading? s).getD (.value (.string s))

/-- What a scalar without a tag stands for. -/
def untaggedReading (plain : Bool) (s : String) : Reading :=
  if plain then plainReading s else .value (.string s)

/-- What a scalar stands for where any value may stand. -/
def reading (tag : Option TagKind) (plain : Bool) (s : String) : Reading :=
  match tag with
  | some .bool =>
    match boolWords.lookup s with
    | some b => .value (.bool b)
    | none => .refused
  | some .int => (integerReading? s.toList).getD .refused
  | some .float => (floatReading? s).getD .refused
  | some .null => if nullWords.contains s then .nothing else .refused
  | some .own => .refused
  | some .foreign => .value (.string s)
  | some .nameless => untaggedReading plain s
  | none => untaggedReading plain s

/-- How a scalar answers a field that may be left out. -/
def presence (tag : Option TagKind) (plain : Bool) (s : String) : Presence :=
  if !plain then .present
  else
    match tag with
    | some .null => if nullWords.contains s then .absent else .refused
    | some _ => .present
    | none => if s.isEmpty || nullWords.contains s then .absent else .present

/-- A scalar with its readings. -/
def scalar (tag : Option TagKind) (plain : Bool) (s : String) : Scalar where
  text? := some s
  reading := reading tag plain s
  presence := presence tag plain s
  blank := plain && s.isEmpty

end ApiChain.Yaml
