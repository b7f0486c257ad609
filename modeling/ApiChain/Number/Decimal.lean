import ApiChain.Number.Double
import ApiChain.Number.Natural

/-!
# Reading decimal floats

A sign, digits with a point before, among or after them, and a power of ten. The text stands for the
float nearest to the number that it writes.
-/

namespace ApiChain.Number

/-- The power of ten that is written after the digits, if all that is left is one. -/
def readTenfold? : List Char → Option Int
  | [] => some 0
  | c :: rest =>
    if c = 'e' ∨ c = 'E' then
      match rest with
      | '-' :: digits => (ofDigits? 10 digits).map fun n => -(n : Int)
      | '+' :: digits => (ofDigits? 10 digits).map fun n => (n : Int)
      | digits => (ofDigits? 10 digits).map fun n => (n : Int)
    else none

/-- The float that an unsigned text writes. -/
def unsignedDecimal? (negative : Bool) (s : List Char) : Option Double :=
  let whole := s.takeWhile isDigit
  let (fraction, rest) := match s.dropWhile isDigit with
    | '.' :: after => (after.takeWhile isDigit, after.dropWhile isDigit)
    | after => ([], after)
  (ofDigits? 10 (whole ++ fraction)).bind fun digits =>
    (readTenfold? rest).bind fun power =>
      Double.ofDecimal? negative digits (power - fraction.length)

/-- The float that a text writes, unless it lies beyond the greatest float. -/
def Double.ofText? : List Char → Option Double
  | '-' :: rest => unsignedDecimal? true rest
  | '+' :: rest => unsignedDecimal? false rest
  | s => unsignedDecimal? false s

end ApiChain.Number
