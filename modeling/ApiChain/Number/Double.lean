import ApiChain.Number.Natural

/-!
# Finite 64-bit floats

A float is kept as its sign, its mantissa and the power of two that it is scaled by, so that every
statement about it is one about whole numbers. `Double.ofRatio?` rounds a quotient of whole numbers to
the nearest float, a tie going to the even mantissa; products, quotients and the values of decimal
texts are all defined through it.
-/

namespace ApiChain.Number

/-- A finite float with value `± mantissa * 2 ^ exponent`. The mantissa of a normal float lies between
`2 ^ 52` and `2 ^ 53`; a smaller one has the least exponent, `-1074`. -/
structure Double where
  negative : Bool
  mantissa : Nat
  exponent : Int
deriving DecidableEq, Repr

namespace Double

/-- The least exponent. -/
def minExponent : Int := -1074

/-- The greatest exponent. -/
def maxExponent : Int := 971

/-- Zero with the given sign. -/
def zero (negative : Bool) : Double := ⟨negative, 0, minExponent⟩

/-- Both signs of zero are zero. -/
def isZero (x : Double) : Bool := x.mantissa == 0

/-- The size of the float is `numerator / denominator`. -/
def numerator (x : Double) : Nat := x.mantissa * twoPow x.exponent.toNat

/-- The size of the float is `numerator / denominator`. -/
def denominator (x : Double) : Nat := twoPow (-x.exponent).toNat

/-- The quotient rounded to the nearest whole number, a tie going to the even one. -/
def roundDiv (num den : Nat) : Nat :=
  let q := num / den
  let r := num % den
  if 2 * r < den then q
  else if 2 * r = den then q + q % 2
  else q + 1

/-- `num / (den * 2 ^ e)` as a quotient of whole numbers. -/
def scaled (num den : Nat) (e : Int) : Nat × Nat :=
  (num * twoPow (-e).toNat, den * twoPow e.toNat)

/-- The exponent at which `num / den` has a mantissa of 53 binary digits, or the least exponent. -/
def exponentFor (num den : Nat) : Int :=
  let e : Int := (Nat.log2 num : Int) - (Nat.log2 den : Int) - 52
  let (n, d) := scaled num den e
  let e := if n / d < twoPow 52 then e - 1 else e
  if e < minExponent then minExponent else e

/-- The float nearest to `num / den`, or nothing if that lies beyond the greatest float. -/
def ofRatio? (negative : Bool) (num den : Nat) : Option Double :=
  if num = 0 then some (zero negative)
  else
    let e := exponentFor num den
    let (n, d) := scaled num den e
    let m := roundDiv n d
    let x : Double := if m = twoPow 53 then ⟨negative, twoPow 52, e + 1⟩ else ⟨negative, m, e⟩
    if maxExponent < x.exponent then none else some x

/-- The product, rounded; nothing if it lies beyond the greatest float. -/
def mul? (x y : Double) : Option Double :=
  ofRatio? (x.negative != y.negative) (x.numerator * y.numerator) (x.denominator * y.denominator)

/-- The quotient by a float other than zero, rounded; nothing if it lies beyond the greatest float. -/
def div? (x y : Double) : Option Double :=
  ofRatio? (x.negative != y.negative) (x.numerator * y.denominator) (x.denominator * y.numerator)

/-- The float nearest to `± digits * 10 ^ e`, or nothing if that lies beyond the greatest float. -/
def ofDecimal? (negative : Bool) (digits : Nat) (e : Int) : Option Double :=
  if digits = 0 then some (zero negative)
  -- Below half of the least float the power of ten need not be computed.
  else if e + (Nat.toDigits 10 digits).length < -330 then some (zero negative)
  else if 310 < e then none
  else ofRatio? negative (digits * tenPow e.toNat) (tenPow (-e).toNat)

end Double

end ApiChain.Number
