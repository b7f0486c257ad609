import ApiChain.Number.Double

/-!
# The shortest decimal of a float

Of the decimals that read back as a float, the shortest is the one with the fewest digits, and of
those the nearest; a tie goes to the even digit. The search tries one digit, then two, and so on up to
seventeen, which always suffice. On each grid only the two neighbours of the float can be the answer.
-/

namespace ApiChain.Number

/-- A decimal `digits * 10 ^ exponent`. -/
structure Decimal where
  digits : Nat
  exponent : Int
deriving DecidableEq, Repr

namespace Double

/-- The interval of the reals that round to a float: four times the bounds and the value itself, all
over the float's denominator, with a mark saying whether the bounds belong to it. -/
structure Interval where
  low : Nat
  value : Nat
  high : Nat
  denominator : Nat
  closed : Bool

/-- The reals that round to the float. Below a power of two the neighbour is half as far away. -/
def interval (x : Double) : Interval :=
  let unit := twoPow x.exponent.toNat
  let below := if x.mantissa = twoPow 52 && minExponent < x.exponent then 1 else 2
  { low := (4 * x.mantissa - below) * unit
    value := 4 * x.mantissa * unit
    high := (4 * x.mantissa + 2) * unit
    denominator := 4 * x.denominator
    closed := x.mantissa % 2 == 0 }

/-- Whether `num / den` lies in the interval. -/
def Interval.contains (i : Interval) (num den : Nat) : Bool :=
  let a := num * i.denominator
  if i.closed then i.low * den ≤ a && a ≤ i.high * den
  else i.low * den < a && a < i.high * den

/-- The least `j` from the given one on with `den ≤ num * 10 ^ j`, searched for `fuel` steps. -/
def tenfolds (num den : Nat) : Nat → Nat → Nat
  | 0, j => j
  | fuel + 1, j => if den ≤ num * tenPow j then j else tenfolds num den fuel (j + 1)

/-- The power of ten of the first digit of `num / den`; 400 steps reach below the least float. -/
def leadingPower (num den : Nat) : Int :=
  if den ≤ num then ((Nat.toDigits 10 (num / den)).length : Int) - 1
  else -((tenfolds num den 400 1 : Nat) : Int)

/-- The decimal with the given unit's power of ten that reads back as the float and is nearest to it,
if one does. -/
def onGrid? (i : Interval) (power : Int) : Option Decimal :=
  let up := tenPow power.toNat
  let down := tenPow (-power).toNat
  let num := i.value * down
  let den := i.denominator * up
  let d := num / den
  let r := num % den
  let lower := i.contains (d * up) down
  let upper := i.contains ((d + 1) * up) down
  let nearer := if 2 * r < den then d else if 2 * r = den then d + d % 2 else d + 1
  match lower, upper with
  | true, true => some ⟨nearer, power⟩
  | true, false => some ⟨d, power⟩
  | false, true => some ⟨d + 1, power⟩
  | false, false => none

/-- Drops the zeros at the end of the digits. -/
def Decimal.strip : Nat → Decimal → Decimal
  | 0, d => d
  | fuel + 1, d =>
    if d.digits ≠ 0 ∧ d.digits % 10 = 0 then strip fuel ⟨d.digits / 10, d.exponent + 1⟩ else d

/-- The shortest decimal that reads back as the size of the float. -/
def shortest (x : Double) : Decimal :=
  if x.isZero then ⟨0, 0⟩
  else
    let i := x.interval
    let lead := leadingPower i.value i.denominator
    let found := (List.range 17).findSome? fun n => onGrid? i (lead - Int.ofNat n)
    Decimal.strip 20 (found.getD ⟨0, 0⟩)

end Double

end ApiChain.Number
