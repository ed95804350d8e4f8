import ScriptSteps.Number.Decimal

/-!
# Written numbers

How the digits of a number are laid out: where the decimal point goes, when an exponent is
written, and what stands for the values that have no digits.

## Main definitions

* `NumberLayout`: the decisions of one way to write numbers
* `NumberLayout.write`: a number in that way
-/

namespace ScriptSteps

namespace Decimal

/-- The digits of the coefficient without trailing zeros. -/
def significantDigits (d : Decimal) : List Char :=
  ((Nat.toDigits 10 d.coefficient).reverse.dropWhile (· == '0')).reverse

/-- The position of the decimal point: the value is `0.ddd · 10 ^ point` for its significant digits
`ddd`. -/
def point (d : Decimal) : Int := (Nat.toDigits 10 d.coefficient).length + d.exponent

/-- The value without an exponent, with zeros up to the decimal point where digits are missing. -/
def positional (d : Decimal) : List Char :=
  let digits := d.significantDigits
  if d.point ≤ 0 then '0' :: '.' :: List.replicate (-d.point).toNat '0' ++ digits
  else
    let whole := d.point.toNat
    if digits.length ≤ whole then digits ++ List.replicate (whole - digits.length) '0'
    else digits.take whole ++ '.' :: digits.drop whole

/-- The value as one digit, the further digits after a point, and the power of ten with its sign. -/
def scientific (d : Decimal) : List Char :=
  let power := d.point - 1
  let mantissa := match d.significantDigits with
    | [] => ['0']
    | [digit] => [digit]
    | digit :: digits => digit :: '.' :: digits
  let sign := if power < 0 then '-' else '+'
  mantissa ++ 'e' :: sign :: Nat.toDigits 10 power.natAbs

end Decimal

/-- The decisions of one way to write numbers. -/
structure NumberLayout where
  /-- Which positions of the decimal point are written without an exponent. -/
  isPositional : Int → Bool
  /-- What is written for infinity, after its sign. -/
  infinity : String
  /-- What is written for a pattern that is no number. -/
  notANumber : String
  /-- Whether zero shows its sign. -/
  signsZero : Bool

namespace NumberLayout

/-- A number in the given layout, with its fewest digits. -/
def write (layout : NumberLayout) (x : Binary64) : String :=
  let sign := if x.isNegative then "-" else ""
  if x.isNaN then layout.notANumber
  else if x.isInfinite then sign ++ layout.infinity
  else if x.isZero then (if layout.signsZero then sign else "") ++ "0"
  else
    let d := x.shortest
    sign ++ String.ofList (if layout.isPositional d.point then d.positional else d.scientific)

end NumberLayout

end ScriptSteps
