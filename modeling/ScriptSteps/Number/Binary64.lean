/-!
# Double precision numbers

A number is kept as its IEEE 754 double precision pattern. Its magnitude is
`significand · 2 ^ scale` for a natural significand, so every question about its value is one of
integer arithmetic.

## Main definitions

* `Binary64`: a number by its bits
* `Binary64.significand`, `Binary64.scale`: the magnitude of a finite number, exactly
* `Binary64.ofRatio`: the number nearest to a fraction of natural numbers
-/

namespace ScriptSteps

/-- A double precision number, given by its bits. -/
structure Binary64 where
  bits : UInt64
deriving DecidableEq, Repr

namespace Binary64

/-! ## Parts of a pattern -/

/-- The weight of the sign bit, `2 ^ 63`. -/
def signWeight : Nat := 0x8000000000000000

/-- How many patterns share an exponent field, `2 ^ 52`. -/
def fractionCount : Nat := 0x10000000000000

/-- Whether the sign bit is set. -/
def isNegative (x : Binary64) : Bool := signWeight ≤ x.bits.toNat

/-- The bits without the sign; they grow with the absolute value. -/
def magnitude (x : Binary64) : Nat := x.bits.toNat % signWeight

/-- The magnitude of infinity; the patterns above it are no numbers. -/
def infinityMagnitude : Nat := 2047 * fractionCount

def isNaN (x : Binary64) : Bool := infinityMagnitude < x.magnitude

def isInfinite (x : Binary64) : Bool := x.magnitude == infinityMagnitude

def isZero (x : Binary64) : Bool := x.magnitude == 0

/-- The exponent field; the values with field 0 are spaced like those with field 1. -/
def exponentField (x : Binary64) : Nat := x.magnitude / fractionCount

/-- The integer `m` of a finite magnitude `m · 2 ^ q`. -/
def significand (x : Binary64) : Nat :=
  if x.exponentField = 0 then x.magnitude else x.magnitude % fractionCount + fractionCount

/-- The exponent `q` of a finite magnitude `m · 2 ^ q`. -/
def scale (x : Binary64) : Int := (max x.exponentField 1 : Nat) - (1075 : Int)

/-- The non-negative number with the given magnitude. -/
def ofMagnitude (magnitude : Nat) : Binary64 := ⟨UInt64.ofNat magnitude⟩

def zero : Binary64 := ofMagnitude 0

def infinity : Binary64 := ofMagnitude infinityMagnitude

/-- The magnitude as a fraction. -/
def ratio (x : Binary64) : Nat × Nat :=
  if 0 ≤ x.scale then (x.significand * Nat.pow 2 x.scale.toNat, 1)
  else (x.significand, Nat.pow 2 (-x.scale).toNat)

/-! ## Rounding -/

/-- The integer nearest to `num / den`; a half goes to the even neighbour. -/
def roundDiv (num den : Nat) : Nat :=
  let quotient := num / den
  let rest := num % den
  if 2 * rest < den then quotient
  else if den < 2 * rest then quotient + 1
  else quotient + quotient % 2

/-- `num / den / 2 ^ q` as a fraction. -/
def scaled (num den : Nat) (q : Int) : Nat × Nat :=
  if 0 ≤ q then (num, den * Nat.pow 2 q.toNat) else (num * Nat.pow 2 (-q).toNat, den)

/-- The power of two that the significand of `num / den` counts: the significand gets 53 bits, or
fewer where that would take the power below `2 ^ -1074`. -/
def unitOf (num den : Nat) : Int :=
  let guess : Int := max ((num.log2 : Int) - den.log2 - 53) (-1074)
  let (num', den') := scaled num den guess
  if 2 * fractionCount ≤ num' / den' then guess + 1 else guess

/-- The number nearest to `num / den`, of two equally near ones the one with the even significand;
what lies beyond the largest number is infinite. -/
def ofRatio (num den : Nat) : Binary64 :=
  if num = 0 then zero
  else
    let unit := unitOf num den
    let (num', den') := scaled num den unit
    let magnitude := (unit + 1074).toNat * fractionCount + roundDiv num' den'
    ofMagnitude (min magnitude infinityMagnitude)

/-- The number nearest to a natural number. -/
def ofNat (n : Nat) : Binary64 := ofRatio n 1

end Binary64

end ScriptSteps
