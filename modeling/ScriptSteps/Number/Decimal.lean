import ScriptSteps.Number.Binary64

/-!
# Decimal numbers

A finite decimal is a natural coefficient times a power of ten. Reading one rounds it once, to
the nearest double precision number; the other way, a number is written with the fewest
significant digits that read back as the same number.

## Main definitions

* `Decimal`: coefficient and power of ten
* `Binary64.ofDecimal`: the nearest double precision number
* `Binary64.shortest`: the fewest digits that read back
-/

namespace ScriptSteps

/-- The value `coefficient · 10 ^ exponent`. -/
structure Decimal where
  coefficient : Nat
  exponent : Int
deriving DecidableEq, Repr

namespace Binary64

/-! ## Reading -/

/-- The number nearest to a decimal. Values of at least `10 ^ 310` are infinite and values below
`10 ^ -330` are zero whatever their digits, so no larger power of ten is ever formed. -/
def ofDecimal (d : Decimal) : Binary64 :=
  if d.coefficient = 0 then zero
  else if 310 < d.exponent then infinity
  else if 0 ≤ d.exponent then ofRatio (d.coefficient * Nat.pow 10 d.exponent.toNat) 1
  else if (d.coefficient.log2 / 3 + 1 : Nat) + d.exponent < -330 then zero
  else ofRatio d.coefficient (Nat.pow 10 (-d.exponent).toNat)

/-! ## Fewest digits -/

/-- All digits of a finite magnitude. -/
def exactDecimal (x : Binary64) : Decimal :=
  if 0 ≤ x.scale then ⟨x.significand * Nat.pow 2 x.scale.toNat, 0⟩
  else ⟨x.significand * Nat.pow 5 (-x.scale).toNat, x.scale⟩

/-- How many digits `num / den` has before the decimal point; for a value below one, zero or less,
counting the zeros after the point. -/
def integerDigits (num den : Nat) : Int :=
  if den ≤ num then (Nat.toDigits 10 (num / den)).length
  else 1 - (Nat.toDigits 10 (den / num) |>.length : Nat)

/-- Of the two neighbours of the magnitude among the multiples of `10 ^ exponent`, those that read
back as the magnitude, the nearer one first and of two equally near ones the larger one first. -/
def neighbours (x : Binary64) (exponent : Int) : List Decimal :=
  let (num, den) := x.ratio
  let (num', den') :=
    if 0 ≤ exponent then (num, den * Nat.pow 10 exponent.toNat)
    else (num * Nat.pow 10 (-exponent).toNat, den)
  let below : Decimal := ⟨num' / den', exponent⟩
  let above : Decimal := ⟨num' / den' + 1, exponent⟩
  let ordered := if 2 * (num' % den') < den' then [below, above] else [above, below]
  ordered.filter fun d => decide ((ofDecimal d).magnitude = x.magnitude)

/-- The decimal with the fewest significant digits that reads back as the magnitude of a finite
number, and of those the nearest. Seventeen digits always suffice. -/
def shortest (x : Binary64) : Decimal :=
  let (num, den) := x.ratio
  let places := integerDigits num den
  let found := (List.range 17).findSome? fun n => (x.neighbours (places - (n + 1 : Nat))).head?
  found.getD x.exactDecimal

theorem ofDecimal_of_mem_neighbours {x : Binary64} {exponent : Int} {d : Decimal}
    (h : d ∈ x.neighbours exponent) : (ofDecimal d).magnitude = x.magnitude := by
  simpa using (List.mem_filter.1 h).2

end Binary64

end ScriptSteps
