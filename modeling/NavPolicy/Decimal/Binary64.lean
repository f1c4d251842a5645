/-!
# Binary floating point

A number that does not fit a 64-bit integer is kept as the nearest binary64 value.  A
magnitude is counted in units of `2 ^ -1074`, the distance between the smallest values,
so every operation is exact arithmetic on natural numbers followed by one rounding.
-/

namespace NavPolicy.Decimal

/-- A finite binary64 number: its sign and its magnitude in units of `2 ^ -1074`. -/
structure Binary64 where
  negative : Bool
  units : Nat
  deriving DecidableEq, Repr

namespace Binary64

/-- How many units make one. -/
def one : Nat := Nat.pow 2 1074

/-- The first magnitude that is too large to be finite, in units. -/
def overflow : Nat := Nat.pow 2 2098

/-- The distance from a magnitude to the next larger one, in units. -/
def step (units : Nat) : Nat := Nat.pow 2 (units.log2 - 52)

/-- A quotient rounded to the nearest natural number, a tie to the even one. -/
def roundDiv (num den : Nat) : Nat :=
  let q := num / den
  let r := num % den
  if 2 * r < den then q
  else if den < 2 * r then q + 1
  else q + q % 2

/-- The magnitude nearest to a quotient of units, unless it is too large. -/
def round? (num den : Nat) : Option Nat :=
  let s := step (num / den)
  let units := roundDiv num (den * s) * s
  if units < overflow then some units else none

def ofNat? (n : Nat) : Option Nat := round? (n * one) 1

def mul? (a b : Nat) : Option Nat := round? (a * b) one

def div? (a b : Nat) : Option Nat := round? (a * one) b

def largestTen : Nat := 308

def powTen (k : Nat) : Nat := (ofNat? (Nat.pow 10 (min k largestTen))).getD 0

/-- Divide by a power of ten, in steps where the power has no magnitude of its own.  The
result of each step is rounded. -/
def divTens : Nat → Nat → Nat → Nat
  | 0, units, _ => units
  | fuel + 1, units, k =>
    if k ≤ largestTen then (div? units (powTen k)).getD 0
    else if units = 0 then 0
    else divTens fuel ((div? units (powTen largestTen)).getD 0) (k - largestTen)

/-- A significand times a power of ten, with one rounding for the significand and one for
each factor, or `none` where the result is too large. -/
def scale? (significand : Nat) (exponent : Int) : Option Nat := do
  let units ← ofNat? significand
  if exponent < 0 then
    return divTens (exponent.natAbs + 1) units exponent.natAbs
  else if exponent.natAbs ≤ largestTen then mul? units (powTen exponent.natAbs)
  else if units = 0 then return 0
  else none

end Binary64

end NavPolicy.Decimal
