import NavPolicy.Decimal.Binary64

/-!
# Shortest decimals

The text of a binary64 number has the fewest digits that read back as the same number,
and of those the digits nearest to it.  `Shortest.ofUnits` finds them by looking, for one
digit, two digits and so on, at the two points of the decimal grid around the number.
-/

namespace NavPolicy.Decimal

/-- The number `coefficient * 10 ^ exponent`. -/
structure Shortest where
  coefficient : Nat
  exponent : Int
  deriving DecidableEq, Repr

namespace Shortest

/-- The decimal exponent of the first digit of a magnitude below one: how many times it
must be multiplied by ten to reach one. -/
def tensBelow (units : Nat) : Nat → Nat → Nat
  | 0, k => k
  | fuel + 1, k => if Binary64.one ≤ units * Nat.pow 10 k then k else tensBelow units fuel (k + 1)

def firstExponent (units : Nat) : Int :=
  let whole := units / Binary64.one
  if whole = 0 then -(tensBelow units 400 0 : Int)
  else ((Nat.toDigits 10 whole).length : Int) - 1

/-- Four times the magnitudes between which every real number rounds to `units`, and
whether the ends round to it as well. -/
def interval (units : Nat) : Nat × Nat × Bool :=
  let s := Binary64.step units
  let below := if units / s = Nat.pow 2 52 ∧ 1 < s then s else 2 * s
  (4 * units - below, 4 * units + 2 * s, (units / s) % 2 == 0)

/-- Whether `d * 10 ^ t` rounds to the magnitude with the given interval. -/
def readsBack (bounds : Nat × Nat × Bool) (d : Nat) (t : Int) : Bool :=
  let (low, high, closed) := bounds
  let up := if t < 0 then 1 else Nat.pow 10 t.natAbs
  let down := if t < 0 then Nat.pow 10 t.natAbs else 1
  let point := 4 * d * up * Binary64.one
  if closed then low * down ≤ point && point ≤ high * down
  else low * down < point && point < high * down

/-- The distance between `d * 10 ^ t` and a magnitude, in a unit that depends on `t`. -/
def distance (units d : Nat) (t : Int) : Nat :=
  let up := if t < 0 then 1 else Nat.pow 10 t.natAbs
  let down := if t < 0 then Nat.pow 10 t.natAbs else 1
  let point := d * up * Binary64.one
  let value := units * down
  if point < value then value - point else point - value

def gridBelow (units : Nat) (t : Int) : Nat :=
  if t < 0 then units * Nat.pow 10 t.natAbs / Binary64.one
  else units / (Nat.pow 10 t.natAbs * Binary64.one)

/-- The grid point of a spacing that reads back, the nearer one where both do. -/
def onGrid? (units : Nat) (bounds : Nat × Nat × Bool) (t : Int) : Option Nat :=
  let d := gridBelow units t
  match readsBack bounds d t, readsBack bounds (d + 1) t with
  | true, true =>
    let a := distance units d t
    let b := distance units (d + 1) t
    if a < b then some d else if b < a then some (d + 1) else some (d + d % 2)
  | true, false => some d
  | false, true => some (d + 1)
  | false, false => none

def search (units : Nat) (bounds : Nat × Nat × Bool) : Nat → Int → Shortest
  | 0, t => ⟨gridBelow units t, t⟩
  | fuel + 1, t =>
    match onGrid? units bounds t with
    | some d => ⟨d, t⟩
    | none => search units bounds fuel (t - 1)

/-- Drop the zeros at the end of the coefficient. -/
def dropZeros : Nat → Shortest → Shortest
  | 0, s => s
  | fuel + 1, s =>
    if s.coefficient ≠ 0 ∧ s.coefficient % 10 = 0 then
      dropZeros fuel ⟨s.coefficient / 10, s.exponent + 1⟩
    else s

/-- The shortest decimal that reads back as a magnitude. -/
def ofUnits (units : Nat) : Shortest :=
  if units = 0 then ⟨0, 0⟩
  else dropZeros 400 (search units (interval units) 17 (firstExponent units))

/-- How decimals are written: which exponents of the first digit are written out. -/
structure Style where
  /-- The first digit's exponent from which numbers are written without an exponent. -/
  least : Int
  /-- The first digit's exponent from which they are written with one again. -/
  limit : Int

/-- Digits with a point after the first of them, if others follow. -/
def pointed : List Char → List Char
  | [] => []
  | [d] => [d]
  | d :: ds => d :: '.' :: ds

def text (style : Style) (s : Shortest) : List Char :=
  let digits := Nat.toDigits 10 s.coefficient
  let first := s.exponent + digits.length - 1
  if first < style.least ∨ style.limit ≤ first then
    pointed digits ++ 'e' :: (if first < 0 then '-' else '+') :: Nat.toDigits 10 first.natAbs
  else if first < 0 then
    ['0', '.'] ++ List.replicate (first.natAbs - 1) '0' ++ digits
  else if 0 ≤ s.exponent then
    digits ++ List.replicate s.exponent.natAbs '0' ++ ['.', '0']
  else digits.take (first.natAbs + 1) ++ '.' :: digits.drop (first.natAbs + 1)

end Shortest

/-- Numbers from a hundred-thousandth up to ten to the sixteenth are written out. -/
def plainStyle : Shortest.Style := ⟨-5, 16⟩

def Binary64.text (x : Binary64) : String :=
  String.ofList ((if x.negative then ['-'] else []) ++ (Shortest.ofUnits x.units).text plainStyle)

end NavPolicy.Decimal
