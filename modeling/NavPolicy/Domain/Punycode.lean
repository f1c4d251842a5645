import NavPolicy.Text.CodeTable

/-!
# Punycode

A label that holds other than ASCII characters is written as its ASCII characters, a
hyphen, and the places and values of the others as a sequence of differences.  Each
difference is a number of base 36 whose digits have thresholds that follow the sizes of
the differences before it.
-/

namespace NavPolicy.Domain.Punycode

def digit (d : Nat) : Char :=
  if d < 26 then Char.ofNat (97 + d) else Char.ofNat (22 + d)

def digitValue? (c : Char) : Option Nat :=
  if 'a' ≤ c && c ≤ 'z' then some (c.toNat - 97)
  else if 'A' ≤ c && c ≤ 'Z' then some (c.toNat - 65)
  else if c.isDigit then some (c.toNat - 22)
  else none

/-- The threshold of the digit at a place, places counting in steps of 36. -/
def threshold (bias place : Nat) : Nat :=
  if place ≤ bias then 1 else if bias + 26 ≤ place then 26 else place - bias

def settle : Nat → Nat → Nat → Nat × Nat
  | 0, delta, k => (delta, k)
  | fuel + 1, delta, k => if 455 < delta then settle fuel (delta / 35) (k + 36) else (delta, k)

def adapt (delta count : Nat) (first : Bool) : Nat :=
  let delta := if first then delta / 700 else delta / 2
  let (delta, k) := settle 64 (delta + delta / count) 0
  k + 36 * delta / (delta + 38)

def differenceDigits (bias : Nat) : Nat → Nat → Nat → List Char
  | 0, _, q => [digit q]
  | fuel + 1, place, q =>
    let t := threshold bias place
    if q < t then [digit q]
    else
      digit (t + (q - t) % (36 - t)) ::
        differenceDigits bias fuel (place + 36) ((q - t) / (36 - t))

/-- A label that is partly written: its digits, backwards, and what decides the next
difference. -/
structure Written where
  digits : List Char
  delta : Nat
  bias : Nat
  count : Nat

/-- Go over one code point of the label while those equal to `code` are written. -/
def writeOne (basic code : Nat) (w : Written) (n : Nat) : Written :=
  if n < code then { w with delta := w.delta + 1 }
  else if n = code then
    { digits := (differenceDigits w.bias 64 36 w.delta).reverse ++ w.digits
      delta := 0
      bias := adapt w.delta (w.count + 1) (w.count == basic)
      count := w.count + 1 }
  else w

def distinct : List Nat → List Nat
  | [] => []
  | [n] => [n]
  | m :: n :: rest => if m = n then distinct (n :: rest) else m :: distinct (n :: rest)

/-- Write the code points of a list, smallest first; all below `low` are written. -/
def writeAll (label : List Nat) (basic : Nat) : List Nat → Nat → Written → Written
  | [], _, w => w
  | code :: rest, low, w =>
    let w := { w with delta := w.delta + (code - low) * (w.count + 1) }
    let w := label.foldl (writeOne basic code) w
    writeAll label basic rest (code + 1) { w with delta := w.delta + 1 }

/-- A label in ASCII, without the mark that tells it is one. -/
def encode (label : List Char) : List Char :=
  let basic := label.filter fun c => c.toNat < 128
  let codes := label.map Char.toNat
  let others := distinct ((codes.filter fun n => 128 ≤ n).mergeSort (· ≤ ·))
  let w := writeAll codes basic.length others 128 ⟨[], 0, 72, basic.length⟩
  basic ++ (if basic.isEmpty then [] else ['-']) ++ w.digits.reverse

/-- Read one difference, added to `i`. -/
def readDifference (bias : Nat) : Nat → Nat → Nat → List Char → Option (Nat × List Char)
  | _, _, _, [] => none
  | place, weight, i, c :: rest =>
    match digitValue? c with
    | none => none
    | some d =>
      let i := i + d * weight
      let t := threshold bias place
      if d < t then some (i, rest)
      else readDifference bias (place + 36) (weight * (36 - t)) i rest

def readAll : Nat → Nat → Nat → Nat → List Nat → List Char → Option (List Nat)
  | _, _, _, _, label, [] => some label
  | 0, _, _, _, _, _ => none
  | fuel + 1, code, i, bias, label, cs =>
    match readDifference bias 36 1 i cs with
    | none => none
    | some (j, rest) =>
      let size := label.length + 1
      let code := code + j / size
      let place := j % size
      if 0x10FFFF < code then none
      else
        readAll fuel code (place + 1) (adapt (j - i) size (i == 0))
          (label.take place ++ code :: label.drop place) rest

def decode (text : List Char) : Option (List Char) :=
  let basic := ((text.reverse.dropWhile (· != '-')).drop 1).reverse
  let rest := if text.contains '-' then text.drop (basic.length + 1) else text
  if basic.any (128 ≤ ·.toNat) then none
  else do
    let codes ← readAll (rest.length + 1) 128 0 72 (basic.map Char.toNat) rest
    codes.mapM fun n => if h : n.isValidChar then some (Char.ofNatAux n h) else none

end NavPolicy.Domain.Punycode
