import NavPolicy.Text.CodeTable

/-!
# Addresses of machines

A host may be a number of 32 bits, written in up to four parts, or eight numbers of 16
bits with colons between them, where one run of zeros may be left out.
-/

namespace NavPolicy.Url

open NavPolicy.Text

/-! ## Four parts -/

/-- The value of digits in a base, if there are digits and all of them belong to it. -/
def numberIn? (base : Nat) (digits : List Char) : Option Nat :=
  digits.foldlM (fun n c => do
    let d ← hexDigit? c
    if d < base then return n * base + d else none) 0

/-- The value of a part: decimal, hexadecimal after `0x`, or octal after `0`. -/
def ipv4Part? (part : List Char) : Option Nat :=
  match part with
  | [] => none
  | '0' :: 'x' :: digits => numberIn? 16 digits
  | '0' :: 'X' :: digits => numberIn? 16 digits
  | '0' :: d :: digits => numberIn? 8 (d :: digits)
  | digits => numberIn? 10 digits

/-- Whether a name must be read as a number: its last part, a final point aside, is
one or looks like one. -/
def endsInNumber (name : List Char) : Bool :=
  match (name.splitOnP (· == '.')).reverse with
  | [] :: last :: _ => isNumber last
  | [] :: [] => false
  | last :: _ => isNumber last
  | [] => false
where
  /-- Whether a part is a number or made of digits. -/
  isNumber (part : List Char) : Bool :=
    (!part.isEmpty && part.all Char.isDigit) || (ipv4Part? part).isSome

/-- The parts before the last, each a byte. -/
def leadingBytes : Nat → List Nat → Option Nat
  | value, [] => some value
  | value, n :: rest => if n ≤ 255 then leadingBytes (value * 256 + n) rest else none

/-- The number that a name with up to four parts stands for.  The last part fills the
bytes that the others leave. -/
def ipv4? (name : List Char) : Option Nat := do
  let parts := name.splitOnP (· == '.')
  let parts := if parts.getLast? == some [] then parts.dropLast else parts
  if parts.isEmpty || 4 < parts.length then none
  else
    let numbers ← parts.mapM ipv4Part?
    let last ← numbers.getLast?
    let rest := 5 - numbers.length
    let front ← leadingBytes 0 numbers.dropLast
    if last < Nat.pow 256 rest then return front * Nat.pow 256 rest + last else none

/-- The text of a number of 32 bits: its bytes with points between them. -/
def ipv4Text (n : Nat) : String :=
  s!"{n / 16777216}.{n / 65536 % 256}.{n / 256 % 256}.{n % 256}"

/-! ## Eight groups -/

def decimalByte? (part : List Char) : Option Nat :=
  if part.isEmpty || !part.all Char.isDigit || (part.head? == some '0' && part.length != 1) then
    none
  else (numberIn? 10 part).bind fun n => if n ≤ 255 then some n else none

def hexGroup? (part : List Char) : Option Nat :=
  if part.isEmpty || 4 < part.length then none else numberIn? 16 part

/-- The groups between colons; where allowed, the last two may be four bytes. -/
def groups? (dotted : Bool) : List (List Char) → Option (List Nat)
  | [] => some []
  | [last] =>
    if dotted && last.contains '.' then
      match (last.splitOnP (· == '.')).mapM decimalByte? with
      | some [a, b, c, d] => some [a * 256 + b, c * 256 + d]
      | _ => none
    else (hexGroup? last).map fun n => [n]
  | part :: rest => do
    let n ← hexGroup? part
    let ns ← groups? dotted rest
    return n :: ns

/-- The groups of a text with colons between them; the empty text has none. -/
def groupsOf? (dotted : Bool) (text : List Char) : Option (List Nat) :=
  if text.isEmpty then some [] else groups? dotted (text.splitOnP (· == ':'))

/-- A text cut at the first two colons in a row, the part in front given backwards. -/
def cutAtGap (front : List Char) : List Char → Option (List Char × List Char)
  | ':' :: ':' :: rest => some (front, rest)
  | c :: rest => cutAtGap (c :: front) rest
  | [] => none

def ipv6? (text : List Char) : Option (List Nat) :=
  match cutAtGap [] text with
  | none => (groupsOf? true text).bind fun ns => if ns.length = 8 then some ns else none
  | some (front, rest) => do
    let before ← groupsOf? false front.reverse
    let after ← groupsOf? true rest
    let count := before.length + after.length
    if 7 < count then none
    else return before ++ List.replicate (8 - count) 0 ++ after

/-- The longest run of zeros with at least two of them, the first of equals: where it
begins and how long it is. -/
def longestZeros (groups : List Nat) : Nat × Nat :=
  (List.range groups.length).foldl (fun best start =>
    let size := ((groups.drop start).takeWhile (· == 0)).length
    if best.2 < size && 1 < size then (start, size) else best) (0, 0)

def groupsText (groups : List Nat) : String :=
  ":".intercalate (groups.map fun n => String.ofList (Nat.toDigits 16 n))

def ipv6Text (groups : List Nat) : String :=
  let (start, size) := longestZeros groups
  if size = 0 then groupsText groups
  else groupsText (groups.take start) ++ "::" ++ groupsText (groups.drop (start + size))

end NavPolicy.Url
