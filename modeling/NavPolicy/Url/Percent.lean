import NavPolicy.Text.CodeTable

/-!
# Percent encoding

A character that may not stand in a part of an address is written as the bytes of its
UTF-8 form, each as a percent sign and two capital hexadecimal digits.
-/

namespace NavPolicy.Url

open NavPolicy.Text

def upperHex (n : Nat) : Char :=
  if n < 10 then Char.ofNat (48 + n) else Char.ofNat (55 + n)

def percentByte (n : Nat) : List Char :=
  ['%', upperHex (n / 16), upperHex (n % 16)]

def utf8Bytes (c : Char) : List Nat :=
  let n := c.toNat
  if n < 0x80 then [n]
  else if n < 0x800 then [0xC0 + n / 64, 0x80 + n % 64]
  else if n < 0x10000 then [0xE0 + n / 4096, 0x80 + n / 64 % 64, 0x80 + n % 64]
  else [0xF0 + n / 262144, 0x80 + n / 4096 % 64, 0x80 + n / 64 % 64, 0x80 + n % 64]

/-- Whether a character is a control or lies beyond ASCII. -/
def isControl (c : Char) : Bool := c.toNat < 32 || 127 ≤ c.toNat

def percentChar (named : List Char) (c : Char) : List Char :=
  if isControl c || named.contains c then (utf8Bytes c).flatMap percentByte else [c]

/-- A text with the controls and the characters named encoded. -/
def percentEncode (named : List Char) (cs : List Char) : List Char :=
  cs.flatMap (percentChar named)

def fragmentSet : List Char := [' ', '"', '<', '>', '\x60']

def pathSet : List Char := fragmentSet ++ ['#', '?', '\x7b', '\x7d']

def userSet : List Char := pathSet ++ ['/', ':', ';', '=', '@', '[', '\\', ']', '^', '|']

def querySet : List Char := [' ', '"', '#', '<', '>']

/-- What is encoded in a query of a scheme with rules of its own. -/
def specialQuerySet : List Char := '\x27' :: querySet

/-- The bytes of a text with its encoded bytes decoded; a percent sign that encodes
nothing stands for itself. -/
def percentDecode : List Char → List Nat
  | [] => []
  | '%' :: a :: b :: rest =>
    match hexDigit? a, hexDigit? b with
    | some x, some y => (16 * x + y) :: percentDecode rest
    | _, _ => '%'.toNat :: percentDecode (a :: b :: rest)
  | c :: rest => utf8Bytes c ++ percentDecode rest

/-- Whether a byte continues a character. -/
def isContinuation (n : Nat) : Bool := 0x80 ≤ n && n < 0xC0

/-- A code point as a character, if it takes no fewer bytes than it was written with. -/
def scalarFrom? (least n : Nat) : Option Char :=
  if h : n.isValidChar then if least ≤ n then some (Char.ofNatAux n h) else none else none

def utf8Decode? : List Nat → Option (List Char)
  | [] => some []
  | a :: rest =>
    if a < 0x80 then (utf8Decode? rest).map (Char.ofNat a :: ·)
    else if 0xC0 ≤ a && a < 0xE0 then
      match rest with
      | b :: rest =>
        if isContinuation b then do
          let c ← scalarFrom? 0x80 ((a - 0xC0) * 64 + (b - 0x80))
          (utf8Decode? rest).map (c :: ·)
        else none
      | _ => none
    else if 0xE0 ≤ a && a < 0xF0 then
      match rest with
      | b :: c :: rest =>
        if isContinuation b && isContinuation c then do
          let c ← scalarFrom? 0x800 (((a - 0xE0) * 64 + (b - 0x80)) * 64 + (c - 0x80))
          (utf8Decode? rest).map (c :: ·)
        else none
      | _ => none
    else if 0xF0 ≤ a && a < 0xF8 then
      match rest with
      | b :: c :: d :: rest =>
        if isContinuation b && isContinuation c && isContinuation d then do
          let c ← scalarFrom? 0x10000
            ((((a - 0xF0) * 64 + (b - 0x80)) * 64 + (c - 0x80)) * 64 + (d - 0x80))
          (utf8Decode? rest).map (c :: ·)
        else none
      | _ => none
    else none

end NavPolicy.Url
