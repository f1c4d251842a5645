import NavPolicy.Json.Cursor

/-!
# Strings and numbers

The readers of the two kinds of scalars.  A string may escape any character; two escapes
in a row stand for a character beyond the basic plane, and a half of such a pair stands
for nothing.  A number keeps as many leading digits as fit 64 bits, and later ones only
count for its size.  Every loop takes a bound on the length of the text.
-/

namespace NavPolicy.Json

open NavPolicy.Decimal NavPolicy.Text

namespace Cursor

/-! ## Strings -/

def fourHex? (a b c d : Char) : Option Nat := do
  let a ← hexDigit? a
  let b ← hexDigit? b
  let c ← hexDigit? c
  let d ← hexDigit? d
  return ((a * 16 + b) * 16 + c) * 16 + d

def byteCount (cs : List Char) : Nat :=
  cs.foldl (fun n c => n + c.utf8Size) 0

/-- The number after `\u`.  Four bytes are read whatever they are. -/
def hexEscape (cur : Cursor) : Read Nat :=
  let wrong : Except Error (Nat × Cursor) :=
    if byteCount (cur.rest.take 4) < 4 then
      .error ⟨Fault.endInString.message, afterBytes cur.line cur.column 4 cur.rest⟩
    else .error ⟨Fault.invalidEscape.message, afterBytes cur.line cur.column 4 cur.rest⟩
  match cur.rest with
  | a :: b :: c :: d :: _ =>
    match fourHex? a b c d with
    | some n => .ok (n, cur.next.next.next.next)
    | none => wrong
  | _ => wrong

/-- Whether a code unit is the first half of a pair. -/
def isLeading (n : Nat) : Bool := 0xD800 ≤ n && n ≤ 0xDBFF

/-- Whether a code unit is the second half of a pair. -/
def isTrailing (n : Nat) : Bool := 0xDC00 ≤ n && n ≤ 0xDFFF

def pairChar (first second : Nat) : Char :=
  Char.ofNat (0x10000 + (first - 0xD800) * 1024 + (second - 0xDC00))

def secondHalf (first : Nat) (cur : Cursor) : Read Char :=
  match cur.rest with
  | [] => cur.fail .endInString
  | '\\' :: [] => cur.next.fail .endInString
  | '\\' :: 'u' :: _ =>
    match cur.next.next.hexEscape with
    | .error e => .error e
    | .ok (second, after) =>
      if isTrailing second then .ok (pairChar first second, after)
      else after.fail .loneSurrogate
  | '\\' :: _ :: _ => cur.next.failAhead .endOfHexEscape
  | _ => cur.failAhead .endOfHexEscape

def unicodeEscape (cur : Cursor) : Read Char :=
  match cur.hexEscape with
  | .error e => .error e
  | .ok (n, after) =>
    if isTrailing n then after.fail .loneSurrogate
    else if isLeading n then secondHalf n after
    else .ok (Char.ofNat n, after)

/-- What a backslash and the character after it stand for, `\u` apart. -/
def simpleEscape? : Char → Option Char
  | '"' => some '"'
  | '\\' => some '\\'
  | '/' => some '/'
  | 'b' => some '\x08'
  | 'f' => some '\x0c'
  | 'n' => some '\n'
  | 'r' => some '\r'
  | 't' => some '\t'
  | _ => none

def escape (cur : Cursor) : Read Char :=
  match cur.peek with
  | none => cur.fail .endInString
  | some 'u' => cur.next.unicodeEscape
  | some c =>
    match simpleEscape? c with
    | some d => .ok (d, cur.next)
    | none => cur.failAhead .invalidEscape

/-- The characters of a string up to its closing quotation mark, added backwards to those
already read. -/
def stringChars : Nat → List Char → Cursor → Read (List Char)
  | 0, _, cur => cur.fail .endInString
  | fuel + 1, found, cur =>
    match cur.peek with
    | none => cur.fail .endInString
    | some '"' => .ok (found.reverse, cur.next)
    | some '\\' =>
      match cur.next.escape with
      | .error e => .error e
      | .ok (c, after) => stringChars fuel (c :: found) after
    | some c =>
      if c.toNat < 32 then cur.next.fail .controlCharacter
      else stringChars fuel (c :: found) cur.next

def string (fuel : Nat) (cur : Cursor) : Read String :=
  match stringChars fuel [] cur with
  | .error e => .error e
  | .ok (cs, after) => .ok (String.ofList cs, after)

/-- Skip a string without looking at what its escapes stand for. -/
def skipString : Nat → Cursor → Except Error Cursor
  | 0, cur => cur.fail .endInString
  | fuel + 1, cur =>
    match cur.peek with
    | none => cur.fail .endInString
    | some '"' => .ok cur.next
    | some '\\' =>
      match cur.next.peek with
      | none => cur.next.fail .endInString
      | some 'u' =>
        match cur.next.next.hexEscape with
        | .error e => .error e
        | .ok (_, after) => skipString fuel after
      | some c =>
        match simpleEscape? c with
        | some _ => skipString fuel cur.next.next
        | none => cur.next.failAhead .invalidEscape
    | some c => if c.toNat < 32 then cur.fail .controlCharacter else skipString fuel cur.next

/-! ## Numbers -/

/-- The first number that does not fit 64 bits. -/
def wordLimit : Nat := Nat.pow 2 64

def largestExponent : Nat := Nat.pow 2 31 - 1

def atDigit (cur : Cursor) : Bool :=
  cur.peek.any Char.isDigit

def atExponent (cur : Cursor) : Bool :=
  cur.peek.any fun c => c == 'e' || c == 'E'

def digitValue (c : Char) : Nat := c.toNat - 48

/-- Add digits to a number while it stays below a limit, and count them. -/
def growDigits (limit : Nat) : Nat → Nat → Nat → Cursor → Nat × Nat × Cursor
  | 0, value, count, cur => (value, count, cur)
  | fuel + 1, value, count, cur =>
    match cur.peek with
    | none => (value, count, cur)
    | some c =>
      let grown := value * 10 + digitValue c
      if c.isDigit && grown < limit then growDigits limit fuel grown (count + 1) cur.next
      else (value, count, cur)

def skipDigits : Nat → Nat → Cursor → Nat × Cursor
  | 0, count, cur => (count, cur)
  | fuel + 1, count, cur =>
    if cur.atDigit then skipDigits fuel (count + 1) cur.next else (count, cur)

def float (positive : Bool) (significand : Nat) (exponent : Int) (cur : Cursor) : Read Number :=
  match Binary64.scale? significand exponent with
  | some units => .ok (.float ⟨!positive, units⟩, cur)
  | none => cur.fail .numberOutOfRange

/-- The sign of an exponent: whether it is positive, and the cursor after it. -/
def exponentSign (cur : Cursor) : Bool × Cursor :=
  match cur.peek with
  | some '+' => (true, cur.next)
  | some '-' => (false, cur.next)
  | _ => (true, cur)

/-- The exponent of a number and the number itself; the cursor is at the letter. -/
def exponent (fuel : Nat) (positive : Bool) (significand : Nat) (start : Int) (cur : Cursor) :
    Read Number :=
  let (up, cur) := exponentSign cur.next
  match cur.peek with
  | none => cur.fail .endInValue
  | some c =>
    if c.isDigit then
      let (n, _, after) := growDigits (largestExponent + 1) fuel (digitValue c) 1 cur.next
      if after.atDigit then
        if significand ≠ 0 && up then after.next.fail .numberOutOfRange
        else .ok (.float ⟨!positive, 0⟩, (skipDigits fuel 0 after).2)
      else float positive significand (if up then start + n else start - n) after
    else cur.failAhead .invalidNumber

/-- The digits after the point and the rest of the number; the cursor is at the point. -/
def fraction (fuel : Nat) (positive : Bool) (significand : Nat) (start : Int) (cur : Cursor) :
    Read Number :=
  let (value, count, after) := growDigits wordLimit fuel significand 0 cur.next
  if after.atDigit then
    let after := (skipDigits fuel 0 after).2
    if after.atExponent then exponent fuel positive value (start - count) after
    else float positive value (start - count) after
  else if count = 0 then
    match after.peek with
    | none => after.failAhead .endInValue
    | some _ => after.failAhead .invalidNumber
  else if after.atExponent then exponent fuel positive value (start - count) after
  else float positive value (start - count) after

/-- An integer that fits a word, with its sign.  The negative of zero and of integers
beyond `2 ^ 63` are not integers. -/
def signed (positive : Bool) (n : Nat) : Number :=
  if positive then .natural n
  else if n = 0 then .float ⟨true, 0⟩
  else if n ≤ Nat.pow 2 63 then .negative (n - 1)
  else .float ⟨true, (Binary64.ofNat? n).getD 0⟩

def afterInteger (fuel : Nat) (positive : Bool) (n : Nat) (cur : Cursor) : Read Number :=
  if cur.peek = some '.' then fraction fuel positive n 0 cur
  else if cur.atExponent then exponent fuel positive n 0 cur
  else .ok (signed positive n, cur)

/-- A number; the cursor is after its sign.  A zero has no digit after it. -/
def number (fuel : Nat) (positive : Bool) (cur : Cursor) : Read Number :=
  match cur.peek with
  | none => cur.fail .endInValue
  | some c =>
    if c = '0' then
      if cur.next.atDigit then cur.next.failAhead .invalidNumber
      else afterInteger fuel positive 0 cur.next
    else if c.isDigit then
      let (value, _, after) := growDigits wordLimit fuel (digitValue c) 1 cur.next
      if after.atDigit then
        let (count, after) := skipDigits fuel 0 after
        if after.peek = some '.' then fraction fuel positive value count after
        else if after.atExponent then exponent fuel positive value count after
        else float positive value count after
      else afterInteger fuel positive value after
    else cur.failAhead .invalidNumber

def skipExponent (fuel : Nat) (cur : Cursor) : Except Error Cursor :=
  let (_, cur) := exponentSign cur.next
  if cur.atDigit then .ok (skipDigits fuel 0 cur).2 else cur.failAhead .invalidNumber

/-- Skip a number whatever its size; the cursor is after its sign. -/
def skipNumber (fuel : Nat) (cur : Cursor) : Except Error Cursor :=
  if cur.atDigit then
    if cur.peek = some '0' && cur.next.atDigit then cur.next.failAhead .invalidNumber
    else
      let after :=
        if cur.peek = some '0' then cur.next else (skipDigits fuel 0 cur).2
      if after.peek = some '.' then
        let (count, after) := skipDigits fuel 0 after.next
        if count = 0 then after.failAhead .invalidNumber
        else if after.atExponent then skipExponent fuel after
        else .ok after
      else if after.atExponent then skipExponent fuel after
      else .ok after
  else cur.failAhead .invalidNumber

end Cursor

end NavPolicy.Json
