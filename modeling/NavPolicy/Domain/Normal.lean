import NavPolicy.Domain.PropertyTables
import NavPolicy.Text.CodeTable

/-!
# Normal form of text

Text in composed normal form writes each letter with its marks as one code point where
there is one, and otherwise puts the marks in the order of their combining classes.
`compose` brings text into that form: it takes every code point apart, sorts the marks,
and puts together again what fits.
-/

namespace NavPolicy.Domain

open NavPolicy.Text

/-- A row that ends at the next separator: the code points in front of it, the separator
and the text after it. -/
def splitRow (separators : List Char) (w : List Char) : List Char × Option Char × List Char :=
  match w.span fun c => !separators.contains c with
  | (front, c :: rest) => (front, some c, rest)
  | (front, []) => (front, none, [])

def propertyRow {α : Type} (entry : Char → List Char → α) (w : List Char) : CodeRow α :=
  let (front, separator, rest) := splitRow [':', '/'] w
  let range := CodeRow.ofRangeWord front
  ⟨range.first, range.last, entry (separator.getD ':') rest⟩

def propertyTable {α : Type} (entry : Char → List Char → α) (text : String) : CodeTable α :=
  { rows := ((words text.toList).map (propertyRow entry)).toArray }

def codeList (cs : List Char) : List Nat :=
  (cs.splitOnP (· == '.')).map hexValue

/-- How a code point is taken apart, and whether its parts are put together again. -/
def decompositionTable : CodeTable (Bool × List Nat) :=
  propertyTable (fun separator rest => (separator == ':', codeList rest)) decompositionText

def combiningTable : CodeTable Nat := propertyTable (fun _ rest => hexValue rest) combiningText

/-- One key for a pair of code points. -/
def pairKey (a b : Nat) : Nat := a * 2097152 + b

/-- What pairs of code points are put together to. -/
def compositionTable : CodeTable Nat :=
  let rows := decompositionTable.rows.toList.filterMap fun row =>
    match row.entry with
    | (true, [a, b]) => some (⟨pairKey a b, pairKey a b, row.first⟩ : CodeRow Nat)
    | _ => none
  { rows := (rows.mergeSort fun p q => p.first ≤ q.first).toArray }

def combiningClass (n : Nat) : Nat := (combiningTable.find? n).getD 0

/-! ## Syllables

The syllables of the Korean script are composed by arithmetic from their three parts. -/

def syllableParts (n : Nat) : List Nat :=
  let i := n - 0xAC00
  let last := i % 28
  [0x1100 + i / 588, 0x1161 + i % 588 / 28] ++ if last = 0 then [] else [0x11A7 + last]

def isSyllable (n : Nat) : Bool := 0xAC00 ≤ n && n ≤ 0xD7A3

def joinSyllable? (a b : Nat) : Option Nat :=
  if 0x1100 ≤ a && a < 0x1113 && 0x1161 ≤ b && b < 0x1176 then
    some (0xAC00 + ((a - 0x1100) * 21 + (b - 0x1161)) * 28)
  else if isSyllable a && (a - 0xAC00) % 28 == 0 && 0x11A7 < b && b < 0x11C3 then
    some (a + (b - 0x11A7))
  else none

/-! ## Taking apart and putting together -/

def takeApart : Nat → Nat → List Nat
  | 0, n => [n]
  | fuel + 1, n =>
    if isSyllable n then syllableParts n
    else
      match decompositionTable.find? n with
      | some (_, parts) => parts.flatMap (takeApart fuel)
      | none => [n]

/-- Put a mark behind the marks before it whose class is not higher; the text is given
backwards. -/
def insertMark (n cls : Nat) : List (Nat × Nat) → List (Nat × Nat)
  | [] => [(n, cls)]
  | m :: rest => if cls < m.2 then m :: insertMark n cls rest else (n, cls) :: m :: rest

/-- The code points with their classes, backwards, each run of marks in order. -/
def sortMarks (codes : List Nat) : List (Nat × Nat) :=
  codes.foldl (fun found n =>
    let cls := combiningClass n
    if cls = 0 then (n, 0) :: found else insertMark n cls found) []

def join? (a b : Nat) : Option Nat :=
  (joinSyllable? a b).orElse fun _ => compositionTable.find? (pairKey a b)

/-- A text that is being composed: what is finished, backwards, the letter that may still
take marks, the marks that it did not take, backwards, and the class of the last one. -/
structure Composing where
  finished : List Nat
  letter : Option Nat
  marks : List Nat
  lastClass : Nat

/-- The text so far, backwards. -/
def Composing.close (s : Composing) : List Nat :=
  s.marks ++ s.letter.toList ++ s.finished

/-- Take the next code point: into the letter if nothing between them blocks it, behind
the letter otherwise, and as the next letter if it is no mark. -/
def Composing.add (s : Composing) (p : Nat × Nat) : Composing :=
  let (n, cls) := p
  let joined :=
    if s.marks.isEmpty || (s.lastClass < cls && s.lastClass != 0) then
      s.letter.bind fun a => join? a n
    else none
  match joined with
  | some c => { s with letter := some c }
  | none =>
    if cls = 0 then ⟨s.close, some n, [], 0⟩
    else { s with marks := n :: s.marks, lastClass := cls }

def composeCodes (codes : List Nat) : List Nat :=
  let sorted := (sortMarks (codes.flatMap (takeApart 8))).reverse
  (sorted.foldl Composing.add ⟨[], none, [], 0⟩).close.reverse

/-- A text in composed normal form.  ASCII text is in that form already. -/
def compose (cs : List Char) : List Char :=
  if cs.all fun c => c.toNat < 128 then cs
  else (composeCodes (cs.map Char.toNat)).map Char.ofNat

end NavPolicy.Domain
