/-!
# Tables over code points

Unicode properties are long sorted lists of code point ranges.  They are kept as
hexadecimal text and read once into a `CodeTable`, where a binary search finds the
row of a code point.
-/

namespace NavPolicy.Text

/-- One range of code points, both ends included, with what the property says of it. -/
structure CodeRow (α : Type) where
  first : Nat
  last : Nat
  entry : α

/-- Rows in ascending order, no two of them overlapping. -/
structure CodeTable (α : Type) where
  rows : Array (CodeRow α)

namespace CodeTable

variable {α : Type}

/-- Halve the window `[low, high)` until it is one row wide or the row is found. -/
def search (rows : Array (CodeRow α)) (n : Nat) : Nat → Nat → Nat → Option α
  | 0, _, _ => none
  | steps + 1, low, high =>
    if low < high then
      let middle := (low + high) / 2
      match rows[middle]? with
      | none => none
      | some row =>
        if n < row.first then search rows n steps low middle
        else if row.last < n then search rows n steps (middle + 1) high
        else some row.entry
    else none

/-- What the table says of a code point, if a row covers it. -/
def find? (t : CodeTable α) (n : Nat) : Option α :=
  search t.rows n (t.rows.size + 1) 0 t.rows.size

def contains (t : CodeTable α) (n : Nat) : Bool :=
  (t.find? n).isSome

end CodeTable

def hexDigit? (c : Char) : Option Nat :=
  if '0' ≤ c && c ≤ '9' then some (c.toNat - 48)
  else if 'a' ≤ c && c ≤ 'f' then some (c.toNat - 87)
  else if 'A' ≤ c && c ≤ 'F' then some (c.toNat - 55)
  else none

/-- The value of a run of hexadecimal digits; other characters count for nothing. -/
def hexValue (cs : List Char) : Nat :=
  cs.foldl (fun n c => match hexDigit? c with
    | some d => 16 * n + d
    | none => n) 0

/-- The words of a text that are separated by spaces or line ends, in order. -/
def words (cs : List Char) : List (List Char) :=
  (cs.splitBy fun a b => (a == ' ' || a == '\n') == (b == ' ' || b == '\n')).filter
    fun w => !(w.all fun c => c == ' ' || c == '\n')

/-- One word of a range table: `41` for a single code point, `41-5A` for a range. -/
def CodeRow.ofRangeWord (w : List Char) : CodeRow Unit :=
  let first := w.takeWhile (· != '-')
  let last := (w.dropWhile (· != '-')).drop 1
  { first := hexValue first
    last := if last.isEmpty then hexValue first else hexValue last
    entry := () }

def CodeTable.ofRanges (text : String) : CodeTable Unit :=
  { rows := ((words text.toList).map CodeRow.ofRangeWord).toArray }

end NavPolicy.Text
