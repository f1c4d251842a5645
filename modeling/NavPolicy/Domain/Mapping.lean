import NavPolicy.Domain.MappingTable
import NavPolicy.Domain.Normal

/-!
# Mapping domain names

Before a domain name is looked at, each of its characters is kept, dropped, replaced or
refused.  Capital letters become small, wide letters become plain, and the full stops of
other scripts become a point.
-/

namespace NavPolicy.Domain

open NavPolicy.Text

/-- What becomes of a code point. -/
inductive Fate where
  | keep
  | drop
  | refuse
  | replace (codes : List Nat)
  deriving DecidableEq, Repr

/-- A row of the mapping: where its run begins and what becomes of the run. -/
def fateRow (w : List Char) : Nat × Fate :=
  match splitRow ['=', '~', '!', ':'] w with
  | (first, some '=', _) => (hexValue first, .keep)
  | (first, some '~', _) => (hexValue first, .drop)
  | (first, some ':', rest) => (hexValue first, .replace (codeList rest))
  | (first, _, _) => (hexValue first, .refuse)

/-- Runs with their ends: each ends where the next begins. -/
def closeRuns : List (Nat × Fate) → List (CodeRow Fate)
  | [] => []
  | [(first, fate)] => [⟨first, 0x10FFFF, fate⟩]
  | (first, fate) :: next :: rest => ⟨first, next.1 - 1, fate⟩ :: closeRuns (next :: rest)

def mappingTable : CodeTable Fate :=
  { rows := (closeRuns ((words mappingText.toList).map fateRow)).toArray }

def fate (n : Nat) : Fate := (mappingTable.find? n).getD .refuse

/-- What becomes of an ASCII character, which needs no table. -/
def mapAscii (c : Char) : Char := c.toLower

def mapChars : List Char → Option (List Char)
  | [] => some []
  | c :: cs =>
    if c.toNat < 128 then (mapChars cs).map (mapAscii c :: ·)
    else
      match fate c.toNat with
      | .keep => (mapChars cs).map (c :: ·)
      | .drop => mapChars cs
      | .refuse => none
      | .replace codes => (mapChars cs).map (codes.map Char.ofNat ++ ·)

def isKept (c : Char) : Bool :=
  if c.toNat < 128 then mapAscii c == c else fate c.toNat == .keep

end NavPolicy.Domain
