import NavPolicy.Json.Data
import NavPolicy.Text.Blank

/-!
# Links that lead nowhere

An entry of the list of disabled links names a prefix of their addresses.  The root and
the empty fragment would be prefixes of everything, so they name exactly themselves.
-/

namespace NavPolicy.Script

open NavPolicy.Text NavPolicy.Json

/-- An entry, read. -/
structure AnchorRule where
  /-- The entry as it was written. -/
  entry : String
  /-- What the address of a link begins with. -/
  stem : String
  /-- Whether it must be the whole address. -/
  exact : Bool
  deriving DecidableEq, Repr

/-- Whether a prefix would cover every link. -/
def coversAll (text : List Char) : Bool := text == ['/'] || text == ['#']

/-- Read an entry.  Blanks around it do not count, and neither does a star at its end.  An
entry with nothing left names no links. -/
def AnchorRule.ofEntry? (entry : String) : Option AnchorRule :=
  let text := trimBlanks entry.toList
  let stem := if text.getLast? == some '*' then trimBlanks text.dropLast else text
  if stem.isEmpty then none else some ⟨entry, String.ofList stem, coversAll text⟩

def AnchorRule.toDocument (r : AnchorRule) : Value :=
  .object [("entry", .string r.entry), ("prefix", .string r.stem), ("exact", .bool r.exact)]

def AnchorRule.toData (r : AnchorRule) : Data :=
  .record [("entry", .string r.entry), ("prefix", .string r.stem), ("exact", .bool r.exact)]

/-- A rule for links can always be written. -/
theorem AnchorRule.encode_toData (r : AnchorRule) : r.toData.encode = .ok r.toDocument := by
  simp [toData, toDocument, Data.encode, Data.encodeFields, Except.map]

end NavPolicy.Script
