import NavPolicy.Domain.Label

/-!
# Domain names in ASCII

`toAscii?` brings a domain name into the form in which it is looked up: in small letters,
with every label that holds other characters coded in ASCII.  A name of plain ASCII labels
needs no table.
-/

namespace NavPolicy.Domain

/-- The ASCII characters that no domain name of an address may hold. -/
def isForbidden (c : Char) : Bool :=
  c.toNat ≤ 32 || c.toNat == 127 ||
    ['%', '#', '/', ':', '<', '>', '?', '@', '[', '\\', ']', '^', '|'].contains c

def labels (name : List Char) : List (List Char) :=
  name.splitOnP (· == '.')

def joinLabels : List (List Char) → List Char
  | [] => []
  | [label] => label
  | label :: rest => label ++ '.' :: joinLabels rest

/-- A name whose labels are all plain ASCII: each letter in lower case. -/
def plainAscii? (name : List Char) : Option (List Char) :=
  let small := name.map mapAscii
  if isAscii name && (labels small).all fun l => !codedMark.isPrefixOf l then some small
  else none

def codedAscii? (name : List Char) : Option (List Char) := do
  let mapped ← mapChars name
  let found ← (labels (compose mapped)).mapM Label.ofMapped?
  if (found.any fun l => isRightToLeft l.plain) && !(found.all fun l => keepsDirection l.plain)
  then none
  else return joinLabels (found.map Label.ascii)

/-- A domain name in ASCII, unless a character, a label or a direction is not allowed. -/
def toAscii? (name : List Char) : Option (List Char) := do
  let ascii ← (plainAscii? name).orElse fun _ => codedAscii? name
  if ascii.any isForbidden then none else return ascii

end NavPolicy.Domain
