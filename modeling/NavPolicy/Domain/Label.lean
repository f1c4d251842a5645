import NavPolicy.Domain.Mapping
import NavPolicy.Domain.Punycode

/-!
# Labels of domain names

A label with other than ASCII characters must be in normal form, must not begin with a
mark, may hold a joiner only where it shapes the letters around it, and, where some label
of the name is written from right to left, must not mix directions.
-/

namespace NavPolicy.Domain

open NavPolicy.Text

/-! ## Joiners -/

/-- How a letter joins its neighbours. -/
def joiningTable : CodeTable Char := propertyTable (fun _ rest => rest.headD 'U') joiningText

/-- The joining type of a character; `U` joins nothing. -/
def joining (c : Char) : Char := (joiningTable.find? c.toNat).getD 'U'

/-- The class of the marks that silence a letter's vowel. -/
def silencerClass : Nat := 9

/-- Whether the text in front, given backwards, ends in a mark that silences a vowel. -/
def endsSilent : List Char → Bool
  | [] => false
  | c :: _ => combiningClass c.toNat == silencerClass

/-- Whether the next letter, transparent ones passed over, joins in one of the ways. -/
def joinsNext (ways : List Char) (cs : List Char) : Bool :=
  match cs.dropWhile fun c => joining c == 'T' with
  | [] => false
  | c :: _ => ways.contains (joining c)

/-- Whether every joiner of a label may stand where it stands; `before` is the text in
front, backwards. -/
def joinersFit (before : List Char) : List Char → Bool
  | [] => true
  | c :: rest =>
    (if c.toNat = 0x200C then
      endsSilent before || (joinsNext ['L', 'D'] before && joinsNext ['R', 'D'] rest)
    else if c.toNat = 0x200D then endsSilent before
    else true) && joinersFit (c :: before) rest

/-! ## Directions -/

def directionTable : CodeTable Char := propertyTable (fun _ rest => rest.headD 'L') directionText

def direction (c : Char) : Char :=
  if c.toNat < 128 && c.isAlpha then 'L' else (directionTable.find? c.toNat).getD 'L'

/-- Whether a label holds a character that is written from right to left. -/
def isRightToLeft (label : List Char) : Bool :=
  label.any fun c => ['R', 'A', 'N'].contains (direction c)

/-- Whether a label of a name with some right-to-left label keeps to one direction: which
directions it may hold and end with follows from its first character. -/
def keepsDirection (label : List Char) : Bool :=
  let directions := label.map direction
  let last := (directions.reverse.dropWhile (· == 'M')).head?
  match directions with
  | [] => true
  | first :: _ =>
    if first == 'R' || first == 'A' then
      directions.all (['R', 'A', 'N', 'E', 'S', 'C', 'T', 'O', 'B', 'M'].contains ·) &&
        last.any (['R', 'A', 'E', 'N'].contains ·) &&
        !(directions.contains 'E' && directions.contains 'N')
    else if first == 'L' then
      directions.all (['L', 'E', 'S', 'C', 'T', 'O', 'B', 'M'].contains ·) &&
        last.any (['L', 'E'].contains ·)
    else false

/-! ## Labels -/

def markTable : CodeTable Unit := .ofRanges markText

def isMark (c : Char) : Bool := markTable.contains c.toNat

/-- Whether a mapped label may stand in a name, directions aside. -/
def isValidLabel (label : List Char) : Bool :=
  label.all isKept && compose label == label && !label.head?.any isMark &&
    joinersFit [] label

def isAscii (label : List Char) : Bool :=
  label.all fun c => c.toNat < 128

/-- The mark of a label that stands for another one. -/
def codedMark : List Char := ['x', 'n', '-', '-']

/-- The longest label that is coded. -/
def longestPlain : Nat := 1000

/-- The longest code that is read. -/
def longestCoded : Nat := 2000

/-- A label of a mapped name, in ASCII and as the text that it stands for. -/
structure Label where
  ascii : List Char
  plain : List Char

def Label.ofMapped? (label : List Char) : Option Label :=
  if codedMark.isPrefixOf label then
    let code := label.drop codedMark.length
    if isAscii code && code.length ≤ longestCoded then
      match Punycode.decode code with
      | none => none
      | some plain => if !isAscii plain && isValidLabel plain then some ⟨label, plain⟩ else none
    else none
  else if isAscii label then some ⟨label, label⟩
  else if isValidLabel label && label.length ≤ longestPlain then
    some ⟨codedMark ++ Punycode.encode label, label⟩
  else none

end NavPolicy.Domain
