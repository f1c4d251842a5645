import NavPolicy.Regex.CharSet
import NavPolicy.Regex.Expr
import NavPolicy.Text.Blank
import NavPolicy.Text.CodeTable

/-!
# Escapes and classes

The parts of the syntax that stand for one character, one set or one assertion: a
backslash with what follows it, and a bracketed class.  Every reader takes the text
after the sign that opens the construct and gives the value with the unread rest, or
`none` where the text is not in the syntax.
-/

namespace NavPolicy.Regex

open NavPolicy.Text

/-- How expressions are read; a group such as `(?i)` changes it. -/
structure Mode where
  /-- Letters stand for both of their cases. -/
  ignoreCase : Bool := false
  /-- The anchors also hold at the ends of lines. -/
  multiLine : Bool := false
  /-- The dot also stands for line ends. -/
  dotAll : Bool := false
  /-- A carriage return ends lines as well. -/
  crlf : Bool := false
  /-- Blanks and comments between items are skipped. -/
  verbose : Bool := false
  deriving DecidableEq, Repr

/-- What an escape stands for. -/
inductive Atom where
  | char (c : Char)
  | set (s : CharSet)
  | look (l : Look)

/-- Skip blanks and comments, which run from `#` to the end of the line; the flag says
that a comment is being skipped. -/
def skipComments : Bool → List Char → List Char
  | _, [] => []
  | true, c :: cs => skipComments (c != '\n') cs
  | false, c :: cs =>
    if isBlank c then skipComments false cs
    else if c = '#' then skipComments true cs
    else c :: cs

/-- Skip what the mode allows between items. -/
def Mode.skip (mode : Mode) (cs : List Char) : List Char :=
  if mode.verbose then skipComments false cs else cs

/-- The next character as a test for `-` in a class sees it: past blanks and one `#`. -/
def Mode.peek (mode : Mode) (cs : List Char) : Option Char :=
  if mode.verbose then
    match cs.dropWhile isBlank with
    | '#' :: rest => (rest.dropWhile isBlank).head?
    | rest => rest.head?
  else cs.head?

def otherCase? (c : Char) : Option Char :=
  if 'a' ≤ c && c ≤ 'z' then some (Char.ofNat (c.toNat - 32))
  else if 'A' ≤ c && c ≤ 'Z' then some (Char.ofNat (c.toNat + 32))
  else none

/-- A literal character, which stands for both cases of a letter where case is ignored. -/
def Mode.literal (mode : Mode) (c : Char) : Atom :=
  if mode.ignoreCase then
    match otherCase? c with
    | some d => .set ((CharSet.single c).union (.single d))
    | none => .char c
  else .char c

/-- The scalar value with the given code point. -/
def scalar? (n : Nat) : Option Char :=
  if h : n.isValidChar then some (Char.ofNatAux n h) else none

/-- Exactly `count` more hexadecimal digits, the first of them at the head of the text. -/
def fixedHex (mode : Mode) : Nat → Nat → List Char → Option (Nat × List Char)
  | 0, value, cs => some (value, cs)
  | _ + 1, _, [] => none
  | count + 1, value, c :: cs =>
    match hexDigit? c with
    | none => none
    | some d => fixedHex mode count (16 * value + d) (mode.skip cs)

/-- Hexadecimal digits up to the closing brace, with how many there were. -/
def bracedHex (mode : Mode) : Nat → Nat → Nat → List Char → Option (Nat × Nat × List Char)
  | 0, _, _, _ => none
  | _ + 1, _, _, [] => none
  | fuel + 1, count, value, c :: cs =>
    if c = '\x7d' then some (count, value, mode.skip cs)
    else
      match hexDigit? c with
      | none => none
      | some d => bracedHex mode fuel (count + 1) (16 * value + d) (mode.skip cs)

/-- A code point in hexadecimal: `width` digits, or any number of them in braces. -/
def hexEscape (mode : Mode) (width : Nat) (cs : List Char) : Option (Char × List Char) :=
  match mode.skip cs with
  | '\x7b' :: rest => do
    let (count, value, rest) ← bracedHex mode (rest.length + 1) 0 0 (mode.skip rest)
    if count = 0 then none else (scalar? value).map (·, rest)
  | rest => do
    let (value, rest) ← fixedHex mode width 0 rest
    (scalar? value).map (·, rest)

/-- The characters that may stand in the name of a word edge. -/
def isEdgeNameChar (c : Char) : Bool :=
  c.isAlpha || c == '-'

def edgeName (mode : Mode) : Nat → List Char → List Char × List Char
  | 0, cs => ([], cs)
  | _ + 1, [] => ([], [])
  | fuel + 1, c :: cs =>
    if isEdgeNameChar c then
      let (name, rest) := edgeName mode fuel (mode.skip cs)
      (c :: name, rest)
    else ([], c :: cs)

/-- What follows `\b`.  A brace that a name follows restricts the word edge to one side;
any other brace is left for a repetition. -/
def wordEdgeEscape (mode : Mode) : List Char → Option (Atom × List Char)
  | '\x7b' :: rest =>
    match mode.skip rest with
    | [] => none
    | c :: more =>
      if isEdgeNameChar c then
        match edgeName mode (more.length + 1) (c :: more) with
        | (name, '\x7d' :: rest) =>
          match String.ofList name with
          | "start" => some (.look .wordStart, rest)
          | "end" => some (.look .wordEnd, rest)
          | "start-half" => some (.look .wordStartHalf, rest)
          | "end-half" => some (.look .wordEndHalf, rest)
          | _ => none
        | _ => none
      else some (.look .wordEdge, '\x7b' :: rest)
  | cs => some (.look .wordEdge, cs)

/-- What a backslash and the text after it stand for.  Any ASCII character other than a
letter, a digit or an angle bracket may be escaped and then stands for itself. -/
def escape (mode : Mode) : List Char → Option (Atom × List Char)
  | [] => none
  | c :: cs =>
    match c with
    | 'x' => (hexEscape mode 2 cs).map fun (d, rest) => (mode.literal d, rest)
    | 'u' => (hexEscape mode 4 cs).map fun (d, rest) => (mode.literal d, rest)
    | 'U' => (hexEscape mode 8 cs).map fun (d, rest) => (mode.literal d, rest)
    | 'd' => some (.set .digits, cs)
    | 's' => some (.set .spaces, cs)
    | 'w' => some (.set .wordChars, cs)
    | 'D' => some (.set (.complement .digits), cs)
    | 'S' => some (.set (.complement .spaces), cs)
    | 'W' => some (.set (.complement .wordChars), cs)
    | 'a' => some (mode.literal '\x07', cs)
    | 'f' => some (mode.literal '\x0c', cs)
    | 't' => some (mode.literal '\t', cs)
    | 'n' => some (mode.literal '\n', cs)
    | 'r' => some (mode.literal '\r', cs)
    | 'v' => some (mode.literal '\x0b', cs)
    | 'A' => some (.look .textStart, cs)
    | 'z' => some (.look .textEnd, cs)
    | 'B' => some (.look .notWordEdge, cs)
    | '<' => some (.look .wordStart, cs)
    | '>' => some (.look .wordEnd, cs)
    | 'b' => wordEdgeEscape mode cs
    | _ => if c.toNat < 128 && !c.isAlphanum then some (mode.literal c, cs) else none

/-- A named class such as `[:alpha:]` or `[:^alpha:]`; the text begins after its first
bracket. -/
def namedClass? : List Char → Option (CharSet × List Char)
  | ':' :: rest =>
    let negated := rest.head? == some '^'
    let body := if negated then rest.drop 1 else rest
    match body.dropWhile (· != ':') with
    | ':' :: ']' :: rest =>
      (CharSet.named? (String.ofList (body.takeWhile (· != ':')))).map fun s =>
        (if negated then s.complement else s, rest)
    | _ => none
  | _ => none

def classItem (mode : Mode) : List Char → Option (Atom × List Char)
  | [] => none
  | '\\' :: cs => escape mode cs
  | c :: cs => some (.char c, cs)

/-- An item of a class with what follows it: a range if a dash and another item follow,
unless the dash is the last character of the class or another dash follows it. -/
def classRange (mode : Mode) (cs : List Char) : Option (CharSet × List Char) := do
  let (item, rest) ← classItem mode cs
  match mode.skip rest with
  | [] => none
  | '-' :: more =>
    if mode.peek more = some ']' ∨ mode.peek more = some '-' then itemSet item ('-' :: more)
    else
      let (last, rest) ← classItem mode (mode.skip more)
      match item, last with
      | .char a, .char b => if a ≤ b then some (.between a b, rest) else none
      | _, _ => none
  | rest => itemSet item rest
where
  /-- An item that stands alone; an assertion cannot. -/
  itemSet : Atom → List Char → Option (CharSet × List Char)
    | .char c, rest => some (.single c, rest)
    | .set s, rest => some (s, rest)
    | .look _, _ => none

/-- The items of a class up to its closing bracket, added to those read so far. -/
def classItems (mode : Mode) : Nat → CharSet → List Char → Option (CharSet × List Char)
  | 0, _, _ => none
  | fuel + 1, found, cs =>
    match mode.skip cs with
    | [] => none
    | ']' :: rest => some (found, rest)
    | '[' :: rest =>
      match namedClass? rest with
      | some (s, rest) => classItems mode fuel (found.union s) rest
      | none => none
    | '&' :: '&' :: _ => none
    | '-' :: '-' :: _ => none
    | '~' :: '~' :: _ => none
    | rest =>
      match classRange mode rest with
      | some (s, rest) => classItems mode fuel (found.union s) rest
      | none => none

/-- The dashes at the head of a class, which stand for themselves. -/
def leadingDashes (mode : Mode) : Nat → Bool → List Char → Bool × List Char
  | 0, found, cs => (found, cs)
  | fuel + 1, _, '-' :: cs => leadingDashes mode fuel true (mode.skip cs)
  | _ + 1, found, cs => (found, cs)

/-- A bracketed class; the text begins after its opening bracket.  A closing bracket at
the head stands for itself.  Case is folded before a negated class is complemented. -/
def bracketed (mode : Mode) (cs : List Char) : Option (CharSet × List Char) := do
  let cs := mode.skip cs
  let negated := cs.head? == some '^'
  let cs := if negated then mode.skip (cs.drop 1) else cs
  let (dashes, cs) := leadingDashes mode cs.length false cs
  let (found, cs) :=
    match dashes, cs with
    | true, cs => (CharSet.single '-', cs)
    | false, ']' :: rest => (CharSet.single ']', mode.skip rest)
    | false, cs => (⟨[]⟩, cs)
  let (found, rest) ← classItems mode (cs.length + 1) found cs
  let folded := if mode.ignoreCase then found.foldCase else found
  return (if negated then folded.complement else folded, rest)

end NavPolicy.Regex
