import NavPolicy.Regex.Escape
import NavPolicy.Regex.Piece
import NavPolicy.Text.Letters

/-!
# Reading expressions

The reader walks the text once and keeps the groups that are still open in a list, so
neither a long text nor a deep one needs deep recursion.  `parse` gives the expression
of a text, or `none` where the text is not in the syntax, nests too deeply or asks for
too large a program.  There are no look-around groups and no back references.
-/

namespace NavPolicy.Regex

open NavPolicy.Text

/-- The pieces of one level: the branch being read and the finished branches, both with
the last one first. -/
structure Level where
  items : List Piece := []
  finished : List Piece := []

namespace Level

def push (l : Level) (p : Piece) : Level :=
  { l with items := p :: l.items }

def nextBranch (l : Level) : Level :=
  { items := [], finished := Piece.concat l.items.reverse :: l.finished }

def close (l : Level) : Piece :=
  Piece.choice l.nextBranch.finished.reverse

end Level

/-- A group that is still open: the level around it, the mode to go back to, and whether
the group is numbered. -/
structure OpenGroup where
  level : Level
  mode : Mode
  captures : Bool

structure State where
  mode : Mode := {}
  level : Level := {}
  outer : List OpenGroup := []
  names : List (List Char) := []
  rest : List Char

/-- The largest bound of a counted repetition. -/
def largestBound : Nat := Nat.pow 2 32 - 1

/-- Decimal digits, with how many there were, up to the first other character. -/
def decimalDigits (mode : Mode) : Nat → Nat → Nat → List Char → Nat × Nat × List Char
  | 0, count, value, cs => (count, value, cs)
  | _ + 1, count, value, [] => (count, value, [])
  | fuel + 1, count, value, c :: cs =>
    if c.isDigit then
      decimalDigits mode fuel (count + 1) (10 * value + (c.toNat - 48)) (mode.skip cs)
    else (count, value, c :: cs)

/-- A bound of a counted repetition, which blanks may surround. -/
def bound (mode : Mode) (cs : List Char) : Option (Nat × List Char) :=
  let cs := cs.dropWhile isBlank
  let (count, value, rest) := decimalDigits mode cs.length 0 0 cs
  if count = 0 ∨ largestBound < value then none
  else some (value, mode.skip (rest.dropWhile isBlank))

/-- The bounds of a counted repetition; the text begins after the opening brace. -/
def bounds (mode : Mode) (cs : List Char) : Option ((Nat × Option Nat) × List Char) := do
  let (least, rest) ← bound mode (mode.skip cs)
  let (most, rest) ←
    match rest with
    | ',' :: rest =>
      match mode.skip rest with
      | '\x7d' :: rest => some (none, '\x7d' :: rest)
      | rest => (bound mode rest).map fun (most, rest) => (some most, rest)
    | rest => some (some least, rest)
  match rest with
  | '\x7d' :: rest => if most.any (· < least) then none else some ((least, most), rest)
  | _ => none

/-- Drop the sign that makes a repetition prefer fewer rounds, which changes no match. -/
def dropLazySign : List Char → List Char
  | '?' :: rest => rest
  | rest => rest

/-- The flags of a group such as `(?i-s:`, up to the colon or the closing parenthesis,
which is left unread.  No flag comes twice, and at most one dash, which a flag follows. -/
def flags : List Char → List Char → Bool → Bool → Mode → Option (Mode × List Char)
  | [], _, _, _, _ => none
  | c :: cs, seen, negated, dangling, mode =>
    if c = ':' ∨ c = ')' then
      if dangling then none else some (mode, c :: cs)
    else if c = '-' then
      if negated then none else flags cs seen true true mode
    else if seen.contains c then none
    else
      match c with
      | 'i' => flags cs (c :: seen) negated false { mode with ignoreCase := !negated }
      | 'm' => flags cs (c :: seen) negated false { mode with multiLine := !negated }
      | 's' => flags cs (c :: seen) negated false { mode with dotAll := !negated }
      | 'R' => flags cs (c :: seen) negated false { mode with crlf := !negated }
      | 'x' => flags cs (c :: seen) negated false { mode with verbose := !negated }
      | 'U' => flags cs (c :: seen) negated false mode
      | 'u' => flags cs (c :: seen) negated false mode
      | _ => none

def isNameChar (first : Bool) (c : Char) : Bool :=
  if first then c == '_' || isLetter c
  else c == '_' || c == '.' || c == '[' || c == ']' || isLetterOrNumeral c

/-- The name of a group and the text after its closing angle bracket. -/
def groupName (cs : List Char) : Option (List Char × List Char) :=
  match cs.takeWhile (· != '>'), cs.dropWhile (· != '>') with
  | first :: more, '>' :: rest =>
    if isNameChar true first && more.all (isNameChar false) then some (first :: more, rest)
    else none
  | _, _ => none

namespace State

def push (st : State) (p : Piece) (rest : List Char) : State :=
  { st with level := st.level.push p, rest := rest }

def pushAtom (st : State) (a : Atom) (rest : List Char) : State :=
  match a with
  | .char c => st.push (.literal c) rest
  | .set s => st.push (.ofSet s) rest
  | .look l => st.push (.ofLook l) rest

def openGroup (st : State) (captures : Bool) (mode : Mode) (rest : List Char) : Option State :=
  if st.outer.length < Piece.heightLimit then
    some { st with
      mode := mode
      level := {}
      outer := ⟨st.level, st.mode, captures⟩ :: st.outer
      rest := rest }
  else none

def openNamed (st : State) (cs : List Char) : Option State := do
  let (name, rest) ← groupName cs
  if st.names.contains name then none
  else ({ st with names := name :: st.names }).openGroup true st.mode rest

def group (st : State) (cs : List Char) : Option State :=
  match st.mode.skip cs with
  | '?' :: '=' :: _ => none
  | '?' :: '!' :: _ => none
  | '?' :: '<' :: '=' :: _ => none
  | '?' :: '<' :: '!' :: _ => none
  | '?' :: 'P' :: '<' :: rest => st.openNamed rest
  | '?' :: '<' :: rest => st.openNamed rest
  | '?' :: ')' :: _ => none
  | '?' :: rest =>
    match flags rest [] false false st.mode with
    | some (mode, ':' :: rest) => st.openGroup false mode rest
    | some (mode, _ :: rest) => some { st with mode := mode, rest := rest }
    | _ => none
  | rest => st.openGroup true st.mode rest

def closeGroup (st : State) (rest : List Char) : Option State :=
  match st.outer with
  | [] => none
  | g :: outer =>
    let piece := st.level.close
    some { st with
      mode := g.mode
      level := g.level.push (if g.captures then piece.captured else piece)
      outer := outer
      rest := rest }

def amend (st : State) (f : Piece → Piece) (rest : List Char) : Option State :=
  match st.level.items with
  | [] => none
  | p :: items => some { st with level := { st.level with items := f p :: items }, rest := rest }

def dot (mode : Mode) : CharSet :=
  if mode.dotAll then .full else if mode.crlf then .notLineEnd else .notLineFeed

def startAnchor (mode : Mode) : Look :=
  if mode.multiLine then (if mode.crlf then .lineStartCRLF else .lineStart) else .textStart

def endAnchor (mode : Mode) : Look :=
  if mode.multiLine then (if mode.crlf then .lineEndCRLF else .lineEnd) else .textEnd

/-- Read the construct that a character opens. -/
def step (st : State) (c : Char) (cs : List Char) : Option State :=
  match c with
  | '(' => st.group cs
  | ')' => st.closeGroup cs
  | '|' => some { st with level := st.level.nextBranch, rest := cs }
  | '[' => (bracketed st.mode cs).map fun (s, rest) => st.push (.ofSet s) rest
  | '?' => st.amend (·.repeated '?') (dropLazySign cs)
  | '*' => st.amend (·.repeated '*') (dropLazySign cs)
  | '+' => st.amend (·.repeated '+') (dropLazySign cs)
  | '\x7b' =>
    match bounds st.mode cs with
    | some ((least, most), rest) =>
      st.amend (·.counted least most) (dropLazySign (st.mode.skip rest))
    | none => none
  | '\\' => (escape st.mode cs).map fun (a, rest) => st.pushAtom a rest
  | '.' => some (st.push (.ofSet (dot st.mode)) cs)
  | '^' => some (st.push (.ofLook (startAnchor st.mode)) cs)
  | '$' => some (st.push (.ofLook (endAnchor st.mode)) cs)
  | _ => some (st.pushAtom (st.mode.literal c) cs)

/-- Read to the end of the text, where no group may be open. -/
def run : Nat → State → Option Piece
  | fuel, st =>
    match st.mode.skip st.rest with
    | [] => if st.outer.isEmpty then some st.level.close else none
    | c :: cs =>
      match fuel with
      | 0 => none
      | fuel + 1 =>
        match st.step c cs with
        | none => none
        | some st => run fuel st

end State

/-- The measured expression of a text, before the limits are looked at. -/
def parsePiece (text : List Char) : Option Piece :=
  State.run text.length { rest := text }

/-- The expression of a text, if it is in the syntax and within the limits. -/
def parse (text : List Char) : Option Expr :=
  (parsePiece text).bind fun p => if p.withinLimits then some p.expr else none

end NavPolicy.Regex
