/-!
# Wildcards

The request filters of the desktop browser name addresses by wildcards: `?` stands for one
character and `*` for any run of them, and the whole address must match.  A wildcard is matched
as a glob for files, and such globs know more signs.  Two stars in a row must fill a whole
component of the path, and then stand for any number of components; three are refused.
Brackets hold a class, of which one character is read; so that brackets stand for themselves,
each bracket of a wildcard is put into a class of its own.
-/

namespace NavPolicy

namespace Wildcard

/-! ## Brackets -/

def escapeChar (c : Char) : List Char :=
  if c = '[' ∨ c = ']' then ['[', c, ']'] else [c]

def escape (wildcard : List Char) : List Char :=
  wildcard.flatMap escapeChar

@[simp]
theorem escape_nil : escape [] = [] := rfl

@[simp]
theorem escape_cons (c : Char) (cs : List Char) :
    escape (c :: cs) = escapeChar c ++ escape cs := rfl

/-! ## Reading -/

inductive ClassItem where
  | char (c : Char)
  /-- The characters from one to another, both included. -/
  | range (first last : Char)
  deriving DecidableEq, Repr

/-- What one character is compared with. -/
inductive Sign where
  /-- The character itself. -/
  | char (c : Char)
  /-- Any character. -/
  | any
  /-- A character that a class lists. -/
  | listed (items : List ClassItem)
  /-- A character that a class does not list. -/
  | unlisted (items : List ClassItem)
  deriving DecidableEq, Repr

inductive Token where
  /-- One character. -/
  | one (sign : Sign)
  /-- Any run of characters. -/
  | run
  /-- Any number of components, each with the slash behind it. -/
  | components
  deriving DecidableEq, Repr

/-- The items of a class; a dash between two characters makes them a range. -/
def classItems : List Char → List ClassItem
  | first :: '-' :: last :: rest => .range first last :: classItems rest
  | c :: rest => .char c :: classItems rest
  | [] => []

def classSign (negated : Bool) (held : List Char) : Sign :=
  if negated then .unlisted (classItems held) else .listed (classItems held)

/-- Where the reader of a glob is. -/
inductive Place where
  /-- Outside of classes; whether a component begins here. -/
  | outside (begins : Bool)
  /-- In a class, with the characters it holds so far, last first.  The first of them may be
  a closing bracket. -/
  | inside (negated : Bool) (held : List Char)
  deriving DecidableEq, Repr

/-- The tokens of a glob, unless it is refused. -/
def tokens? : Place → List Char → Option (List Token)
  | .outside _, [] => some []
  | .outside begins, ['*', '*'] => if begins then some [.components] else none
  | .outside begins, '*' :: '*' :: '/' :: rest =>
    if begins then (tokens? (.outside true) rest).map (.components :: ·) else none
  | .outside _, '*' :: '*' :: _ => none
  | .outside _, '*' :: rest => (tokens? (.outside false) rest).map (.run :: ·)
  | .outside _, '?' :: rest => (tokens? (.outside false) rest).map (.one .any :: ·)
  | .outside _, '[' :: '!' :: first :: rest => tokens? (.inside true [first]) rest
  | .outside _, ['[', '!'] => none
  | .outside _, '[' :: first :: rest => tokens? (.inside false [first]) rest
  | .outside _, ['['] => none
  | .outside _, c :: rest => (tokens? (.outside (c == '/')) rest).map (.one (.char c) :: ·)
  | .inside _ _, [] => none
  | .inside negated held, c :: rest =>
    if c = ']' then
      (tokens? (.outside false) rest).map (.one (classSign negated held.reverse) :: ·)
    else tokens? (.inside negated (c :: held)) rest

def ofText? (text : String) : Option (List Token) :=
  tokens? (.outside true) (escape text.toList)

/-! ## Matching

Tokens are tried from left to right.  A token that may take more or less text takes as little
as it can, and more when what follows differs.  When the text ends too early for what follows,
taking more will not help. -/

def ClassItem.lists (c : Char) : ClassItem → Bool
  | char d => c == d
  | range first last => first ≤ c && c ≤ last

def Sign.reads (c : Char) : Sign → Bool
  | char d => c == d
  | any => true
  | listed items => items.any (ClassItem.lists c)
  | unlisted items => !items.any (ClassItem.lists c)

/-- What came of an attempt to match the whole of a text. -/
inductive Outcome where
  | matched
  /-- The text differs; a later part of it may match. -/
  | differs
  /-- The text ends too early. -/
  | ends
  deriving DecidableEq, Repr

/-- The outcome for no tokens. -/
def atEnd (text : List Char) : Outcome :=
  if text.isEmpty then .matched else .differs

/-- Try what follows a token behind each character where the token may stop, in turn, and at
the end of the text, as long as the text differs. -/
def tryBehind (stops : Char → Bool) (next : List Char → Outcome) : List Char → Outcome
  | [] => next []
  | c :: rest =>
    if stops c then
      match next rest with
      | .differs => tryBehind stops next rest
      | outcome => outcome
    else tryBehind stops next rest

/-- Try what follows a token here, and then further on. -/
def tryFrom (stops : Char → Bool) (next : List Char → Outcome) (text : List Char) : Outcome :=
  match next text with
  | .differs => tryBehind stops next text
  | outcome => outcome

/-- A run may stop behind any character. -/
def anywhere : Char → Bool := fun _ => true

/-- Components stop behind a slash. -/
def atSlash : Char → Bool := (· == '/')

def Token.attempt (next : List Char → Outcome) : Token → List Char → Outcome
  | one _, [] => .ends
  | one sign, c :: rest => if sign.reads c then next rest else .differs
  | run, text => tryFrom anywhere next text
  | components, text => tryFrom atSlash next text

def outcome (ts : List Token) : List Char → Outcome :=
  ts.foldr (fun t next => t.attempt next) atEnd

def isMatch (ts : List Token) (text : List Char) : Bool :=
  outcome ts text == .matched

end Wildcard

end NavPolicy
