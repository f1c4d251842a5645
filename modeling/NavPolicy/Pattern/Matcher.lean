import NavPolicy.Pattern.Glob
import NavPolicy.Regex.Parser
import NavPolicy.Regex.Search
import NavPolicy.Text.Blank

/-!
# Matchers

A pattern is written in one of two notations.  One that looks like a regular expression
is read as one; all others, and those that are not expressions after all, are globs.
Compiling a pattern never fails: a pattern that is blank, or too large in both readings,
matches nothing.
-/

namespace NavPolicy.Pattern

open NavPolicy.Text

/-- The notation in which a pattern was read. -/
inductive Notation where
  | regex
  | glob
  deriving DecidableEq, Repr

/-- A pattern that was read: its notation, and its expression as text and as a tree. -/
structure Compiled where
  written : Notation
  text : String
  expr : Regex.Expr

/-- A pattern as it was written, with what it was compiled to unless it matches nothing. -/
structure Matcher where
  pattern : String
  compiled : Option Compiled

/-- What became of a pattern. -/
inductive Kind where
  | regex
  | glob
  | never
  deriving DecidableEq, Repr

def Kind.name : Kind → String
  | regex => "regex"
  | glob => "glob"
  | never => "never"

/-- The characters that mark a pattern as an expression wherever they stand. -/
def isRegexSign (c : Char) : Bool :=
  ['\\', '(', ')', '[', ']', '\x7b', '\x7d', '|'].contains c

/-- Whether a text without blanks around it looks like an expression: it is anchored, or
it holds a sign that globs have no use for. -/
def hasRegexLook (text : List Char) : Bool :=
  text.head? == some '^' || text.getLast? == some '$' || text.any isRegexSign ||
    Glob.containsText ['.', '*'] text

/-- Whether a pattern, the blanks around it left aside, looks like an expression. -/
def looksLikeRegex (pattern : String) : Bool :=
  let text := trimBlanks pattern.toList
  !text.isEmpty && hasRegexLook text

namespace Matcher

/-- A text read as an expression, where it looks like one and is one. -/
def ofRegex? (text : List Char) : Option Compiled :=
  if hasRegexLook text then
    (Regex.parse text).map fun e => ⟨.regex, String.ofList text, e⟩
  else none

/-- A text read as a glob. -/
def ofGlob? (text : List Char) : Option Compiled :=
  let expression := Glob.expression text
  (Regex.parse expression).map fun e => ⟨.glob, String.ofList expression, e⟩

def compile (pattern : String) : Matcher :=
  let text := trimBlanks pattern.toList
  { pattern := pattern
    compiled := if text.isEmpty then none else (ofRegex? text).orElse fun _ => ofGlob? text }

/-- Whether the matcher matches a candidate, somewhere in it unless it is anchored. -/
def isMatch (m : Matcher) (candidate : String) : Bool :=
  m.compiled.any fun c => c.expr.isFoundIn candidate.toList

def kind (m : Matcher) : Kind :=
  match m.compiled with
  | none => .never
  | some c =>
    match c.written with
    | .regex => .regex
    | .glob => .glob

def expression? (m : Matcher) : Option String :=
  m.compiled.map Compiled.text

@[simp]
theorem pattern_compile (pattern : String) : (compile pattern).pattern = pattern := rfl

end Matcher

end NavPolicy.Pattern
