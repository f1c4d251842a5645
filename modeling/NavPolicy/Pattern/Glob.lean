/-!
# Globs

A glob is a pattern in which `*` stands for any run of characters and every other
character stands for itself.  `Glob.expression` writes a glob as a regular expression
whose anchors depend on what the glob looks like: a path, a whole address, or a part of
one.
-/

namespace NavPolicy.Pattern.Glob

/-- The characters that must be escaped to stand for themselves in an expression. -/
def isMeta (c : Char) : Bool :=
  ['-', '/', '\\', '^', '$', '+', '?', '.', '(', ')', '|', '[', ']', '\x7b', '\x7d'].contains c

def escapeChar (c : Char) : List Char :=
  if c = '*' then ['.', '*'] else if isMeta c then ['\\', c] else [c]

def escape (glob : List Char) : List Char :=
  glob.flatMap escapeChar

def containsText (part : List Char) : List Char → Bool
  | [] => part.isEmpty
  | c :: cs => part.isPrefixOf (c :: cs) || containsText part cs

/-- What a glob looks like, which decides how it is anchored. -/
inductive Shape where
  /-- A path that ends in `*`: the path and all below it. -/
  | openPath
  /-- Any other path: that path alone, with or without a slash at its end. -/
  | path
  /-- Any other glob that ends in `*`: the whole candidate. -/
  | whole
  /-- An address with a scheme that does not end in `*`. -/
  | address
  /-- Anything else: some part of the candidate. -/
  | part
  deriving DecidableEq, Repr

def shape (glob : List Char) : Shape :=
  let openEnd := glob.getLast? == some '*'
  if glob.head? == some '/' then (if openEnd then .openPath else .path)
  else if openEnd then .whole
  else if containsText [':', '/', '/'] glob then .address
  else .part

/-- A path without the slash at its end; the root path is kept. -/
def stem (glob : List Char) : List Char :=
  if glob.getLast? == some '/' && glob.length != 1 then glob.dropLast else glob

/-- The end of an expression that lets a query or a fragment follow. -/
def suffix : List Char :=
  ['(', '?', ':', '[', '?', '#', ']', '.', '*', ')', '?', '$']

def expression (glob : List Char) : List Char :=
  match shape glob with
  | .openPath => '^' :: (escape glob ++ suffix)
  | .path => '^' :: (escape (stem glob) ++ ['(', '?', ':', '\\', '/', ')', '?'] ++ suffix)
  | .whole => '^' :: (escape glob ++ ['$'])
  | .address => '^' :: (escape glob ++ suffix)
  | .part => escape glob

@[simp]
theorem escape_nil : escape [] = [] := rfl

@[simp]
theorem escape_cons (c : Char) (cs : List Char) :
    escape (c :: cs) = escapeChar c ++ escape cs := rfl

@[simp]
theorem escape_append (a b : List Char) : escape (a ++ b) = escape a ++ escape b := by
  simp [escape]

end NavPolicy.Pattern.Glob
