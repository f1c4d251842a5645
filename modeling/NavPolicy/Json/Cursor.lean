import NavPolicy.Json.Error

/-!
# Reading a text

A `Cursor` is the unread rest of a text with the position of its first character.  A
reader takes a cursor and gives a value with the cursor after it, or an error that names
the place where it became clear that the text is wrong: the cursor itself, or the end of
the byte in front of it.
-/

namespace NavPolicy.Json

/-- The unread part of a text and where it begins. -/
structure Cursor where
  line : Nat := 1
  column : Nat := 0
  rest : List Char

/-- What a reader gives: a value with the cursor after it, or an error. -/
abbrev Read (α : Type) := Except Error (α × Cursor)

namespace Cursor

def ofText (text : List Char) : Cursor := { rest := text }

def next (cur : Cursor) : Cursor :=
  match cur.rest with
  | [] => cur
  | '\n' :: rest => { line := cur.line + 1, column := 0, rest := rest }
  | c :: rest => { cur with column := cur.column + c.utf8Size, rest := rest }

def here (cur : Cursor) : Position := ⟨cur.line, cur.column⟩

/-- The position after a number of bytes, or at the end of the text if it is shorter. -/
def afterBytes : Nat → Nat → Nat → List Char → Position
  | line, column, _, [] => ⟨line, column⟩
  | line, column, 0, _ :: _ => ⟨line, column⟩
  | line, column, n + 1, c :: rest =>
    if c = '\n' then afterBytes (line + 1) 0 n rest
    else if c.utf8Size ≤ n + 1 then
      afterBytes line (column + c.utf8Size) (n + 1 - c.utf8Size) rest
    else ⟨line, column + (n + 1)⟩

def ahead (cur : Cursor) : Position := afterBytes cur.line cur.column 1 cur.rest

def fail {α : Type} (cur : Cursor) (f : Fault) : Except Error α := .error ⟨f.message, cur.here⟩

def failAhead {α : Type} (cur : Cursor) (f : Fault) : Except Error α :=
  .error ⟨f.message, cur.ahead⟩

def mismatch {α : Type} (cur : Cursor) (m : Mismatch) : Except Error α :=
  .error ⟨m.message, cur.here⟩

/-- Whether a character may stand between the parts of a document. -/
def isSpace (c : Char) : Bool :=
  c == ' ' || c == '\n' || c == '\t' || c == '\r'

def skipFrom : Nat → Nat → List Char → Cursor
  | line, column, [] => ⟨line, column, []⟩
  | line, column, c :: rest =>
    if c = '\n' then skipFrom (line + 1) 0 rest
    else if isSpace c then skipFrom line (column + 1) rest
    else ⟨line, column, c :: rest⟩

def skip (cur : Cursor) : Cursor := skipFrom cur.line cur.column cur.rest

def peek (cur : Cursor) : Option Char := cur.rest.head?

/-- Read the rest of a word whose first character was read. -/
def word : List Char → Cursor → Except Error Cursor
  | [], cur => .ok cur
  | w :: ws, cur =>
    match cur.peek with
    | none => cur.fail .endInValue
    | some c => if c = w then word ws cur.next else cur.failAhead .expectedWord

@[simp]
theorem here_mk (line column : Nat) (rest : List Char) :
    (Cursor.mk line column rest).here = ⟨line, column⟩ := rfl

end Cursor

end NavPolicy.Json
