import NavPolicy.Json.Value
import NavPolicy.Text.CodeTable

/-!
# Writing JSON

`Value.compact` writes a document without blanks, and `Value.pretty` writes one member or
item on a line, indented by two spaces a level.  In a string only the quotation mark, the
backslash and the control characters are escaped, so no written string holds a line end.
-/

namespace NavPolicy.Json

def hexDigit (n : Nat) : Char :=
  if n < 10 then Char.ofNat (48 + n) else Char.ofNat (87 + n)

def escapeChar (c : Char) : List Char :=
  match c with
  | '"' => ['\\', '"']
  | '\\' => ['\\', '\\']
  | '\x08' => ['\\', 'b']
  | '\t' => ['\\', 't']
  | '\n' => ['\\', 'n']
  | '\x0c' => ['\\', 'f']
  | '\r' => ['\\', 'r']
  | c =>
    if c.toNat < 32 then ['\\', 'u', '0', '0', hexDigit (c.toNat / 16), hexDigit (c.toNat % 16)]
    else [c]

def quote (s : List Char) : List Char :=
  '"' :: (s.flatMap escapeChar ++ ['"'])

def quoted (s : String) : String :=
  String.ofList (quote s.toList)

def separate (separator : List Char) : List (List Char) → List Char
  | [] => []
  | [part] => part
  | part :: parts => part ++ (parts.flatMap fun p => separator ++ p)

namespace Value

mutual

def compactText : Value → List Char
  | null => ['n', 'u', 'l', 'l']
  | bool true => ['t', 'r', 'u', 'e']
  | bool false => ['f', 'a', 'l', 's', 'e']
  | number n => n.text.toList
  | string s => quote s.toList
  | array items => '[' :: (separate [','] (compactItems items) ++ [']'])
  | object members => '\x7b' :: (separate [','] (compactMembers members) ++ ['\x7d'])

def compactItems : List Value → List (List Char)
  | [] => []
  | v :: rest => compactText v :: compactItems rest

def compactMembers : List (String × Value) → List (List Char)
  | [] => []
  | (name, v) :: rest => (quote name.toList ++ ':' :: compactText v) :: compactMembers rest

end

/-- A line end and the indentation of a level. -/
def newLine (level : Nat) : List Char :=
  '\n' :: List.replicate (2 * level) ' '

/-- A bracketed list with one part on a line, or just the brackets where it is empty. -/
def block (level : Nat) (first last : Char) : List (List Char) → List Char
  | [] => [first, last]
  | parts =>
    first :: (newLine (level + 1) ++ separate (',' :: newLine (level + 1)) parts ++
      newLine level ++ [last])

mutual

def prettyText (level : Nat) : Value → List Char
  | null => ['n', 'u', 'l', 'l']
  | bool true => ['t', 'r', 'u', 'e']
  | bool false => ['f', 'a', 'l', 's', 'e']
  | number n => n.text.toList
  | string s => quote s.toList
  | array items => block level '[' ']' (prettyItems (level + 1) items)
  | object members => block level '\x7b' '\x7d' (prettyMembers (level + 1) members)

def prettyItems (level : Nat) : List Value → List (List Char)
  | [] => []
  | v :: rest => prettyText level v :: prettyItems level rest

def prettyMembers (level : Nat) : List (String × Value) → List (List Char)
  | [] => []
  | (name, v) :: rest =>
    (quote name.toList ++ ':' :: ' ' :: prettyText level v) :: prettyMembers level rest

end

def compact (v : Value) : String := String.ofList v.compactText

def pretty (v : Value) : String := String.ofList (v.prettyText 0)

end Value

end NavPolicy.Json
