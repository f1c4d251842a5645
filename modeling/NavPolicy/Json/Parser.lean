import NavPolicy.Json.Scalar

/-!
# Reading JSON

`Value.ofText` reads a whole text as one document.  Brackets may nest 127 deep.  The
loops over items and members take the reader of one item as an argument, so a reader of
typed records can use them as well.
-/

namespace NavPolicy.Json

namespace Cursor

/-- How many brackets may be open at once. -/
def depthLimit : Nat := 127

/-- Look for the next item of an array: its cursor, or nothing at the closing bracket.
`first` says that no item was read yet. -/
def nextItem? (first : Bool) (cur : Cursor) : Except Error (Bool × Cursor) :=
  let cur := cur.skip
  match cur.peek with
  | none => cur.failAhead .endInArray
  | some ']' => .ok (false, cur)
  | some c =>
    if first then .ok (true, cur)
    else if c = ',' then
      let after := cur.next.skip
      match after.peek with
      | none => after.failAhead .endInValue
      | some ']' => after.failAhead .trailingComma
      | some _ => .ok (true, after)
    else cur.failAhead .expectedCommaInArray

/-- Look for the name of the next member of an object: the cursor at its quotation mark,
or nothing at the closing brace. -/
def nextKey? (first : Bool) (cur : Cursor) : Except Error (Bool × Cursor) :=
  let cur := cur.skip
  match cur.peek with
  | none => cur.failAhead .endInObject
  | some '\x7d' => .ok (false, cur)
  | some c =>
    if first then
      if c = '"' then .ok (true, cur) else cur.failAhead .keyNotString
    else if c = ',' then
      let after := cur.next.skip
      match after.peek with
      | none => after.failAhead .endInValue
      | some '"' => .ok (true, after)
      | some '\x7d' => after.failAhead .trailingComma
      | some _ => after.failAhead .keyNotString
    else cur.failAhead .expectedCommaInObject

def colon (cur : Cursor) : Except Error Cursor :=
  let cur := cur.skip
  match cur.peek with
  | none => cur.failAhead .endInObject
  | some ':' => .ok cur.next
  | some _ => cur.failAhead .expectedColon

def items {α : Type} (item : Cursor → Read α) : Nat → List α → Cursor → Read (List α)
  | 0, _, cur => cur.failAhead .endInArray
  | fuel + 1, found, cur =>
    match nextItem? found.isEmpty cur with
    | .error e => .error e
    | .ok (false, cur) => .ok (found.reverse, cur.next)
    | .ok (true, cur) =>
      match item cur with
      | .error e => .error e
      | .ok (v, cur) => items item fuel (v :: found) cur

def members {α : Type} (strings : Nat) (item : Cursor → Read α) :
    Nat → List (String × α) → Cursor → Read (List (String × α))
  | 0, _, cur => cur.failAhead .endInObject
  | fuel + 1, found, cur =>
    match nextKey? found.isEmpty cur with
    | .error e => .error e
    | .ok (false, cur) => .ok (found.reverse, cur.next)
    | .ok (true, cur) =>
      match string strings cur.next with
      | .error e => .error e
      | .ok (name, cur) =>
        match cur.colon with
        | .error e => .error e
        | .ok cur =>
          match item cur with
          | .error e => .error e
          | .ok (v, cur) => members strings item fuel ((name, v) :: found) cur

def scalar (fuel : Nat) (cur : Cursor) (c : Char) : Read Value :=
  match c with
  | 'n' => (word ['u', 'l', 'l'] cur.next).map fun cur => (.null, cur)
  | 't' => (word ['r', 'u', 'e'] cur.next).map fun cur => (.bool true, cur)
  | 'f' => (word ['a', 'l', 's', 'e'] cur.next).map fun cur => (.bool false, cur)
  | '-' => (number fuel false cur.next).map fun (n, cur) => (.number n, cur)
  | '"' => (string fuel cur.next).map fun (s, cur) => (.string s, cur)
  | _ =>
    if c.isDigit then (number fuel true cur).map fun (n, cur) => (.number n, cur)
    else cur.failAhead .expectedValue

/-- A document in which a number of brackets may be open at once. -/
def value (fuel : Nat) : Nat → Cursor → Read Value
  | depth, cur =>
    let cur := cur.skip
    match cur.peek with
    | none => cur.failAhead .endInValue
    | some '[' =>
      match depth with
      | 0 => cur.failAhead .tooDeep
      | depth + 1 =>
        (items (value fuel depth) fuel [] cur.next).map fun (vs, cur) => (.array vs, cur)
    | some '\x7b' =>
      match depth with
      | 0 => cur.failAhead .tooDeep
      | depth + 1 =>
        (members fuel (value fuel depth) fuel [] cur.next).map fun (ms, cur) =>
          (.object (Ordered.ofList ms), cur)
    | some c => scalar fuel cur c

/-- What a reader gives for a whole text: nothing but blanks may follow. -/
def finish {α : Type} (read : Read α) : Except Error α :=
  match read with
  | .error e => .error e
  | .ok (a, cur) =>
    let cur := cur.skip
    if cur.rest.isEmpty then .ok a else cur.failAhead .trailingCharacters

end Cursor

def Value.ofChars (text : List Char) : Except Error Value :=
  Cursor.finish (Cursor.value (text.length + 1) Cursor.depthLimit (.ofText text))

def Value.ofText (text : String) : Except Error Value :=
  Value.ofChars text.toList

end NavPolicy.Json
