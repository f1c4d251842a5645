import NavPolicy.Json.Skip

/-!
# Reading records from a text

A record whose fields all have defaults is read straight from a text, so that an error
names the place where it was found.  Such a record may be an object, in which no field
comes twice and members with other names are skipped, or an array of its fields in order.
-/

namespace NavPolicy.Json

structure TextField (R : Type) where
  name : String
  /-- Read the field's value into the record. -/
  read : Cursor → R → Read R

namespace Cursor

/-- A value of another type than the one expected.  Words, numbers and strings are read
before they are refused, brackets are not. -/
def refuse {α : Type} (fuel : Nat) (expected : String) (cur : Cursor) : Except Error α :=
  match cur.peek with
  | some '[' => cur.mismatch (.wrongType .array expected)
  | some '\x7b' => cur.mismatch (.wrongType .object expected)
  | some c =>
    match scalar fuel cur c with
    | .error e => .error e
    | .ok (v, after) => after.mismatch (.wrongType (.ofValue v) expected)
  | none => cur.failAhead .endInValue

def stringValue (fuel : Nat) (cur : Cursor) : Read String :=
  let cur := cur.skip
  if cur.peek = some '"' then string fuel cur.next else refuse fuel "a string" cur

/-- An integer from zero up that fits 64 bits. -/
def wordValue (fuel : Nat) (cur : Cursor) : Read Nat :=
  let cur := cur.skip
  let read :=
    if cur.peek = some '-' then number fuel false cur.next
    else if cur.atDigit then number fuel true cur
    else refuse fuel "u64" cur
  match read with
  | .error e => .error e
  | .ok (.natural n, after) => .ok (n, after)
  | .ok (.negative n, after) =>
    after.mismatch (.wrongValue (.ofNumber (.negative n)) "u64")
  | .ok (.float x, after) => after.mismatch (.wrongType (.ofNumber (.float x)) "u64")

/-- Something that may be `null`. -/
def optionValue {α : Type} (some? : Cursor → Read α) (cur : Cursor) : Read (Option α) :=
  let cur := cur.skip
  if cur.peek = some 'n' then
    (word ['u', 'l', 'l'] cur.next).map fun cur => (none, cur)
  else (some? cur).map fun (a, cur) => (some a, cur)

/-- A name that stands for one of several choices; the cursor is in front of it. -/
def choiceName {α : Type} (fuel : Nat) (choices : List (String × α)) (cur : Cursor) : Read α :=
  let cur := cur.skip
  if cur.peek = some '"' then
    match string fuel cur.next with
    | .error e => .error e
    | .ok (name, after) =>
      match choices.find? fun c => c.1 == name with
      | some c => .ok (c.2, after)
      | none => after.mismatch (.unknownVariant name (choices.map Prod.fst))
  else refuse fuel "variant identifier" cur

/-- One of several names, alone or as the only member of an object, with `null` as its
value. -/
def choiceValue {α : Type} (fuel : Nat) (choices : List (String × α)) (cur : Cursor) :
    Read α :=
  let cur := cur.skip
  match cur.peek with
  | none => cur.failAhead .endInValue
  | some '"' => choiceName fuel choices cur
  | some '\x7b' =>
    match choiceName fuel choices cur.next with
    | .error e => .error e
    | .ok (a, cur) =>
      match cur.colon with
      | .error e => .error e
      | .ok cur =>
        let cur := cur.skip
        let unit : Except Error Cursor :=
          if cur.peek = some 'n' then word ['u', 'l', 'l'] cur.next
          else refuse fuel "unit" cur
        match unit with
        | .error e => .error e
        | .ok cur =>
          let cur := cur.skip
          match cur.peek with
          | none => cur.fail .endInObject
          | some '\x7d' => .ok (a, cur.next)
          | some _ => cur.fail .expectedValue
  | some _ => cur.failAhead .expectedValue

/-- The cursor where a mismatch inside an object is reported: after its closing brace, if
that comes next. -/
def afterObject (cur : Cursor) : Cursor :=
  let cur := cur.skip
  if cur.peek = some '\x7d' then cur.next else cur

def closeArray (cur : Cursor) : Except Error Cursor :=
  let cur := cur.skip
  match cur.peek with
  | none => cur.failAhead .endInArray
  | some ']' => .ok cur.next
  | some ',' =>
    let after := cur.next.skip
    if after.peek = some ']' then after.failAhead .trailingComma
    else after.failAhead .trailingCharacters
  | some _ => cur.failAhead .trailingCharacters

variable {R : Type}

/-- The fields of a record from the members of an object; `seen` are the names that
were read. -/
def recordMembers (strings : Nat) (fields : List (TextField R)) :
    Nat → Bool → List String → R → Cursor → Read R
  | 0, _, _, _, cur => cur.failAhead .endInObject
  | fuel + 1, first, seen, r, cur =>
    match nextKey? first cur with
    | .error e => .error e
    | .ok (false, cur) => .ok (r, cur.next)
    | .ok (true, cur) =>
      match string strings cur.next with
      | .error e => .error e
      | .ok (name, cur) =>
        match fields.find? fun f => f.name == name with
        | none =>
          match cur.colon with
          | .error e => .error e
          | .ok cur =>
            match skipValue strings cur with
            | .error e => .error e
            | .ok cur => recordMembers strings fields fuel false seen r cur
        | some f =>
          if seen.contains name then
            cur.afterObject.mismatch (.duplicateField name)
          else
            match cur.colon with
            | .error e => .error e
            | .ok cur =>
              match f.read cur r with
              | .error e => .error e
              | .ok (r, cur) => recordMembers strings fields fuel false (name :: seen) r cur

def recordItems : Bool → List (TextField R) → R → Cursor → Read R
  | _, [], r, cur => .ok (r, cur)
  | first, f :: fields, r, cur =>
    match nextItem? first cur with
    | .error e => .error e
    | .ok (false, cur) => .ok (r, cur)
    | .ok (true, cur) =>
      match f.read cur r with
      | .error e => .error e
      | .ok (r, cur) => recordItems false fields r cur

/-- A record: `blank` with the fields that the text gives. -/
def record (fuel : Nat) (name : String) (fields : List (TextField R)) (blank : R)
    (cur : Cursor) : Read R :=
  let cur := cur.skip
  match cur.peek with
  | none => cur.failAhead .endInValue
  | some '\x7b' => recordMembers fuel fields fuel true [] blank cur.next
  | some '[' =>
    match recordItems true fields blank cur.next with
    | .error e => .error e
    | .ok (r, cur) => (closeArray cur).map fun cur => (r, cur)
  | some _ => refuse fuel s!"struct {name}" cur

end Cursor

end NavPolicy.Json
