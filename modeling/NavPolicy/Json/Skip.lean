import NavPolicy.Json.Parser

/-!
# Skipping a value

The members that a record does not know are passed over.  Their text must be JSON, but
it may nest to any depth, its numbers may be of any size, and its strings may hold halves
of pairs.
-/

namespace NavPolicy.Json.Cursor

/-- An open bracket of a skipped value. -/
inductive Bracket where
  | array
  | object
  deriving DecidableEq

/-- What to look for next: a value, or the end of an open bracket. -/
inductive Pending where
  /-- A value comes next. -/
  | value
  /-- The innermost bracket was just opened. -/
  | opened
  /-- A value in the innermost bracket was just passed. -/
  | passed

/-- The name of a skipped member with its colon; the cursor is in front of the name. -/
def skipKey (fuel : Nat) (cur : Cursor) : Except Error Cursor :=
  let cur := cur.skip
  match cur.peek with
  | none => cur.failAhead .endInObject
  | some '"' =>
    match skipString fuel cur.next with
    | .error e => .error e
    | .ok cur => cur.colon
  | some _ => cur.failAhead .keyNotString

/-- A skipped value where no bracket opens. -/
def skipScalar (fuel : Nat) (cur : Cursor) (c : Char) : Except Error Cursor :=
  match c with
  | 'n' => word ['u', 'l', 'l'] cur.next
  | 't' => word ['r', 'u', 'e'] cur.next
  | 'f' => word ['a', 'l', 's', 'e'] cur.next
  | '-' => skipNumber fuel cur.next
  | '"' => skipString fuel cur.next
  | _ => if c.isDigit then skipNumber fuel cur else cur.failAhead .expectedValue

def closes : Bracket → Char → Bool
  | .array, c => c == ']'
  | .object, c => c == '\x7d'

/-- Go into the innermost bracket for its next value. -/
def enter (fuel : Nat) (bracket : Bracket) (cur : Cursor) : Except Error Cursor :=
  match bracket with
  | .array => .ok cur
  | .object => skipKey fuel cur

/-- Pass over values until no bracket is open. -/
def skipValues (strings : Nat) : Nat → Pending → List Bracket → Cursor → Except Error Cursor
  | 0, _, _, cur => cur.failAhead .endInValue
  | fuel + 1, .value, openBrackets, cur =>
    let cur := cur.skip
    match cur.peek with
    | none => cur.failAhead .endInValue
    | some '[' => skipValues strings fuel .opened (.array :: openBrackets) cur.next
    | some '\x7b' => skipValues strings fuel .opened (.object :: openBrackets) cur.next
    | some c =>
      match skipScalar strings cur c with
      | .error e => .error e
      | .ok cur => skipValues strings fuel .passed openBrackets cur
  | _ + 1, _, [], cur => .ok cur
  | fuel + 1, pending, bracket :: outer, cur =>
    let cur := cur.skip
    match cur.peek, pending with
    | none, _ =>
      cur.failAhead (match bracket with | .array => .endInArray | .object => .endInObject)
    | some c, .passed =>
      if c = ',' then
        match enter strings bracket cur.next with
        | .error e => .error e
        | .ok cur => skipValues strings fuel .value (bracket :: outer) cur
      else if closes bracket c then skipValues strings fuel .passed outer cur.next
      else
        cur.failAhead
          (match bracket with | .array => .expectedCommaInArray | .object => .expectedCommaInObject)
    | some c, _ =>
      if closes bracket c then skipValues strings fuel .passed outer cur.next
      else
        match enter strings bracket cur with
        | .error e => .error e
        | .ok cur => skipValues strings fuel .value (bracket :: outer) cur

def skipValue (fuel : Nat) (cur : Cursor) : Except Error Cursor :=
  skipValues fuel (2 * fuel + 2) .value [] cur

end NavPolicy.Json.Cursor
