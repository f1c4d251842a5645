import NavPolicy.Json.Value

/-!
# Places in a document

A pointer names a place in a document by the keys that lead to it, each behind a slash; a
slash in a key is written `~1` and a tilde `~0`.  `position` turns the keys into the
places they have in their objects and arrays, so that places can be compared in the order
of the document.
-/

namespace NavPolicy.Json

namespace Pointer

def escapeKey (key : List Char) : List Char :=
  key.flatMap fun c => if c = '~' then ['~', '0'] else if c = '/' then ['~', '1'] else [c]

/-- Replace each tilde that a digit follows, with the digit, by a character. -/
def replaceMark (digit : Char) (sign : Char) : List Char → List Char
  | [] => []
  | [c] => [c]
  | c :: d :: rest =>
    if c = '~' ∧ d = digit then sign :: replaceMark digit sign rest
    else c :: replaceMark digit sign (d :: rest)

def unescapeKey (part : List Char) : List Char :=
  replaceMark '0' '~' (replaceMark '1' '/' part)

/-- The pointer that names a place. -/
def ofKeys (keys : List String) : String :=
  String.ofList (keys.flatMap fun key => '/' :: escapeKey key.toList)

/-- The keys of a pointer. -/
def keys (pointer : String) : List String :=
  ((pointer.toList.splitOnP (· == '/')).drop 1).map fun part =>
    String.ofList (unescapeKey part)

end Pointer

def indexOfKey? (key : String) : Option Nat :=
  let digits := if key.startsWith "+" then (key.drop 1).toString else key
  if digits.isEmpty || !(digits.toList.all Char.isDigit) then none
  else
    let n := digits.toList.foldl (fun n c => 10 * n + (c.toNat - 48)) 0
    if n < Nat.pow 2 64 then some n else none

/-- Where a key stands in a document, behind all that is there if it is not, and what
stands there. -/
def step (node : Option Value) (key : String) : Nat × Option Value :=
  match node with
  | some (.object members) =>
    ((Ordered.names members).findIdx (· == key), Ordered.get? members key)
  | some (.array items) =>
    let index := (indexOfKey? key).getD items.length
    (index, items[index]?)
  | _ => (0, none)

/-- The places that the keys of a path have in the documents along it. -/
def positionFrom (node : Option Value) : List String → List Nat
  | [] => []
  | key :: rest =>
    let (index, child) := step node key
    index :: positionFrom child rest

def position (doc : Value) (keys : List String) : List Nat :=
  positionFrom (some doc) keys

def positionLe : List Nat → List Nat → Bool
  | [], _ => true
  | _ :: _, [] => false
  | a :: as, b :: bs => a < b || (a == b && positionLe as bs)

end NavPolicy.Json
