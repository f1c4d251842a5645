import NavPolicy.Json.Pointer
import NavPolicy.Json.Printer
import NavPolicy.Uri

/-!
# Schemas

A schema says which documents have a form: of which types they are, which values they may
take, and what their members and items look like.  `Schema.violations` lists every place
where a document departs from it, and says nothing about what is below such a place.
-/

namespace NavPolicy.Json

/-- The types of documents, in the order in which messages list them. -/
inductive TypeName where
  | array
  | null
  | object
  | string
  deriving DecidableEq, Repr

def TypeName.text : TypeName → String
  | array => "array"
  | null => "null"
  | object => "object"
  | string => "string"

def TypeName.admits : TypeName → Value → Bool
  | array, .array _ => true
  | null, .null => true
  | object, .object _ => true
  | string, .string _ => true
  | _, _ => false

/-- What a schema asks of the value itself. -/
inductive Demand where
  /-- One of some types. -/
  | types (allowed : List TypeName)
  /-- One of some strings, or `null`. -/
  | choice (names : List String)
  /-- A string that is an absolute identifier. -/
  | uri
  deriving DecidableEq, Repr

inductive Schema where
  /-- A value without parts that are looked at. -/
  | plain (demand : Demand)
  /-- An object, or `null` where that is allowed.  The known members have schemas of their
  own, `rest` is the schema of all others, and some members must be there. -/
  | record (nullable : Bool) (required : List String) (known : List (String × Schema))
      (rest : Option Schema)
  /-- An array, or `null` where that is allowed, with a schema for its items. -/
  | list (nullable : Bool) (items : Schema)

/-- How a document departs from a schema. -/
inductive Violation where
  /-- The value does not meet a demand. -/
  | unmet (demand : Demand) (value : Value)
  /-- A required member is not there. -/
  | missing (name : String)
  deriving Repr

def Demand.isMet : Demand → Value → Bool
  | types allowed, v => allowed.any (·.admits v)
  | choice names, .string s => names.contains s
  | choice _, .null => true
  | choice _, _ => false
  | uri, .string s => Uri.isAbsolute s.toList
  | uri, _ => false

/-- The demand on a value that may be `null`. -/
def orNull (nullable : Bool) (t : TypeName) : Demand :=
  .types (if nullable then [t, .null] else [t])

namespace Schema

mutual

/-- Every place where a document departs from a schema; `path` are the keys that lead to
the document, last first. -/
def violationsAt (path : List String) : Schema → Value → List (List String × Violation)
  | plain .uri, .string s =>
    if Demand.uri.isMet (.string s) then [] else [(path, .unmet .uri (.string s))]
  | plain .uri, v => [(path, .unmet (.types [.string]) v)]
  | plain demand, v => if demand.isMet v then [] else [(path, .unmet demand v)]
  | record _ required known rest, .object members =>
    (required.filter fun name => (Ordered.get? members name).isNone).map
        (fun name => (path, .missing name)) ++
      knownViolations path members known ++
      restViolations path (known.map Prod.fst) members rest
  | record nullable _ _ _, v =>
    if (orNull nullable .object).isMet v then []
    else [(path, .unmet (orNull nullable .object) v)]
  | list _ items, .array vs => (vs.mapIdx fun i v => (i, v)).flatMap fun (i, v) =>
      violationsAt (toString i :: path) items v
  | list nullable _, v =>
    if (orNull nullable .array).isMet v then []
    else [(path, .unmet (orNull nullable .array) v)]

def knownViolations (path : List String) (members : Members) :
    List (String × Schema) → List (List String × Violation)
  | [] => []
  | (name, schema) :: known =>
    (match Ordered.get? members name with
      | none => []
      | some v => violationsAt (name :: path) schema v) ++
    knownViolations path members known

def restViolations (path : List String) (names : List String) (members : Members) :
    Option Schema → List (List String × Violation)
  | none => []
  | some schema =>
    (members.filter fun m => !names.contains m.1).flatMap fun (name, v) =>
      violationsAt (name :: path) schema v

end

/-- Every violation with the pointer of its place, keyword by keyword. -/
def violations (schema : Schema) (doc : Value) : List (String × Violation) :=
  (schema.violationsAt [] doc).map fun (path, v) => (Pointer.ofKeys path.reverse, v)

end Schema

end NavPolicy.Json
