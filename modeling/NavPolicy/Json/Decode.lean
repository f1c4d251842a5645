import NavPolicy.Json.Error

/-!
# Reading records from documents

A document that was read is turned into a value of a type.  A record may be written as an
object, whose unknown members are ignored, or as an array of its fields in order.  The
first thing that is wrong, in the order of the document, is the answer.
-/

namespace NavPolicy.Json

abbrev Decoder (α : Type) := Value → Except Mismatch α

def Value.wrongType {α : Type} (v : Value) (expected : String) : Except Mismatch α :=
  .error (.wrongType (.ofValue v) expected)

def decodeString : Decoder String
  | .string s => .ok s
  | v => v.wrongType "a string"

def decodeItems {α : Type} (item : Decoder α) : List Value → Except Mismatch (List α)
  | [] => .ok []
  | v :: rest =>
    match item v with
    | .error e => .error e
    | .ok a => (decodeItems item rest).map (a :: ·)

def decodeList {α : Type} (item : Decoder α) : Decoder (List α)
  | .array vs => decodeItems item vs
  | v => v.wrongType "a sequence"

/-- Something that may be `null`. -/
def decodeOption {α : Type} (some? : Decoder α) : Decoder (Option α)
  | .null => .ok none
  | v => (some? v).map some

def decodeEntries {α : Type} (entry : Decoder α) : Members → Except Mismatch (Ordered α)
  | [] => .ok []
  | (name, v) :: rest =>
    match entry v with
    | .error e => .error e
    | .ok a => (decodeEntries entry rest).map ((name, a) :: ·)

def decodeMap {α : Type} (entry : Decoder α) : Decoder (Ordered α)
  | .object members => decodeEntries entry members
  | v => v.wrongType "a map"

def choose {α : Type} (choices : List (String × α)) (name : String) : Except Mismatch α :=
  match choices.find? fun c => c.1 == name with
  | some c => .ok c.2
  | none => .error (.unknownVariant name (choices.map Prod.fst))

/-- One of several names, alone or as the only member of an object, with `null` as its
value. -/
def decodeChoice {α : Type} (choices : List (String × α)) : Decoder α
  | .string name => choose choices name
  | .object [(name, v)] =>
    match choose choices name with
    | .error e => .error e
    | .ok a =>
      match v with
      | .null => .ok a
      | v => v.wrongType "unit"
  | .object _ => .error (.wrongValue .object "map with a single key")
  | v => v.wrongType "string or map"

structure Field (R : Type) where
  name : String
  required : Bool
  /-- Read the field's value into the record. -/
  read : Value → R → Except Mismatch R

/-- How a record is read: its name, its fields and the record with no field read. -/
structure RecordForm (R : Type) where
  name : String
  fields : List (Field R)
  blank : R

namespace RecordForm

variable {R : Type}

/-- What an array with too few items should have been. -/
def sized (form : RecordForm R) : String :=
  let n := form.fields.length
  s!"struct {form.name} with {n} element" ++ if n = 1 then "" else "s"

def readMembers (form : RecordForm R) : Members → R → Except Mismatch R
  | [], r => .ok r
  | (name, v) :: rest, r =>
    match form.fields.find? fun f => f.name == name with
    | none => readMembers form rest r
    | some f =>
      match f.read v r with
      | .error e => .error e
      | .ok r => readMembers form rest r

def readItems (form : RecordForm R) (index : Nat) :
    List (Field R) → List Value → R → Except Mismatch R
  | [], [], r => .ok r
  | [], rest, _ => .error (.wrongLength (index + rest.length) "fewer elements in array")
  | f :: fields, [], r =>
    if f.required then .error (.wrongLength index form.sized)
    else readItems form (index + 1) fields [] r
  | f :: fields, v :: rest, r =>
    match f.read v r with
    | .error e => .error e
    | .ok r => readItems form (index + 1) fields rest r

def decode (form : RecordForm R) : Decoder R
  | .object members =>
    match form.readMembers members form.blank with
    | .error e => .error e
    | .ok r =>
      match form.fields.find? fun f => f.required && (Ordered.get? members f.name).isNone with
      | some f => .error (.missingField f.name)
      | none => .ok r
  | .array items => form.readItems 0 form.fields items form.blank
  | v => v.wrongType s!"struct {form.name}"

end RecordForm

end NavPolicy.Json
