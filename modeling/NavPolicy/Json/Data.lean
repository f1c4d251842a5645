import NavPolicy.Json.Printer

/-!
# Data to be written

Data as a program holds it, before it is written as a document.  A record has its names from its
type, but a map has whatever keys it holds, and not all of them can stand as names.  Data of some
types may also refuse to be written.  So data is encoded as a document, or there is an error.
-/

namespace NavPolicy.Json

inductive Data where
  | null
  | bool (b : Bool)
  | number (n : Number)
  | string (s : String)
  | list (items : List Data)
  | record (fields : List (String × Data))
  | map (entries : List (Data × Data))
  /-- Data that refuses to be written, for a reason of its own. -/
  | refused (reason : String)

/-- Why data cannot be written. -/
inductive EncodeError where
  | keyNotString
  | refused (reason : String)
  deriving DecidableEq, Repr

def EncodeError.message : EncodeError → String
  | keyNotString => "key must be a string"
  | refused reason => reason

namespace Data

/-- The name that stands for a key: its text, if it is a string, a number or a truth value. -/
def keyName : Data → Except EncodeError String
  | string s => .ok s
  | bool b => .ok (if b then "true" else "false")
  | number n => .ok n.text
  | refused reason => .error (.refused reason)
  | _ => .error .keyNotString

mutual

/-- The document of data. -/
def encode : Data → Except EncodeError Value
  | null => .ok .null
  | bool b => .ok (.bool b)
  | number n => .ok (.number n)
  | string s => .ok (.string s)
  | list items => (encodeItems items).map .array
  | record fields => (encodeFields fields).map .object
  | map entries => (encodeEntries entries).map .object
  | refused reason => .error (.refused reason)

def encodeItems : List Data → Except EncodeError (List Value)
  | [] => .ok []
  | d :: rest =>
    match encode d with
    | .error e => .error e
    | .ok v => (encodeItems rest).map (v :: ·)

def encodeFields : List (String × Data) → Except EncodeError (List (String × Value))
  | [] => .ok []
  | (name, d) :: rest =>
    match encode d with
    | .error e => .error e
    | .ok v => (encodeFields rest).map ((name, v) :: ·)

def encodeEntries : List (Data × Data) → Except EncodeError (List (String × Value))
  | [] => .ok []
  | (key, d) :: rest =>
    match keyName key with
    | .error e => .error e
    | .ok name =>
      match encode d with
      | .error e => .error e
      | .ok v => (encodeEntries rest).map ((name, v) :: ·)

end

def compact (d : Data) : Except EncodeError String := d.encode.map Value.compact

def strings (ss : List String) : Data := list (ss.map string)

/-- Data that may be missing. -/
def ofOption : Option Data → Data
  | none => null
  | some d => d

/-- A map with strings for keys. -/
def table (entries : Ordered Data) : Data := map (entries.map fun e => (string e.1, e.2))

variable {α : Type} {data : α → Data} {document : α → Value}

/-- Data that has a document is written as that document. -/
theorem compact_eq {d : Data} {v : Value} (h : d.encode = .ok v) : d.compact = .ok v.compact := by
  rw [compact, h]
  rfl

theorem encodeItems_map (h : ∀ a, (data a).encode = .ok (document a)) (as : List α) :
    encodeItems (as.map data) = .ok (as.map document) := by
  induction as with
  | nil => rfl
  | cons a as ih => simp [encodeItems, h, ih, Except.map]

@[simp]
theorem encode_string (s : String) : (string s).encode = .ok (.string s) := rfl

@[simp]
theorem encode_bool (b : Bool) : (bool b).encode = .ok (.bool b) := rfl

/-- A list is encoded if its items are. -/
theorem encode_list (h : ∀ a, (data a).encode = .ok (document a)) (as : List α) :
    (list (as.map data)).encode = .ok (.array (as.map document)) := by
  simp [encode, encodeItems_map h, Except.map]

@[simp]
theorem encode_strings (ss : List String) : (strings ss).encode = .ok (.ofStrings ss) :=
  encode_list encode_string ss

/-- A map is encoded if it has strings for keys and what it holds is. -/
theorem encode_table (h : ∀ a, (data a).encode = .ok (document a)) (entries : Ordered α) :
    (table (entries.map fun e => (e.1, data e.2))).encode =
      .ok (.object (entries.map fun e => (e.1, document e.2))) := by
  have hentries : encodeEntries ((entries.map fun e => (e.1, data e.2)).map fun e =>
      (string e.1, e.2)) = .ok (entries.map fun e => (e.1, document e.2)) := by
    induction entries with
    | nil => rfl
    | cons e entries ih =>
        rw [List.map_map] at ih
        simp [encodeEntries, keyName, h, ih, Except.map]
  rw [table, encode, hentries, Except.map]

/-- A map with a list for a key has no document. -/
example : (map [(list [], null)]).encode = .error .keyNotString := rfl

end Data

end NavPolicy.Json
