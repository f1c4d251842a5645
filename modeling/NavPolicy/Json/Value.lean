import NavPolicy.Decimal.Shortest

/-!
# JSON documents

A document keeps the order of its members.  A name that comes twice keeps the place of
its first occurrence and the value of its last.  Integers that fit 64 bits are kept
exactly, and every other number as the nearest binary64 value.
-/

namespace NavPolicy.Json

open NavPolicy.Decimal

inductive Number where
  /-- An integer from zero up, below `2 ^ 64`. -/
  | natural (n : Nat)
  /-- The integer `-(n + 1)`, down to `-2 ^ 63`. -/
  | negative (n : Nat)
  /-- Any other number. -/
  | float (x : Binary64)
  deriving DecidableEq, Repr

def Number.text : Number → String
  | natural n => toString n
  | negative n => "-" ++ toString (n + 1)
  | float x => x.text

inductive Value where
  | null
  | bool (b : Bool)
  | number (n : Number)
  | string (s : String)
  | array (items : List Value)
  | object (members : List (String × Value))
  deriving Repr

namespace Value

def typeName : Value → String
  | null => "null"
  | bool _ => "boolean"
  | number _ => "number"
  | string _ => "string"
  | array _ => "array"
  | object _ => "object"

def ofNat (n : Nat) : Value := number (.natural n)

/-- An optional document, where nothing is `null`. -/
def ofOption : Option Value → Value
  | none => null
  | some v => v

def ofStrings (ss : List String) : Value := array (ss.map string)

end Value

/-- The members of an object, in order. -/
abbrev Members := List (String × Value)

/-- Entries by name, in the order in which the names first came. -/
abbrev Ordered (α : Type) := List (String × α)

namespace Ordered

variable {α : Type}

def get? (entries : Ordered α) (name : String) : Option α :=
  (entries.find? fun e => e.1 == name).map Prod.snd

/-- Set the entry of a name: in its place if there is one, else at the end. -/
def insert (name : String) (a : α) : Ordered α → Ordered α
  | [] => [(name, a)]
  | e :: rest => if e.1 == name then (name, a) :: rest else e :: insert name a rest

/-- The entries of a list that may name an entry more than once. -/
def ofList (entries : List (String × α)) : Ordered α :=
  entries.foldl (fun found e => insert e.1 e.2 found) []

def names (entries : Ordered α) : List String :=
  entries.map Prod.fst

@[simp]
theorem get?_nil (name : String) : get? ([] : Ordered α) name = none := rfl

/-- The first entry of a name is the one that is found. -/
theorem get?_cons (e : String × α) (rest : Ordered α) (name : String) :
    get? (e :: rest) name = if e.1 = name then some e.2 else get? rest name := by
  by_cases h : e.1 = name
  · simp [get?, h]
  · simp [get?, h]

/-- An entry that was set is found. -/
@[simp]
theorem get?_insert_self (name : String) (a : α) (entries : Ordered α) :
    get? (insert name a entries) name = some a := by
  induction entries with
  | nil => simp [insert, get?_cons]
  | cons e rest ih =>
    by_cases h : e.1 = name
    · simp [insert, h, get?_cons]
    · simp [insert, h, get?_cons, ih]

/-- Setting one entry leaves the others alone. -/
theorem get?_insert_of_ne {name other : String} (hne : name ≠ other) (a : α)
    (entries : Ordered α) : get? (insert name a entries) other = get? entries other := by
  induction entries with
  | nil => simp [insert, get?_cons, hne]
  | cons e rest ih =>
    by_cases h : e.1 = name
    · have he : e.1 ≠ other := h ▸ hne
      simp [insert, h, get?_cons, hne]
    · simp [insert, h, get?_cons, ih]

/-- Changing every entry changes the one that is found. -/
theorem get?_map {β : Type} (f : α → β) (entries : Ordered α) (name : String) :
    get? (entries.map fun e => (e.1, f e.2)) name = (get? entries name).map f := by
  induction entries with
  | nil => rfl
  | cons e rest ih =>
    rw [List.map_cons, get?_cons, get?_cons, ih]
    split <;> rfl

/-- A name keeps its place when its entry is set, and a new name comes last. -/
theorem names_insert (name : String) (a : α) (entries : Ordered α) :
    names (insert name a entries) =
      if name ∈ names entries then names entries else names entries ++ [name] := by
  induction entries with
  | nil => simp [insert, names]
  | cons e rest ih =>
    by_cases h : e.1 = name
    · simp [insert, h, names]
    · have hne : ¬name = e.1 := fun heq => h heq.symm
      simp only [names] at ih
      by_cases hmem : name ∈ rest.map Prod.fst
      · simp [insert, h, names, ih, hmem]
      · simp [insert, h, names, ih, hmem, hne]

end Ordered

/-- The member of an object with a name; a document of another type has none. -/
def Value.member? : Value → String → Option Value
  | .object members, name => Ordered.get? members name
  | _, _ => none

end NavPolicy.Json
