import NavPolicy.Json.Schema

/-!
# Checking policy documents

A document is checked against the policy schema before anything is read from it, so that a
malformed document is refused as a whole with all that is wrong in it.  The violations are
listed in the order in which the fields are written; missing fields come after those that
are there.
-/

namespace NavPolicy.Policy

open NavPolicy.Json

/-- A violation, the dotted path of its field and its wording. -/
structure FieldError where
  /-- The path, empty for the document itself. -/
  path : String
  message : String
  deriving DecidableEq, Repr

/-- The path and the wording together. -/
def FieldError.text (e : FieldError) : String :=
  (if e.path.isEmpty then "(root)" else e.path) ++ ": " ++ e.message

/-! ## The schema -/

def stringSchema : Schema := .plain (.types [.string])

def stringsSchema : Schema := .list false stringSchema

def optionalStringsSchema : Schema := .list true stringSchema

def domSchema : Schema :=
  .record true [] [("hide", optionalStringsSchema), ("disableAnchorsTo", optionalStringsSchema),
    ("script", .plain (.types [.string, .null]))] none

def filterModeSchema : Schema :=
  .record false [] [("blockUrls", optionalStringsSchema), ("hideSelectors", optionalStringsSchema),
    ("scriptlets", optionalStringsSchema)] none

def destinationSchema : Schema :=
  .record false ["start", "allow", "block"]
    [("start", .plain .uri), ("allow", stringsSchema), ("block", stringsSchema),
      ("dom", domSchema), ("filterModes", .record true [] [] (some filterModeSchema)),
      ("quickActions", .record true [] [] (some stringSchema))] none

def levelNames : List String := ["safe", "aggressive"]

def policySchema : Schema :=
  .record false ["version", "destinations"]
    [("version", stringSchema), ("filterModeDefault", .plain (.choice levelNames)),
      ("destinations", .record false [] [] (some destinationSchema))] none

/-! ## Wording -/

/-- A list of types in messages, in alphabetical order. -/
def typeList (allowed : List TypeName) : String :=
  let ordered := [TypeName.array, .null, .object, .string].filter allowed.contains
  ", ".intercalate (ordered.map fun t => quoted t.text)

def choiceList (names : List String) : String :=
  " | ".intercalate (names.map fun n => "'" ++ n ++ "'")

def receivedText : Value → String
  | .string s => "'" ++ s ++ "'"
  | v => v.typeName

def violationText : Violation → String
  | .missing _ => "Required"
  | .unmet (.types [t]) v => s!"Expected {t.text}, received {v.typeName}"
  | .unmet (.types allowed) v => s!"{v.compact} is not of types {typeList allowed}"
  | .unmet (.choice names) v =>
    s!"Invalid enum value. Expected {choiceList names}, received {receivedText v}"
  | .unmet .uri v => s!"Invalid url ({v.compact} is not a \"uri\")"

def fieldKeys (pointer : String) : Violation → List String
  | .missing name => Pointer.keys pointer ++ [name]
  | .unmet _ _ => Pointer.keys pointer

def locate (doc : Value) (found : String × Violation) : List Nat × FieldError :=
  let keys := fieldKeys found.1 found.2
  (position doc keys, ⟨".".intercalate keys, violationText found.2⟩)

/-- Everything that is wrong with a document, in the order of the document. -/
def check (doc : Value) : List FieldError :=
  (((policySchema.violations doc).map (locate doc)).mergeSort fun a b =>
    positionLe a.1 b.1).map Prod.snd

end NavPolicy.Policy
