import NavPolicy.Json.Decode
import NavPolicy.Json.Parser
import NavPolicy.Policy.Basic
import NavPolicy.Policy.Check

/-!
# Reading policies

`Policy.ofDocument` reads a policy from a document that passes the check.  The readers of
the parts stand on their own as well, and say what is wrong with a part that was not
checked.
-/

namespace NavPolicy

open NavPolicy.Json

/-- A list of strings that may be `null` for the empty list. -/
def decodeStrings : Decoder (List String) := fun v =>
  (decodeOption (decodeList decodeString) v).map (·.getD [])

def DomRules.form : RecordForm DomRules where
  name := "DomRules"
  blank := {}
  fields := [
    ⟨"hide", false, fun v r => (decodeStrings v).map fun x => { r with hide := x }⟩,
    ⟨"disableAnchorsTo", false, fun v r =>
      (decodeStrings v).map fun x => { r with disableAnchorsTo := x }⟩,
    ⟨"script", false, fun v r =>
      (decodeOption decodeString v).map fun x => { r with script := x }⟩]

def FilterMode.form : RecordForm FilterMode where
  name := "FilterMode"
  blank := {}
  fields := [
    ⟨"blockUrls", false, fun v r => (decodeStrings v).map fun x => { r with blockUrls := x }⟩,
    ⟨"hideSelectors", false, fun v r =>
      (decodeStrings v).map fun x => { r with hideSelectors := x }⟩,
    ⟨"scriptlets", false, fun v r => (decodeStrings v).map fun x => { r with scriptlets := x }⟩]

def Destination.form : RecordForm Destination where
  name := "DestinationPolicy"
  blank := { start := "", allow := [], block := [] }
  fields := [
    ⟨"start", true, fun v r => (decodeString v).map fun x => { r with start := x }⟩,
    ⟨"allow", true, fun v r => (decodeList decodeString v).map fun x => { r with allow := x }⟩,
    ⟨"block", true, fun v r => (decodeList decodeString v).map fun x => { r with block := x }⟩,
    ⟨"dom", false, fun v r =>
      (decodeOption DomRules.form.decode v).map fun x => { r with dom := x }⟩,
    ⟨"filterModes", false, fun v r =>
      (decodeOption (decodeMap FilterMode.form.decode) v).map fun x => { r with filterModes := x }⟩,
    ⟨"quickActions", false, fun v r =>
      (decodeOption (decodeMap decodeString) v).map fun x => { r with quickActions := x }⟩]

namespace Policy

def form : RecordForm Policy where
  name := "Policy"
  blank := { version := "", destinations := [] }
  fields := [
    ⟨"version", true, fun v r => (decodeString v).map fun x => { r with version := x }⟩,
    ⟨"filterModeDefault", false, fun v r =>
      (decodeOption (decodeChoice FilterLevel.choices) v).map fun x =>
        { r with filterModeDefault := x }⟩,
    ⟨"destinations", true, fun v r =>
      (decodeMap Destination.form.decode v).map fun x => { r with destinations := x }⟩]

/-- Why a document is no policy: everything that is wrong with it. -/
structure Invalid where
  errors : List FieldError
  deriving DecidableEq, Repr

/-- The path and the wording of each error. -/
def Invalid.messages (e : Invalid) : List String := e.errors.map FieldError.text

def Invalid.text (e : Invalid) : String :=
  "invalid policy: " ++ ", ".intercalate e.messages

/-- The policy that a document holds. -/
def ofDocument (doc : Value) : Except Invalid Policy :=
  match check doc with
  | [] =>
    match form.decode doc with
    | .ok p => .ok p
    | .error m => .error ⟨[⟨"", m.message⟩]⟩
  | errors => .error ⟨errors⟩

def ofText (text : String) : Except Invalid Policy :=
  match Value.ofText text with
  | .ok doc => ofDocument doc
  | .error e => .error ⟨[⟨"", "Invalid JSON: " ++ e.text⟩]⟩

/-- What a validation tells: that the document is a policy, or what is wrong with it. -/
inductive Report where
  | valid
  | invalid (messages : List String)
  deriving DecidableEq, Repr

/-- Check a document without reading it. -/
def validate (doc : Value) : Report :=
  match ofDocument doc with
  | .ok _ => .valid
  | .error e => .invalid e.messages

end Policy

end NavPolicy
