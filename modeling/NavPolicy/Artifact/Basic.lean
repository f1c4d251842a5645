import NavPolicy.Artifact.ContentRule
import NavPolicy.Artifact.RequestFilter
import NavPolicy.Decision
import NavPolicy.Json.Printer
import NavPolicy.Script.Spec

/-!
# Artifacts

What a destination is compiled to for a platform: the platform's own rules, the script for
the pages, and the matchers that are the same on every platform.  Compiling fails if the
destination does not start at an address, or if its rules or its script cannot be written.
-/

namespace NavPolicy

open NavPolicy.Artifact NavPolicy.Json

/-- The rules in a platform's own form. -/
inductive NativeRules where
  | contentRules (list : ContentRuleList)
  | blockUrls (urls : List String)
  | requestFilters (filters : List RequestFilter)
  deriving DecidableEq

def NativeRules.platform : NativeRules → Platform
  | contentRules _ => .ios
  | blockUrls _ => .android
  | requestFilters _ => .desktop

/-- A destination, compiled for a platform. -/
structure Artifact where
  native : NativeRules
  script : String
  matchers : Matchers
  startUrl : String

/-- Why something cannot be compiled. -/
inductive CompileError where
  | destinationNotFound (id : String)
  | unknownPlatform (name : String)
  | invalidStart (url : String) (reason : Url.UrlError)
  /-- The rules or the script cannot be written. -/
  | serialize (reason : EncodeError)
  deriving DecidableEq, Repr

def CompileError.message : CompileError → String
  | destinationNotFound id => s!"destination {id} not found in policy"
  | unknownPlatform name => s!"unknown platform: {name}"
  | invalidStart url reason => s!"invalid start URL {url}: {reason.message}"
  | serialize reason => s!"serialization error: {reason.message}"

def Platform.ofName (name : String) : Except CompileError Platform :=
  match Platform.ofName? name with
  | some p => .ok p
  | none => .error (.unknownPlatform name)

namespace Destination

def startUrl (d : Destination) : Except CompileError Url :=
  match Url.parse d.start with
  | .ok u => .ok u
  | .error reason => .error (.invalidStart d.start reason)

/-- The rules of a destination in a platform's own form.  Content rules are written at once. -/
def compileRules (d : Destination) (p : Platform) (mode : Option String) (start : Url) :
    Except EncodeError NativeRules :=
  match p with
  | .ios =>
    (ContentRuleList.ofRules (contentRules d mode (start.host.map Url.Host.text))).map
      .contentRules
  | .android => .ok (.blockUrls (d.effectiveBlock mode))
  | .desktop => .ok (.requestFilters ((d.effectiveBlock mode).map fun pattern =>
      ⟨[resolveBlock pattern start], ResourceType.filtered⟩))

def renderScript (d : Destination) (p : Platform) (mode : Option String) (o : ScriptOptions) :
    Except EncodeError String :=
  Script.Spec.render ⟨d.dom, d.mode? mode, o, o.interception p⟩

/-- The name of a mode, if the destination has that mode. -/
def activeMode (d : Destination) (mode : Option String) : Option String :=
  mode.filter fun name => (d.filterMode? name).isSome

def matchers (d : Destination) (mode : Option String) : Matchers :=
  .compile d.allow (d.effectiveBlock (d.activeMode mode))

/-- A mode that the destination does not have is as good as none. -/
theorem mode?_activeMode (d : Destination) (mode : Option String) :
    d.mode? (d.activeMode mode) = d.mode? mode := by
  cases mode with
  | none => rfl
  | some name =>
    cases hmode : d.filterMode? name with
    | none => simp [activeMode, mode?, hmode, Option.filter]
    | some m => simp [activeMode, hmode, Option.filter]

theorem effectiveBlock_activeMode (d : Destination) (mode : Option String) :
    d.effectiveBlock (d.activeMode mode) = d.effectiveBlock mode := by
  rw [effectiveBlock, mode?_activeMode, effectiveBlock]

/-- The matchers can be told from the name of the mode as it was given. -/
theorem matchers_eq (d : Destination) (mode : Option String) :
    d.matchers mode = .compile d.allow (d.effectiveBlock mode) := by
  rw [matchers, effectiveBlock_activeMode]

/-- Compile a destination for a platform.  A mode that it does not have adds nothing. -/
def compile (d : Destination) (p : Platform) (mode : Option String) (o : Options) :
    Except CompileError Artifact :=
  match d.startUrl with
  | .error e => .error e
  | .ok start => do
    let native ← (d.compileRules p mode start).mapError .serialize
    let script ← (d.renderScript p mode (o.of p)).mapError .serialize
    return { native, script, matchers := d.matchers mode, startUrl := d.start }

end Destination

namespace Artifact

def platform (a : Artifact) : Platform := a.native.platform

def verdict (a : Artifact) (url : String) : Decision := a.matchers.verdict url

def allowsNavigation (a : Artifact) (url : String) : Bool := a.matchers.allowsNavigation url

def allowsResource (a : Artifact) (url : String) : Bool := a.matchers.allowsResource url

def blocks (a : Artifact) (url : String) : Bool := a.matchers.blocks url

/-- Where a denied navigation is sent. -/
def nearestRoute (a : Artifact) (url : String) : String :=
  NavPolicy.nearestRoute url a.matchers.allow a.startUrl

def isFiltered (a : Artifact) (url : String) (type : ResourceType) : Bool :=
  match a.native with
  | .requestFilters filters => filters.any fun f => f.covers url type
  | _ => false

/-- Whether a request of a type may be made.  A frame is refused only if a block pattern
matches; any other request also if a filter covers it. -/
def allowsRequest (a : Artifact) (url : String) (type : ResourceType) : Bool :=
  if type.isFrame then !a.blocks url
  else if a.isFiltered url type then false
  else a.allowsResource url

/-! ## Documents -/

def matcherDocument (m : Pattern.Matcher) : Value :=
  .object [("pattern", .string m.pattern), ("kind", .string m.kind.name),
    ("expression", .ofOption (m.expression?.map .string))]

def matchersDocument (m : Matchers) : Value :=
  .object [("allow", .array (m.allow.map matcherDocument)),
    ("block", .array (m.block.map matcherDocument))]

/-- The members of an artifact's document: the native rules and the script under the names
that the platform gives them. -/
def members (a : Artifact) : Members :=
  (match a.native with
    | .contentRules list =>
      [("contentRules", .string list.text), ("userScript", .string a.script)]
    | .blockUrls urls => [("blockUrls", .ofStrings urls), ("domScript", .string a.script)]
    | .requestFilters filters =>
      [("webRequestFilters", .array (filters.map RequestFilter.toDocument)),
        ("contentScript", .string a.script)]) ++
    [("matchers", matchersDocument a.matchers), ("startUrl", .string a.startUrl)]

/-- The document of an artifact, with the name of its platform. -/
def toDocument (a : Artifact) : Value :=
  .object (("platform", .string a.platform.name) :: a.members)

/-! ## Data -/

def matcherData (m : Pattern.Matcher) : Data :=
  .record [("pattern", .string m.pattern), ("kind", .string m.kind.name),
    ("expression", .ofOption (m.expression?.map .string))]

def matchersData (m : Matchers) : Data :=
  .record [("allow", .list (m.allow.map matcherData)), ("block", .list (m.block.map matcherData))]

/-- The fields of an artifact, in the order in which they are written. -/
def fields (a : Artifact) : List (String × Data) :=
  (match a.native with
    | .contentRules list =>
      [("contentRules", .string list.text), ("userScript", .string a.script)]
    | .blockUrls urls => [("blockUrls", .strings urls), ("domScript", .string a.script)]
    | .requestFilters filters =>
      [("webRequestFilters", .list (filters.map RequestFilter.toData)),
        ("contentScript", .string a.script)]) ++
    [("matchers", matchersData a.matchers), ("startUrl", .string a.startUrl)]

def toData (a : Artifact) : Data :=
  .record (("platform", .string a.platform.name) :: a.fields)

theorem encode_matcherData (m : Pattern.Matcher) :
    (matcherData m).encode = .ok (matcherDocument m) := by
  rw [matcherData, matcherDocument]
  cases m.expression? <;>
    simp [Data.encode, Data.encodeFields, Data.ofOption, Value.ofOption, Except.map]

theorem encode_matchersData (m : Matchers) :
    (matchersData m).encode = .ok (matchersDocument m) := by
  simp [matchersData, matchersDocument, Data.encode, Data.encodeFields,
    Data.encodeItems_map encode_matcherData, Except.map]

/-- An artifact can always be written. -/
theorem encode_toData (a : Artifact) : a.toData.encode = .ok a.toDocument := by
  obtain ⟨native, script, matchers, start⟩ := a
  cases native <;>
    simp [toData, toDocument, fields, members, Data.encode, Data.encodeFields,
      encode_matchersData, Data.encodeItems_map RequestFilter.encode_toData, Data.encode_strings,
      Except.map]

end Artifact

end NavPolicy
