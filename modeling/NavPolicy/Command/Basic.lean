import NavPolicy.Command.Output
import NavPolicy.Compilation
import NavPolicy.Options.Reader
import NavPolicy.Policy.Bundled

/-!
# Commands

What can be done from a command line: validate a policy, compile it, and check a single
address against it.  A command writes lines and says at the end whether its answer is good, or
fails on the way.
-/

namespace NavPolicy.Command

/-- A file: its path, and what reading it gave, its text or the reason why there is none. -/
structure Source where
  path : String
  content : Except String String

variable {σ : Type}

/-- The policy in a file, or the bundled one if there is no file. -/
def loadPolicy : Option Source → Except Failure Policy
  | none => .ok .bundled
  | some ⟨path, .error reason⟩ => .error (.policyUnreadable path reason)
  | some ⟨path, .ok text⟩ => (Policy.ofText text).mapError (.policyInvalid path)

/-- The options in a file, or the defaults if there is no file. -/
def loadOptions : Option Source → Except Failure Options
  | none => .ok {}
  | some ⟨path, .error reason⟩ => .error (.optionsUnreadable path reason)
  | some ⟨path, .ok text⟩ => (Options.ofText text).mapError (.optionsInvalid path)

/-- Lines, each with a line end. -/
def lines (ls : List String) : String := String.join (ls.map (· ++ "\n"))

/-- Validate a policy.  One that is invalid is an answer and no failure. -/
def Run.validate (source : Option Source) : Run σ Bool :=
  match loadPolicy source with
  | .ok p => do
    line (s!"valid: version {p.version}, destinations: " ++ ", ".intercalate p.ids)
    return true
  | .error (.policyInvalid _ e) => do
    line s!"invalid: {e.errors.length} error(s)"
    e.messages.forM fun message => line ("  " ++ message)
    return false
  | .error f => ofExcept (.error f)

/-- The answer for a policy: whether it is one, and if not, all that is wrong with it. -/
def validate (source : Option Source) : Except Failure Report := (Run.validate source).report

/-- Compile a policy, or one destination of it, with a mode or the default one. -/
def compilation (p : Policy) (o : Options) (platform : Platform) (id mode : Option String) :
    Except Failure Compilation :=
  match id, mode with
  | some id, some mode =>
    match p.destination id with
    | .error e => .error (.notCompiled e)
    | .ok d => ((d.compile platform (some mode) o).map Compilation.single).mapError .notCompiled
  | none, some mode =>
    (Policy.compileEach (fun id d =>
      (d.compile platform (some mode) o).mapError (.entryNotCompiled id)) p.destinations).map .all
  | id, none => (p.compile platform id o).mapError .notCompiled

def Run.compile (p : Policy) (o : Options) (platform : Platform) (id mode : Option String) :
    Run σ Bool := do
  let c ← ofExcept (compilation p o platform id mode)
  document 0 c.toData
  write "\n"
  return true

def compile (p : Policy) (o : Options) (platform : Platform) (id mode : Option String) :
    Except Failure Report :=
  (Run.compile p o platform id mode).report

/-- An address to check. -/
structure CheckRequest where
  platform : Platform
  destination : String
  /-- The mode; the default one if none is given. -/
  mode : Option String
  url : String
  /-- What the address loads; a page if nothing is given. -/
  resource : Option ResourceType
  deriving DecidableEq, Repr

/-- Whether a resource may load.  Only the desktop looks at its type. -/
def isAllowed (a : Artifact) (url : String) (type : ResourceType) : Bool :=
  match a.platform with
  | .desktop => a.allowsRequest url type
  | _ => a.allowsResource url

def resourceLine (allowed : Bool) (url : String) (type : ResourceType) : String :=
  let word := if allowed then "allowed" else "blocked"
  s!"{word}: {type.title} {url}"

def verdictLine (url : String) : Decision → String
  | .allowed pattern => s!"allowed: {url} (allow {pattern})"
  | .blocked pattern => s!"blocked: {url} (block {pattern})"
  | .unmatched => s!"blocked: {url} (no rule matched)"

def checkedArtifact (p : Policy) (o : Options) (r : CheckRequest) :
    Except CompileError Artifact := do
  (← p.destination r.destination).compile r.platform
    (r.mode.orElse fun _ => p.defaultMode? r.destination) o

/-- Check an address: show the verdict, and where to go instead of a page that is denied. -/
def Run.check (p : Policy) (o : Options) (r : CheckRequest) : Run σ Bool := do
  let a ← ofExcept ((checkedArtifact p o r).mapError .notCompiled)
  match r.resource with
  | some type =>
    let allowed := isAllowed a r.url type
    line (resourceLine allowed r.url type)
    return allowed
  | none =>
    let verdict := a.verdict r.url
    line (verdictLine r.url verdict)
    if !verdict.isAllowed then line ("redirect: " ++ a.nearestRoute r.url)
    return verdict.isAllowed

def check (p : Policy) (o : Options) (r : CheckRequest) : Except Failure Report :=
  (Run.check p o r).report

end NavPolicy.Command
