import NavPolicy.Command.Arguments

/-!
# The program

What becomes of a command line: a text, an exit code and perhaps an error.  The code is
zero for a good answer, one for a bad answer or a failure, and two for arguments that are
wrong.
-/

namespace NavPolicy.Command

/-- What is to be seen of a run. -/
structure Outcome where
  code : Nat
  output : String
  /-- What is shown of a failure. -/
  error : Option String
  deriving DecidableEq, Repr

/-- Carry out what is to be done, with the files that were read for it. -/
def Task.run {σ : Type} (t : Task) (policy options : Option Source) : Run σ Bool :=
  match t with
  | validate => Run.validate policy
  | compile platform id mode => do
    let p ← Run.ofExcept (loadPolicy policy)
    let o ← Run.ofExcept (loadOptions options)
    Run.compile p o platform id mode
  | check request => do
    let p ← Run.ofExcept (loadPolicy policy)
    let o ← Run.ofExcept (loadOptions options)
    Run.check p o request

/-- The outcome of a run.  What was written is shown even if the run fails. -/
def Outcome.ofRun (run : Run String Bool) : Outcome :=
  match run.on .buffer "" with
  | (.ok success, text) => ⟨if success then 0 else 1, text, none⟩
  | (.error f, text) => ⟨1, text, some f.report⟩

def usage : String := lines [
  "Validate, compile and probe navigation policies",
  "",
  "Usage: navgate [OPTIONS] <COMMAND>",
  "",
  "Commands:",
  "  validate  Check a policy against the schema and list every violation",
  "  compile   Compile a policy and print the artifacts as JSON",
  "            --platform <PLATFORM> [--destination <ID>] [--filter-mode <MODE>]",
  "  check     Decide whether a URL may load",
  "            --platform <PLATFORM> --destination <ID> [--filter-mode <MODE>]",
  "            [--resource <TYPE>] <URL>",
  "",
  "Options:",
  "  --policy <PATH>   Policy document; the bundled default when omitted",
  "  --options <PATH>  Compiler options (JSON)",
  "  -h, --help        Print help"]

def Outcome.ofRefusal : Refusal → Outcome
  | .usage => ⟨2, "", none⟩
  | .help => ⟨0, usage, none⟩

def Invocation.outcome (i : Invocation) (policy options : Option Source) : Outcome :=
  .ofRun (i.task.run policy options)

/-- The outcome of arguments, given what reading a file gives.  The environment may name the
two files. -/
def outcome (read : String → Except String String) (policy options : Option String)
    (args : List String) : Outcome :=
  match Invocation.ofArguments policy options args with
  | .error refusal => .ofRefusal refusal
  | .ok i =>
    let source := fun path => Source.mk path (read path)
    i.outcome (i.policy.map source) (i.options.map source)

end NavPolicy.Command
