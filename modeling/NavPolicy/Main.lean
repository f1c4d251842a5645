import NavPolicy.Command.Program

/-!
# The command line

The program around the commands: it reads the files that the arguments name and shows the
outcome.
-/

namespace NavPolicy.Command

def readError : IO.Error → String
  | .noFileOrDirectory _ code details => s!"{details} (os error {code})"
  | .permissionDenied _ code details => s!"{details} (os error {code})"
  | .inappropriateType _ code details => s!"{details} (os error {code})"
  | .invalidArgument _ code details => s!"{details} (os error {code})"
  | e => toString e

def readSource (path : String) : IO Source :=
  try
    let text ← IO.FS.readFile path
    return ⟨path, .ok text⟩
  catch e => return ⟨path, .error (readError e)⟩

def showOutcome (o : Outcome) : IO UInt32 := do
  IO.print o.output
  match o.error with
  | some text => IO.eprint text
  | none => if o.code = 2 then IO.eprint usage
  return o.code.toUInt32

def runProgram (args : List String) : IO UInt32 := do
  let policy ← IO.getEnv "NAVGATE_POLICY"
  let options ← IO.getEnv "NAVGATE_OPTIONS"
  match Invocation.ofArguments policy options args with
  | .error refusal => showOutcome (.ofRefusal refusal)
  | .ok i =>
    let policy ← i.policy.mapM readSource
    let options ← i.options.mapM readSource
    showOutcome (i.outcome policy options)

end NavPolicy.Command

def main (args : List String) : IO UInt32 := NavPolicy.Command.runProgram args
