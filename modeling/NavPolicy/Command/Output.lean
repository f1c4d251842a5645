import NavPolicy.Command.Failure
import NavPolicy.Json.Data

/-!
# Writing to an output

A command writes to an output as it goes.  The output may fail at any time, and then the command
fails too.  What was written before stays where it is, so a command that fails may have shown half
an answer.
-/

namespace NavPolicy.Command

open NavPolicy.Json

/-- An output.  Writing a text changes the state of the output and may fail for a reason; how much
of the text has arrived then is left to the output. -/
structure Output (σ : Type) where
  write : String → σ → Except String Unit × σ

/-- An output that keeps all that is written. -/
def Output.buffer : Output String where
  write text held := (.ok (), held ++ text)

abbrev Run (σ α : Type) := ReaderT (Output σ) (ExceptT Failure (StateM σ)) α

/-- What a command answers: its text, and whether the answer is good. -/
structure Report where
  success : Bool
  text : String
  deriving DecidableEq, Repr

namespace Run

variable {σ α β : Type}

def write (text : String) : Run σ Unit := fun out => ExceptT.mk fun state =>
  match out.write text state with
  | (.ok (), state) => (.ok (), state)
  | (.error reason, state) => (.error (.notWritten reason), state)

def line (text : String) : Run σ Unit := write (text ++ "\n")

/-- Go on with what is there, or fail. -/
def ofExcept (x : Except Failure α) : Run σ α := fun _ => ExceptT.mk (pure x)

/-- Carry out a run on an output in a state: what it comes to, and the state in the end. -/
def on (run : Run σ α) (out : Output σ) (state : σ) : Except Failure α × σ :=
  StateT.run (ExceptT.run (ReaderT.run run out)) state

def report (run : Run String Bool) : Except Failure Report :=
  match run.on .buffer "" with
  | (.ok success, text) => .ok ⟨success, text⟩
  | (.error f, _) => .error f

@[simp]
theorem on_pure (a : α) (out : Output σ) (state : σ) :
    (pure a : Run σ α).on out state = (.ok a, state) := rfl

@[simp]
theorem on_write (text : String) (out : Output σ) (state : σ) :
    (write text).on out state =
      match out.write text state with
      | (.ok (), state) => (.ok (), state)
      | (.error reason, state) => (.error (.notWritten reason), state) := rfl

@[simp]
theorem on_ofExcept (x : Except Failure α) (out : Output σ) (state : σ) :
    (ofExcept x).on out state = (x, state) := rfl

/-- What is done next finds the output as it was left. -/
theorem on_bind (run : Run σ α) (next : α → Run σ β) (out : Output σ) (state : σ) :
    (run >>= next).on out state =
      match run.on out state with
      | (.ok a, state) => (next a).on out state
      | (.error f, state) => (.error f, state) := by
  simp only [on, ReaderT.run, ExceptT.run, StateT.run, bind, ReaderT.bind, ExceptT.bind,
    ExceptT.mk, StateT.bind, ExceptT.bindCont]
  cases run out state with
  | mk result state => cases result <;> rfl

/-! ## Documents -/

/-- Write parts between brackets, one on a line, or just the brackets where there are none. -/
def block (level : Nat) (first last : String) : List (Run σ Unit) → Run σ Unit
  | [] => write (first ++ last)
  | part :: parts => do
    write (first ++ String.ofList (Value.newLine (level + 1)))
    part
    parts.forM fun part => do
      write (String.ofList (',' :: Value.newLine (level + 1)))
      part
    write (String.ofList (Value.newLine level) ++ last)

mutual

/-- Write data as an indented document at a level.  Data that cannot be written is noticed when
it is its turn. -/
def document (level : Nat) : Data → Run σ Unit
  | .null => write "null"
  | .bool true => write "true"
  | .bool false => write "false"
  | .number n => write n.text
  | .string s => write (quoted s)
  | .list items => block level "[" "]" (itemRuns (level + 1) items)
  | .record fields => block level "\x7b" "\x7d" (fieldRuns (level + 1) fields)
  | .map entries => block level "\x7b" "\x7d" (entryRuns (level + 1) entries)
  | .refused reason => throw (.notEncoded (.refused reason))

def itemRuns (level : Nat) : List Data → List (Run σ Unit)
  | [] => []
  | d :: rest => document level d :: itemRuns level rest

def fieldRuns (level : Nat) : List (String × Data) → List (Run σ Unit)
  | [] => []
  | (name, d) :: rest =>
    (do
      write (quoted name ++ ": ")
      document level d) :: fieldRuns level rest

def entryRuns (level : Nat) : List (Data × Data) → List (Run σ Unit)
  | [] => []
  | (key, d) :: rest =>
    (do
      let name ← ofExcept (key.keyName.mapError .notEncoded)
      write (quoted name ++ ": ")
      document level d) :: entryRuns level rest

end

end Run

end NavPolicy.Command
