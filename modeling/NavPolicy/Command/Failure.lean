import NavPolicy.Artifact.Basic
import NavPolicy.Json.Error
import NavPolicy.Policy.Reader

/-!
# Why a command fails

A command fails if one of its files cannot be read or does not hold what it should, if a
destination cannot be compiled, or if the output does not take what is written.  A failure has a
headline and often a cause behind it.
-/

namespace NavPolicy.Command

/-- What goes wrong with a command. -/
inductive Failure where
  | policyUnreadable (path reason : String)
  | policyInvalid (path : String) (reason : Policy.Invalid)
  | optionsUnreadable (path reason : String)
  | optionsInvalid (path : String) (reason : Json.Error)
  /-- What was asked for cannot be compiled. -/
  | notCompiled (reason : CompileError)
  /-- One of all destinations cannot be compiled. -/
  | entryNotCompiled (id : String) (reason : CompileError)
  /-- What was compiled cannot be shown as a document. -/
  | notEncoded (reason : Json.EncodeError)
  | notWritten (reason : String)
  deriving DecidableEq, Repr

namespace Failure

def headline : Failure → String
  | policyUnreadable path _ => s!"failed to read policy {path}"
  | policyInvalid path _ => s!"invalid policy {path}"
  | optionsUnreadable path _ => s!"failed to read options {path}"
  | optionsInvalid path _ => s!"invalid options {path}"
  | notCompiled reason => reason.message
  | entryNotCompiled id _ => s!"failed to compile {id}"
  | notEncoded reason => reason.message
  | notWritten reason => reason

/-- What is behind an error that says that something cannot be written. -/
def compileCauses : CompileError → List String
  | .serialize reason => [reason.message]
  | _ => []

/-- Why it failed, unless the headline says so: a cause, the cause of that, and so on. -/
def causes : Failure → List String
  | policyUnreadable _ reason => [reason]
  | policyInvalid _ reason => [reason.text]
  | optionsUnreadable _ reason => [reason]
  | optionsInvalid _ reason => [reason.text]
  | notCompiled reason => compileCauses reason
  | entryNotCompiled _ reason => reason.message :: compileCauses reason
  | notEncoded _ => []
  | notWritten _ => []

def message (f : Failure) : String := ": ".intercalate (f.headline :: f.causes)

/-- A text behind a label, with each further line indented as deep as the label is. -/
def indent (label text : String) : String :=
  label ++ String.ofList (text.toList.flatMap fun c =>
    if c == '\n' then c :: List.replicate label.length ' ' else [c])

/-- Causes on lines of their own, numbered if there is more than one. -/
def listed : List String → List String
  | [cause] => [indent "    " cause]
  | causes => causes.zipIdx.map fun (cause, n) => indent s!"    {n}: " cause

/-- What is shown of a failure: the headline, and the causes below it. -/
def report (f : Failure) : String :=
  "Error: " ++ f.headline ++
    (if f.causes.isEmpty then "" else "\n\nCaused by:\n" ++ "\n".intercalate (listed f.causes)) ++
    "\n"

end Failure

end NavPolicy.Command
