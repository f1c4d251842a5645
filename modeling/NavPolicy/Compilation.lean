import NavPolicy.Artifact.Basic

/-!
# Compiling policies

A policy is compiled for one platform, either one destination of it or all of them in
their order, or for every platform at once.  Each destination is compiled with the mode
that applies to it by default.  The first destination that cannot be compiled is the
answer for the whole policy.
-/

namespace NavPolicy

open NavPolicy.Json

namespace Policy

def destination (p : Policy) (id : String) : Except CompileError Destination :=
  match p.destination? id with
  | some d => .ok d
  | none => .error (.destinationNotFound id)

def compileEach {ε α : Type} (each : String → Destination → Except ε α) :
    Ordered Destination → Except ε (Ordered α)
  | [] => .ok []
  | (id, d) :: rest =>
    match each id d with
    | .error e => .error e
    | .ok a => (compileEach each rest).map ((id, a) :: ·)

/-- Compiling keeps the destinations and their order. -/
theorem names_compileEach {ε α : Type} {each : String → Destination → Except ε α}
    {ds : Ordered Destination} {found : Ordered α} (h : compileEach each ds = .ok found) :
    Ordered.names found = Ordered.names ds := by
  induction ds generalizing found with
  | nil =>
    cases h
    rfl
  | cons d rest ih =>
    simp only [compileEach] at h
    split at h
    · cases h
    · cases hrest : compileEach each rest with
      | error e => simp [hrest, Except.map] at h
      | ok as =>
        simp only [hrest, Except.map, Except.ok.injEq] at h
        subst h
        simpa [Ordered.names] using ih hrest

end Policy

/-- What a policy is compiled to for a platform. -/
inductive Compilation where
  /-- The one destination that was asked for. -/
  | single (artifact : Artifact)
  /-- Every destination, in the order of the policy. -/
  | all (artifacts : Ordered Artifact)

namespace Compilation

def single? : Compilation → Option Artifact
  | single a => some a
  | all _ => none

def toDocument : Compilation → Value
  | single a => a.toDocument
  | all artifacts => .object (artifacts.map fun e => (e.1, e.2.toDocument))

/-- A compilation as data: artifacts that are kept by name are a map. -/
def toData : Compilation → Data
  | single a => a.toData
  | all artifacts => .table (artifacts.map fun e => (e.1, e.2.toData))

/-- Whatever was compiled can be written. -/
theorem encode_toData (c : Compilation) : c.toData.encode = .ok c.toDocument := by
  cases c with
  | single a => exact a.encode_toData
  | all artifacts => exact Data.encode_table Artifact.encode_toData artifacts

end Compilation

/-- A destination, compiled for every platform. -/
structure CompiledDestination where
  ios : Artifact
  android : Artifact
  desktop : Artifact
  quickActions : Ordered String

namespace CompiledDestination

def artifact (c : CompiledDestination) : Platform → Artifact
  | .ios => c.ios
  | .android => c.android
  | .desktop => c.desktop

/-- The document of a destination: its artifacts by platform, and its short cuts. -/
def toDocument (c : CompiledDestination) : Value :=
  .object (Platform.all.map (fun p => (p.name, .object (c.artifact p).members)) ++
    [("quickActions", .object (c.quickActions.map fun e => (e.1, .string e.2)))])

end CompiledDestination

/-- A policy, compiled for every platform. -/
structure CompiledPolicy where
  version : String
  destinations : Ordered CompiledDestination

def CompiledPolicy.toDocument (c : CompiledPolicy) : Value :=
  .object [("version", .string c.version),
    ("destinations", .object (c.destinations.map fun e => (e.1, e.2.toDocument)))]

def Destination.compileAll (d : Destination) (mode : Option String) (o : Options) :
    Except CompileError CompiledDestination := do
  let ios ← d.compile .ios mode o
  let android ← d.compile .android mode o
  let desktop ← d.compile .desktop mode o
  return { ios, android, desktop, quickActions := d.quickActions.getD [] }

namespace Policy

def compileOne (p : Policy) (platform : Platform) (id : String) (o : Options) :
    Except CompileError Artifact := do
  (← p.destination id).compile platform (p.defaultMode? id) o

/-- Compile a policy for a platform: the destination with a name, or all of them. -/
def compile (p : Policy) (platform : Platform) (id : Option String) (o : Options) :
    Except CompileError Compilation :=
  match id with
  | some id => (p.compileOne platform id o).map .single
  | none =>
    (compileEach (fun id d => d.compile platform (p.defaultMode? id) o) p.destinations).map .all

def compileAll (p : Policy) (o : Options) : Except CompileError CompiledPolicy :=
  (compileEach (fun id d => d.compileAll (p.defaultMode? id) o) p.destinations).map
    (⟨p.version, ·⟩)

end Policy

end NavPolicy
