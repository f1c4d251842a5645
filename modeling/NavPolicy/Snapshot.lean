import NavPolicy.Compilation

/-!
# Snapshots

A snapshot serves one policy.  It compiles what it is asked for and remembers it, so that
the same request is answered with the very same artifact.  A request that fails leaves
nothing behind.
-/

namespace NavPolicy

/-- Where the policy of a snapshot came from. -/
inductive PolicySource where
  /-- It is the one that a cache was made with. -/
  | default
  /-- It was installed later. -/
  | refreshed
  deriving DecidableEq, Repr

def PolicySource.name : PolicySource → String
  | default => "default"
  | refreshed => "refreshed"

/-- What an artifact is remembered under.  The mode is one that the destination has. -/
structure ArtifactKey where
  id : String
  platform : Platform
  mode : Option String
  deriving DecidableEq, Repr

/-- The mode that applies when one is asked for: that one, or else the default mode; none
if the destination does not have it. -/
def Policy.appliedMode (p : Policy) (id : String) (d : Destination) (mode : Option String) :
    Option String :=
  (mode.orElse fun _ => p.defaultMode? id).filter fun m => (d.filterMode? m).isSome

/-- Remembered artifacts, oldest first. -/
abbrev Memo := List (ArtifactKey × Artifact)

/-- A remembered artifact and its place. -/
structure Memo.Entry where
  place : Nat
  artifact : Artifact

def Memo.entry? (m : Memo) (key : ArtifactKey) : Option Memo.Entry := do
  let place ← m.findIdx? fun e => e.1 == key
  let e ← m[place]?
  return ⟨place, e.2⟩

/-- A policy that is served, with what was compiled from it so far. -/
structure Snapshot where
  policy : Policy
  source : PolicySource
  options : Options
  memo : Memo := []

namespace Snapshot

def version (s : Snapshot) : String := s.policy.version

def cached (s : Snapshot) : Nat := s.memo.length

/-- The entry of a key, which is compiled unless it is remembered. -/
def ensure (s : Snapshot) (d : Destination) (key : ArtifactKey) :
    Except CompileError (Memo.Entry × Snapshot) :=
  match s.memo.entry? key with
  | some e => .ok (e, s)
  | none =>
    (d.compile key.platform key.mode s.options).map fun a =>
      (⟨s.cached, a⟩, { s with memo := s.memo ++ [(key, a)] })

/-- The artifact of a destination for a platform, and the snapshot that remembers it. -/
def request (s : Snapshot) (id : String) (platform : Platform) (mode : Option String) :
    Except CompileError (Memo.Entry × Snapshot) :=
  match s.policy.destination id with
  | .error e => .error e
  | .ok d => s.ensure d ⟨id, platform, s.policy.appliedMode id d mode⟩

/-- Ask the artifact of a destination, compiled with the default mode. -/
def query {α : Type} (s : Snapshot) (id : String) (platform : Platform) (ask : Artifact → α) :
    Except CompileError (α × Snapshot) :=
  (s.request id platform none).map fun r => (ask r.1.artifact, r.2)

def verdict (s : Snapshot) (id : String) (platform : Platform) (url : String) :
    Except CompileError (Decision × Snapshot) :=
  s.query id platform (·.verdict url)

def allowsNavigation (s : Snapshot) (id : String) (platform : Platform) (url : String) :
    Except CompileError (Bool × Snapshot) :=
  s.query id platform (·.allowsNavigation url)

def allowsResource (s : Snapshot) (id : String) (platform : Platform) (url : String) :
    Except CompileError (Bool × Snapshot) :=
  s.query id platform (·.allowsResource url)

def nearestRoute (s : Snapshot) (id : String) (platform : Platform) (url : String) :
    Except CompileError (String × Snapshot) :=
  s.query id platform (·.nearestRoute url)

end Snapshot

end NavPolicy
