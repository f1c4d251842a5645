import NavPolicy.Policy.Bundled
import NavPolicy.Policy.Reader
import NavPolicy.Snapshot

/-!
# Policy caches

A cache serves a policy, which can be replaced at any time.  Whoever took a snapshot keeps
it, and goes on asking it, whatever is installed later.  Snapshots are numbered as they
are made, and the number is what a reader holds.  A document that is no policy is refused
as a whole, and the cache goes on serving what it served.
-/

namespace NavPolicy

open NavPolicy.Json

/-- A cache: the policy that it falls back on, and every snapshot that it made. -/
structure Cache where
  fallback : Policy
  options : Options
  /-- The snapshots that were replaced, oldest first. -/
  retired : List Snapshot
  /-- The snapshot in effect. -/
  current : Snapshot

namespace Cache

def new (fallback : Policy) (options : Options) : Cache where
  fallback := fallback
  options := options
  retired := []
  current := { policy := fallback, source := .default, options := options }

/-- A cache that serves the bundled policy until another one is installed. -/
def bundled : Cache := new .bundled {}

def currentNumber (c : Cache) : Nat := c.retired.length

/-- The snapshot with a number; one that was not made yet is the one in effect. -/
def snapshot (c : Cache) (number : Nat) : Snapshot := c.retired.getD number c.current

/-- The cache with another state of a snapshot. -/
def setSnapshot (c : Cache) (number : Nat) (s : Snapshot) : Cache :=
  if number < c.currentNumber then { c with retired := c.retired.set number s }
  else { c with current := s }

/-- Put a new snapshot into effect, with nothing compiled yet. -/
def replace (c : Cache) (policy : Policy) (source : PolicySource) : Cache :=
  { c with
    retired := c.retired ++ [c.current]
    current := { policy := policy, source := source, options := c.options } }

def install (c : Cache) (policy : Policy) : Cache := c.replace policy .refreshed

/-- Install the policy that a document holds. -/
def refresh (c : Cache) (doc : Value) : Except Policy.Invalid Cache :=
  (Policy.ofDocument doc).map c.install

/-- Serve the policy again that the cache falls back on. -/
def reset (c : Cache) : Cache := c.replace c.fallback .default

/-- Ask a snapshot, and keep what it remembers. -/
def ask {α : Type} (c : Cache) (number : Nat)
    (question : Snapshot → Except CompileError (α × Snapshot)) :
    Except CompileError (α × Cache) :=
  (question (c.snapshot number)).map fun r => (r.1, c.setSnapshot number r.2)

/-! ## What a number stands for -/

/-- The number of the snapshot in effect leads to it. -/
@[simp]
theorem snapshot_currentNumber (c : Cache) : c.snapshot c.currentNumber = c.current := by
  simp [snapshot, currentNumber]

/-- Whoever holds a number keeps the snapshot when another one is put into effect. -/
theorem snapshot_replace (c : Cache) (policy : Policy) (source : PolicySource) {number : Nat}
    (h : number ≤ c.currentNumber) :
    (c.replace policy source).snapshot number = c.snapshot number := by
  unfold currentNumber at h
  by_cases hlt : number < c.retired.length
  · simp [snapshot, replace, List.getElem?_append_left hlt, List.getElem?_eq_getElem hlt]
  · have heq : number = c.retired.length := by omega
    simp [snapshot, replace, heq]

@[simp]
theorem currentNumber_setSnapshot (c : Cache) (number : Nat) (s : Snapshot) :
    (c.setSnapshot number s).currentNumber = c.currentNumber := by
  unfold setSnapshot
  split
  · simp [currentNumber]
  · rfl

/-- A snapshot that was asked is found in its new state. -/
theorem snapshot_setSnapshot_self (c : Cache) {number : Nat} (h : number ≤ c.currentNumber)
    (s : Snapshot) : (c.setSnapshot number s).snapshot number = s := by
  unfold setSnapshot
  split
  · rename_i hlt
    simp [snapshot, currentNumber] at hlt ⊢
    simp [hlt]
  · rename_i hge
    have heq : number = c.retired.length := by
      unfold currentNumber at h hge
      omega
    simp [snapshot, heq]

/-- Asking one snapshot leaves the others as they are. -/
theorem snapshot_setSnapshot_of_ne (c : Cache) {number other : Nat} (hne : number ≠ other)
    (hnumber : number ≤ c.currentNumber) (hother : other ≤ c.currentNumber) (s : Snapshot) :
    (c.setSnapshot number s).snapshot other = c.snapshot other := by
  unfold currentNumber at hnumber hother
  unfold setSnapshot currentNumber
  split
  · simp [snapshot, List.getElem?_set_ne hne]
  · have hlt : other < c.retired.length := by omega
    simp [snapshot, hlt]

end Cache

end NavPolicy
