import NavPolicy.Cache
import NavPolicy.Proofs.Cache.Faithful

/-!
# Runs of a cache

What can be done with a cache, one action after another: policies are installed, refreshed
from documents and reset, and snapshots are asked, be it the one in effect or one that was
taken before.  An action keeps every snapshot that was made before it, and at most one more
snapshot comes into effect.
-/

namespace NavPolicy.Cache

open NavPolicy.Json

/-- What can be done with a cache.  A question names the snapshot that it asks; to take the
snapshot in effect changes nothing. -/
inductive Action where
  | install (policy : Policy)
  | refresh (doc : Value)
  | reset
  | request (number : Nat) (id : String) (platform : Platform) (mode : Option String)
  | verdict (number : Nat) (id : String) (platform : Platform) (url : String)
  | navigation (number : Nat) (id : String) (platform : Platform) (url : String)
  | resource (number : Nat) (id : String) (platform : Platform) (url : String)
  | route (number : Nat) (id : String) (platform : Platform) (url : String)

/-- The cache after a question: one that failed left nothing behind. -/
def settle {α : Type} (c : Cache) : Except CompileError (α × Cache) → Cache
  | .ok r => r.2
  | .error _ => c

def perform (c : Cache) : Action → Cache
  | .install policy => c.install policy
  | .refresh doc =>
    match c.refresh doc with
    | .ok c' => c'
    | .error _ => c
  | .reset => c.reset
  | .request number id platform mode => c.settle (c.ask number (·.request id platform mode))
  | .verdict number id platform url => c.settle (c.ask number (·.verdict id platform url))
  | .navigation number id platform url =>
    c.settle (c.ask number (·.allowsNavigation id platform url))
  | .resource number id platform url => c.settle (c.ask number (·.allowsResource id platform url))
  | .route number id platform url => c.settle (c.ask number (·.nearestRoute id platform url))

def run (c : Cache) (actions : List Action) : Cache := actions.foldl perform c

def Action.served (fallback current : Policy) : Action → Policy
  | install policy => policy
  | refresh doc =>
    match Policy.ofDocument doc with
    | .ok policy => policy
    | .error _ => current
  | reset => fallback
  | _ => current

/-- The policy in effect after actions. -/
def served (fallback : Policy) (actions : List Action) : Policy :=
  actions.foldl (fun current a => a.served fallback current) fallback

/-! ## Steps -/

/-- What an action may do: nothing, put a new snapshot into effect, or ask one. -/
inductive Step (c : Cache) : Cache → Prop where
  | stay : Step c c
  | replaced (policy : Policy) (source : PolicySource) : Step c (c.replace policy source)
  | asked (number : Nat) {s : Snapshot} (hkeeps : (c.snapshot number).Keeps s) :
      Step c (c.setSnapshot number s)

private theorem step_settle {α : Type} (c : Cache) (number : Nat)
    {question : Snapshot → Except CompileError (α × Snapshot)}
    (hkeeps : ∀ s r, question s = .ok r → s.Keeps r.2) :
    c.Step (c.settle (c.ask number question)) := by
  rw [ask]
  cases hanswer : question (c.snapshot number) with
  | error e => exact .stay
  | ok r => exact .asked number (hkeeps _ _ hanswer)

/-- Every action is a step of the cache. -/
theorem step_perform (c : Cache) (a : Action) : c.Step (c.perform a) := by
  cases a with
  | install policy => exact .replaced policy .refreshed
  | refresh doc =>
      simp only [perform, refresh]
      cases Policy.ofDocument doc with
      | error e => exact .stay
      | ok policy => exact .replaced policy .refreshed
  | reset => exact .replaced c.fallback .default
  | request number id platform mode => exact step_settle c number fun _ _ => Snapshot.request_keeps
  | verdict number id platform url => exact step_settle c number fun _ _ => Snapshot.query_keeps
  | navigation number id platform url => exact step_settle c number fun _ _ => Snapshot.query_keeps
  | resource number id platform url => exact step_settle c number fun _ _ => Snapshot.query_keeps
  | route number id platform url => exact step_settle c number fun _ _ => Snapshot.query_keeps

/-- Each replacement is counted. -/
theorem currentNumber_replace (c : Cache) (policy : Policy) (source : PolicySource) :
    (c.replace policy source).currentNumber = c.currentNumber + 1 := by
  simp [currentNumber, replace]

/-- A number that was not given yet stands for the snapshot in effect. -/
theorem snapshot_of_le (c : Cache) {number : Nat} (h : c.currentNumber ≤ number) :
    c.snapshot number = c.current := by
  rw [currentNumber] at h
  simp [snapshot, h]

/-- A number that was not given out yet stands for the snapshot in effect. -/
theorem setSnapshot_of_le (c : Cache) {number : Nat} (h : c.currentNumber ≤ number)
    (s : Snapshot) : c.setSnapshot number s = { c with current := s } := by
  simp [setSnapshot, Nat.not_lt.2 h]

theorem setSnapshot_of_lt (c : Cache) {number : Nat} (h : number < c.currentNumber)
    (s : Snapshot) : c.setSnapshot number s = { c with retired := c.retired.set number s } := by
  simp [setSnapshot, h]

/-- Asking a snapshot keeps all of them. -/
theorem setSnapshot_keeps (c : Cache) {number n : Nat} {s : Snapshot}
    (hkeeps : (c.snapshot number).Keeps s) (hn : n ≤ c.currentNumber) :
    (c.snapshot n).Keeps ((c.setSnapshot number s).snapshot n) := by
  by_cases hlt : number < c.currentNumber
  · by_cases hsame : number = n
    · subst hsame
      rw [snapshot_setSnapshot_self c hn]
      exact hkeeps
    · rw [snapshot_setSnapshot_of_ne c hsame (Nat.le_of_lt hlt) hn]
      exact .refl _
  · have hge := Nat.le_of_not_lt hlt
    rw [snapshot_of_le c hge] at hkeeps
    rw [setSnapshot_of_le c hge]
    by_cases hcurrent : n = c.currentNumber
    · subst hcurrent
      have hasked : ({ c with current := s } : Cache).snapshot c.currentNumber = s :=
        snapshot_currentNumber { c with current := s }
      rw [snapshot_currentNumber, hasked]
      exact hkeeps
    · have hretired : n < c.retired.length := by
        unfold currentNumber at hn hcurrent
        omega
      have hother : ({ c with current := s } : Cache).snapshot n = c.snapshot n := by
        simp [snapshot, hretired]
      rw [hother]
      exact .refl _

/-- A step keeps every snapshot that was made before it. -/
theorem Step.keeps {c c' : Cache} (h : c.Step c') {n : Nat} (hn : n ≤ c.currentNumber) :
    n ≤ c'.currentNumber ∧ (c.snapshot n).Keeps (c'.snapshot n) := by
  cases h with
  | stay => exact ⟨hn, .refl _⟩
  | replaced policy source =>
      rw [currentNumber_replace, snapshot_replace c policy source hn]
      exact ⟨Nat.le_succ_of_le hn, .refl _⟩
  | asked number hkeeps =>
      rw [currentNumber_setSnapshot]
      exact ⟨hn, setSnapshot_keeps c hkeeps hn⟩

/-- A run keeps every snapshot that was made before it. -/
theorem run_keeps (c : Cache) (actions : List Action) {n : Nat} (hn : n ≤ c.currentNumber) :
    n ≤ (c.run actions).currentNumber ∧ (c.snapshot n).Keeps ((c.run actions).snapshot n) := by
  induction actions generalizing c with
  | nil => exact ⟨hn, .refl _⟩
  | cons a actions ih =>
      obtain ⟨hstep, hkeeps⟩ := (step_perform c a).keeps hn
      obtain ⟨hrun, hrest⟩ := ih (c.perform a) hstep
      exact ⟨hrun, hkeeps.trans hrest⟩

/-! ## The snapshot in effect -/

/-- What holds of a cache at any time: it keeps its options and the policy it falls back on,
and the snapshot in effect serves a policy faithfully. -/
structure Serves (c : Cache) (fallback : Policy) (o : Options) (policy : Policy) : Prop where
  fallback : c.fallback = fallback
  options : c.options = o
  policy : c.current.policy = policy
  current : c.current.options = o
  faithful : c.current.Faithful

theorem serves_new (fallback : Policy) (o : Options) :
    (new fallback o).Serves fallback o fallback where
  fallback := rfl
  options := rfl
  policy := rfl
  current := rfl
  faithful := by
    intro e he
    cases he

private theorem Serves.replace {c : Cache} {fallback policy : Policy} {o : Options}
    (h : c.Serves fallback o policy) (next : Policy) (source : PolicySource) :
    (c.replace next source).Serves fallback o next where
  fallback := h.fallback
  options := h.options
  policy := rfl
  current := h.options
  faithful := by
    intro e he
    cases he

private theorem Serves.setSnapshot {c : Cache} {fallback policy : Policy} {o : Options}
    (h : c.Serves fallback o policy) {number : Nat} {s : Snapshot}
    (hkeeps : (c.snapshot number).Keeps s) :
    (c.setSnapshot number s).Serves fallback o policy := by
  by_cases hlt : number < c.currentNumber
  · rw [setSnapshot_of_lt c hlt]
    exact ⟨h.fallback, h.options, h.policy, h.current, h.faithful⟩
  · have hge := Nat.le_of_not_lt hlt
    rw [snapshot_of_le c hge] at hkeeps
    rw [setSnapshot_of_le c hge]
    exact ⟨h.fallback, h.options, hkeeps.policy.trans h.policy, hkeeps.options.trans h.current,
      hkeeps.faithful h.faithful⟩

private theorem Serves.settle {α : Type} {c : Cache} {fallback policy : Policy} {o : Options}
    (h : c.Serves fallback o policy) (number : Nat)
    {question : Snapshot → Except CompileError (α × Snapshot)}
    (hkeeps : ∀ s r, question s = .ok r → s.Keeps r.2) :
    (c.settle (c.ask number question)).Serves fallback o policy := by
  rw [ask]
  cases hanswer : question (c.snapshot number) with
  | error e => exact h
  | ok r => exact h.setSnapshot (hkeeps _ _ hanswer)

/-- An action puts into effect what it should. -/
theorem Serves.perform {c : Cache} {fallback policy : Policy} {o : Options}
    (h : c.Serves fallback o policy) (a : Action) :
    (c.perform a).Serves fallback o (a.served fallback policy) := by
  cases a with
  | install next => exact h.replace next .refreshed
  | refresh doc =>
      simp only [Cache.perform, refresh, Action.served]
      cases Policy.ofDocument doc with
      | error e => exact h
      | ok next => exact h.replace next .refreshed
  | reset =>
      change (c.replace c.fallback .default).Serves fallback o fallback
      rw [h.fallback]
      exact h.replace fallback .default
  | request number id platform mode => exact h.settle number fun _ _ => Snapshot.request_keeps
  | verdict number id platform url => exact h.settle number fun _ _ => Snapshot.query_keeps
  | navigation number id platform url => exact h.settle number fun _ _ => Snapshot.query_keeps
  | resource number id platform url => exact h.settle number fun _ _ => Snapshot.query_keeps
  | route number id platform url => exact h.settle number fun _ _ => Snapshot.query_keeps

/-- After any run the snapshot in effect serves what was put into effect last. -/
theorem serves_run (fallback : Policy) (o : Options) (actions : List Action) :
    ((new fallback o).run actions).Serves fallback o (served fallback actions) := by
  have hrun : ∀ (c : Cache) (policy : Policy), c.Serves fallback o policy →
      (c.run actions).Serves fallback o
        (actions.foldl (fun current a => a.served fallback current) policy) := by
    induction actions with
    | nil => exact fun c policy h => h
    | cons a actions ih => exact fun c policy h => ih _ _ (h.perform a)
  exact hrun _ _ (serves_new fallback o)

end NavPolicy.Cache
