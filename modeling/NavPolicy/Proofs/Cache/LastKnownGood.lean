import Mathlib.Data.List.DropRight
import NavPolicy.Proofs.Cache.Runs

/-!
# The last known good policy

What a cache serves depends on its history in a simple way: only the actions behind the last
reset count, and of these only the ones that installed a policy.  The last policy among them
is in effect, and without any it is the one that the cache falls back on.  A refused document
is not part of that history.
-/

namespace NavPolicy.Cache

namespace Action

/-- The policy that an action installs; a document has to be one. -/
def installed? : Action → Option Policy
  | install policy => some policy
  | refresh doc => (Policy.ofDocument doc).toOption
  | _ => none

/-- Whether an action goes back to the policy that the cache falls back on. -/
def isReset : Action → Bool
  | reset => true
  | _ => false

/-- Whether an action puts another snapshot into effect. -/
def Replaces (a : Action) : Prop := a.isReset = true ∨ ∃ policy, a.installed? = some policy

end Action

/-- The actions behind the last reset, or all of them. -/
def sinceReset (actions : List Action) : List Action :=
  actions.rtakeWhile fun a => !a.isReset

/-- The policy that was installed last since the last reset, if any was. -/
def lastKnownGood? (actions : List Action) : Option Policy :=
  ((sinceReset actions).filterMap Action.installed?).getLast?

theorem lastKnownGood?_concat (actions : List Action) (a : Action) :
    lastKnownGood? (actions ++ [a]) =
      if a.isReset then none else a.installed?.or (lastKnownGood? actions) := by
  rw [lastKnownGood?, sinceReset, List.rtakeWhile_concat]
  cases a.isReset with
  | true => rfl
  | false => cases hinstalled : a.installed? <;> simp [lastKnownGood?, sinceReset, hinstalled]

theorem run_concat (c : Cache) (actions : List Action) (a : Action) :
    c.run (actions ++ [a]) = (c.run actions).perform a := by
  simp [run]

/-! ## One action -/

variable {c c' : Cache}

/-- A step that puts no other snapshot into effect keeps what the snapshot in effect serves. -/
theorem Step.keeps_current (h : c.Step c') (hnumber : c'.currentNumber = c.currentNumber) :
    c.current.Keeps c'.current := by
  obtain ⟨-, hkeeps⟩ := h.keeps (Nat.le_refl c.currentNumber)
  rwa [snapshot_currentNumber, ← hnumber, snapshot_currentNumber] at hkeeps

private theorem currentNumber_settle {α : Type} (c : Cache) (number : Nat)
    (question : Snapshot → Except CompileError (α × Snapshot)) :
    (c.settle (c.ask number question)).currentNumber = c.currentNumber := by
  rw [ask]
  cases question (c.snapshot number) with
  | error e => rfl
  | ok r => exact currentNumber_setSnapshot c number r.2

/-- An action that installs nothing and does not reset leaves the same snapshot in effect. -/
theorem currentNumber_perform {a : Action} (hreset : a.isReset = false)
    (hinstalled : a.installed? = none) : (c.perform a).currentNumber = c.currentNumber := by
  cases a with
  | install policy => cases hinstalled
  | refresh doc =>
      simp only [Action.installed?] at hinstalled
      simp only [perform, refresh]
      cases hdoc : Policy.ofDocument doc with
      | error e => rfl
      | ok policy => simp [hdoc, Except.toOption] at hinstalled
  | reset => cases hreset
  | request number id platform mode => exact currentNumber_settle c number _
  | verdict number id platform url => exact currentNumber_settle c number _
  | navigation number id platform url => exact currentNumber_settle c number _
  | resource number id platform url => exact currentNumber_settle c number _
  | route number id platform url => exact currentNumber_settle c number _

theorem perform_of_installed? {a : Action} {policy : Policy} (h : a.installed? = some policy) :
    c.perform a = c.install policy := by
  cases a with
  | install next =>
      cases h
      rfl
  | refresh doc =>
      simp only [Action.installed?] at h
      simp only [perform, refresh]
      cases hdoc : Policy.ofDocument doc with
      | error e => simp [hdoc, Except.toOption] at h
      | ok next =>
          simp only [hdoc, Except.toOption, Option.some.injEq] at h
          rw [h]
          rfl
  | _ => cases h

theorem perform_of_isReset {a : Action} (h : a.isReset = true) : c.perform a = c.reset := by
  cases a with
  | reset => rfl
  | _ => cases h

/-- What an action that replaces the snapshot in effect does, whatever policy it brings. -/
theorem exists_perform_eq_replace {a : Action} (h : a.Replaces) :
    ∃ policy source, c.perform a = c.replace policy source := by
  rcases h with hreset | ⟨policy, hinstalled⟩
  · exact ⟨c.fallback, .default, perform_of_isReset hreset⟩
  · exact ⟨policy, .refreshed, perform_of_installed? hinstalled⟩

/-! ## Whole runs -/

/-- What the snapshot in effect serves: a policy that was installed, or else the one that the
cache falls back on. -/
structure ServesGood (c : Cache) (fallback : Policy) (good : Option Policy) : Prop where
  policy : c.current.policy = good.getD fallback
  source : c.current.source = if good.isSome then .refreshed else .default

private theorem ServesGood.perform {fallback : Policy} {good : Option Policy}
    (h : c.ServesGood fallback good) (hfallback : c.fallback = fallback) (a : Action) :
    (c.perform a).ServesGood fallback (if a.isReset then none else a.installed?.or good) := by
  cases hreset : a.isReset with
  | true =>
      rw [perform_of_isReset hreset]
      exact ⟨hfallback, rfl⟩
  | false =>
      cases hinstalled : a.installed? with
      | some policy =>
          rw [perform_of_installed? hinstalled]
          exact ⟨rfl, rfl⟩
      | none =>
          have hkeeps := (step_perform c a).keeps_current (currentNumber_perform hreset hinstalled)
          exact ⟨hkeeps.policy.trans h.policy, hkeeps.source.trans h.source⟩

/-- After any run the snapshot in effect serves the last known good policy. -/
theorem servesGood_run (fallback : Policy) (o : Options) (actions : List Action) :
    ((new fallback o).run actions).ServesGood fallback (lastKnownGood? actions) := by
  -- From the end: a reset makes everything before it count for nothing.
  induction actions using List.reverseRecOn with
  | nil => exact ⟨rfl, rfl⟩
  | append_singleton actions a ih =>
      rw [run_concat, lastKnownGood?_concat]
      exact ih.perform (serves_run fallback o actions).fallback a

/-- After any run the policy that was installed last since the last reset is in effect, and the
fallback if none was.  A refused document is reported as such and leaves the whole cache as it
was; an installation or a reset always puts a new snapshot into effect that remembers nothing,
and every snapshot made before stays what it was. -/
theorem run_serves_last_known_good (fallback : Policy) (o : Options) (actions : List Action) :
    let c := (new fallback o).run actions
    (match lastKnownGood? actions with
      | some policy => c.current.policy = policy ∧ c.current.source = .refreshed
      | none => c.current.policy = fallback ∧ c.current.source = .default) ∧
    (∀ doc e, Policy.ofDocument doc = .error e →
      c.refresh doc = .error e ∧ c.perform (.refresh doc) = c) ∧
    (∀ a : Action, a.Replaces →
      (c.perform a).currentNumber = c.currentNumber + 1 ∧ (c.perform a).current.memo = [] ∧
        ∀ n ≤ c.currentNumber, (c.perform a).snapshot n = c.snapshot n) := by
  intro c
  refine ⟨?_, fun doc e hdoc => ?_, fun a ha => ?_⟩
  · have hserves : c.ServesGood fallback (lastKnownGood? actions) :=
      servesGood_run fallback o actions
    cases hgood : lastKnownGood? actions with
    | none =>
        rw [hgood] at hserves
        exact ⟨hserves.policy, hserves.source⟩
    | some policy =>
        rw [hgood] at hserves
        exact ⟨hserves.policy, hserves.source⟩
  · have hrefused : c.refresh doc = .error e := by
      rw [refresh, hdoc]
      rfl
    exact ⟨hrefused, by rw [perform, hrefused]⟩
  · obtain ⟨policy, source, hreplace⟩ := exists_perform_eq_replace (c := c) ha
    rw [hreplace]
    exact ⟨currentNumber_replace c policy source, rfl,
      fun n hn => snapshot_replace c policy source hn⟩

end NavPolicy.Cache
