import NavPolicy.Proofs.Cache.Runs

/-!
# What snapshots answer

A snapshot that was taken from a cache answers every question as if it compiled the policy
it was made for anew, however often it or others were asked, and whatever was installed since.
-/

namespace NavPolicy.Cache

/-- Asking for a part of an answer is taking that part of the answer. -/
theorem map_ask {α β : Type} (c : Cache) (number : Nat)
    (question : Snapshot → Except CompileError (α × Snapshot)) (f : α → β) :
    (c.ask number question).map (fun r => f r.1) =
      (question (c.snapshot number)).map fun r => f r.1 := by
  rw [ask]
  cases question (c.snapshot number) <;> rfl

/-- A snapshot that was in effect after some run, as it is after any further run: it still
serves what was in effect, and faithfully. -/
theorem taken_serves (fallback : Policy) (o : Options) (before after : List Action) :
    let taken := (new fallback o).run before
    let s := (taken.run after).snapshot taken.currentNumber
    s.policy = served fallback before ∧ s.options = o ∧ s.Faithful := by
  intro taken s
  have hserves := serves_run fallback o before
  obtain ⟨-, hkeeps⟩ := run_keeps taken after (Nat.le_refl taken.currentNumber)
  rw [snapshot_currentNumber] at hkeeps
  exact ⟨hkeeps.policy.trans hserves.policy, hkeeps.options.trans hserves.current,
    hkeeps.faithful hserves.faithful⟩

section Taken

variable (fallback : Policy) (o : Options) (before after : List Action)

/-- What a reader is answered depends on the policy that was served when it took its snapshot, and
on nothing that was done before or since. -/
theorem taken_request_eq (id : String) (platform : Platform) (mode : Option String) :
    ((((new fallback o).run before).run after).ask ((new fallback o).run before).currentNumber
        (·.request id platform mode)).map (fun r => r.1.artifact) =
      (served fallback before).compiled o id platform mode := by
  obtain ⟨hpolicy, hoptions, hfaithful⟩ := taken_serves fallback o before after
  have hrequest := hfaithful.request_eq id platform mode
  rw [hpolicy, hoptions] at hrequest
  rw [← hrequest]
  exact map_ask _ _ _ Memo.Entry.artifact

/-- A query is answered like a request without a mode. -/
theorem taken_query_eq {α : Type} (question : Artifact → α) (id : String) (platform : Platform) :
    ((((new fallback o).run before).run after).ask ((new fallback o).run before).currentNumber
        (·.query id platform question)).map Prod.fst =
      ((served fallback before).compiled o id platform none).map question := by
  obtain ⟨hpolicy, hoptions, hfaithful⟩ := taken_serves fallback o before after
  have hquery := hfaithful.query_eq id platform question
  rw [hpolicy, hoptions] at hquery
  rw [← hquery]
  exact map_ask _ _ _ fun a => a

/-- A snapshot that is taken after any run answers, after any further run, as a fresh
compilation of the policy that was in effect when it was taken. -/
theorem taken_answers (fallback : Policy) (o : Options) (before after : List Action) :
    let taken := (new fallback o).run before
    let later := taken.run after
    let p := served fallback before
    (∀ id platform mode,
      (later.ask taken.currentNumber (·.request id platform mode)).map (fun r => r.1.artifact) =
        p.compiled o id platform mode) ∧
    (∀ id platform url,
      (later.ask taken.currentNumber (·.verdict id platform url)).map Prod.fst =
        (p.compiled o id platform none).map (·.verdict url)) ∧
    (∀ id platform url,
      (later.ask taken.currentNumber (·.allowsNavigation id platform url)).map Prod.fst =
        (p.compiled o id platform none).map (·.allowsNavigation url)) ∧
    (∀ id platform url,
      (later.ask taken.currentNumber (·.allowsResource id platform url)).map Prod.fst =
        (p.compiled o id platform none).map (·.allowsResource url)) ∧
    (∀ id platform url,
      (later.ask taken.currentNumber (·.nearestRoute id platform url)).map Prod.fst =
        (p.compiled o id platform none).map (·.nearestRoute url)) := by
  refine ⟨?_, ?_, ?_, ?_, ?_⟩
  · exact fun id platform mode => taken_request_eq fallback o before after id platform mode
  · exact fun id platform url => taken_query_eq fallback o before after (·.verdict url) id platform
  · exact fun id platform url =>
      taken_query_eq fallback o before after (·.allowsNavigation url) id platform
  · exact fun id platform url =>
      taken_query_eq fallback o before after (·.allowsResource url) id platform
  · exact fun id platform url =>
      taken_query_eq fallback o before after (·.nearestRoute url) id platform

end Taken

end NavPolicy.Cache
