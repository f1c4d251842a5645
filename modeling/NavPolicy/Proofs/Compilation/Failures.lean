import NavPolicy.Proofs.Compilation.EntryPoints
import NavPolicy.Proofs.Compilation.Enforcement

/-!
# Where compiling fails

Rules and scripts can always be written.  So a destination is refused only for its start, and a
policy only for the start of the first destination that is refused.  Where nothing is refused,
every destination has its entry, in the order of the policy.
-/

namespace NavPolicy

open NavPolicy.Json

namespace Destination

variable {d : Destination} {platform : Platform} {mode : Option String} {o : Options}
  {e : CompileError}

/-- Whether an error says that the start of a destination is no address: it carries the start
as it is written, and the reason. -/
def IsRefused (d : Destination) (e : CompileError) : Prop :=
  ∃ reason, Url.parse d.start = .error reason ∧ e = .invalidStart d.start reason

theorem startUrl_eq_error_iff : d.startUrl = .error e ↔ d.IsRefused e := by
  rw [startUrl, IsRefused]
  cases Url.parse d.start <;> simp [eq_comm]

/-- Compiling fails in one way only: the start is refused. -/
theorem compile_eq_error_iff : d.compile platform mode o = .error e ↔ d.IsRefused e := by
  rw [← startUrl_eq_error_iff, compile_eq, map_eq_error]

theorem compileAll_eq_error_iff : d.compileAll mode o = .error e ↔ d.IsRefused e := by
  rw [← startUrl_eq_error_iff]
  simp only [compileAll, compile_eq]
  cases d.startUrl <;> simp [bind, Except.bind, pure, Except.pure, Except.map]

theorem quickActions_of_compileAll {c : CompiledDestination} (h : d.compileAll mode o = .ok c) :
    c.quickActions = d.quickActions.getD [] := by
  obtain ⟨ios, -, h⟩ := bind_eq_ok.1 h
  obtain ⟨android, -, h⟩ := bind_eq_ok.1 h
  obtain ⟨desktop, -, h⟩ := bind_eq_ok.1 h
  cases h
  rfl

end Destination

/-- Whether some member of a list has a property `Q` and all members before it have `P`. -/
def FirstWith {α : Type} (P Q : α → Prop) (xs : List α) : Prop :=
  ∃ before x after, xs = before ++ x :: after ∧ (∀ b ∈ before, P b) ∧ Q x

section FirstWith

variable {α : Type} {P Q : α → Prop}

private theorem firstWith_nil : ¬FirstWith P Q [] := by
  rintro ⟨before, x, after, hsplit, -⟩
  simp at hsplit

private theorem firstWith_cons {x : α} {xs : List α} :
    FirstWith P Q (x :: xs) ↔ Q x ∨ P x ∧ FirstWith P Q xs := by
  constructor
  · rintro ⟨before, y, after, hsplit, hbefore, hy⟩
    cases before with
    | nil =>
        cases hsplit
        exact Or.inl hy
    | cons b before =>
        cases hsplit
        rw [List.forall_mem_cons] at hbefore
        exact Or.inr ⟨hbefore.1, before, y, after, rfl, hbefore.2, hy⟩
  · rintro (hx | ⟨hx, before, y, after, rfl, hbefore, hy⟩)
    · exact ⟨[], x, xs, rfl, List.forall_mem_nil _, hx⟩
    · exact ⟨x :: before, y, after, rfl, List.forall_mem_cons.2 ⟨hx, hbefore⟩, hy⟩

end FirstWith

namespace Policy

/-! ## One destination after the other -/

section Each

variable {ε α : Type} {each : String → Destination → Except ε α} {ds : Ordered Destination}

/-- All are compiled exactly if each is, under its own name. -/
theorem compileEach_eq_ok {found : Ordered α} :
    compileEach each ds = .ok found ↔
      List.Forall₂ (fun x y => y.1 = x.1 ∧ each x.1 x.2 = .ok y.2) ds found := by
  induction ds generalizing found with
  | nil => cases found <;> simp [compileEach]
  | cons x ds ih =>
      rw [compileEach, List.forall₂_cons_left_iff]
      simp only [← ih]
      cases hx : each x.1 x.2 with
      | error e => simp
      | ok a =>
          rw [map_eq_ok]
          constructor
          · rintro ⟨rest, hrest, rfl⟩
            exact ⟨(x.1, a), rest, ⟨rfl, rfl⟩, hrest, rfl⟩
          · rintro ⟨y, rest, ⟨hname, ha⟩, hrest, rfl⟩
            cases ha
            exact ⟨rest, hrest, by rw [← hname]⟩

/-- The first destination that fails gives the error. -/
theorem compileEach_eq_error_iff {e : ε} :
    compileEach each ds = .error e ↔
      FirstWith (fun x => ∃ a, each x.1 x.2 = .ok a) (fun x => each x.1 x.2 = .error e) ds := by
  induction ds with
  | nil => simp [compileEach, firstWith_nil]
  | cons x ds ih =>
      rw [firstWith_cons, ← ih, compileEach]
      cases each x.1 x.2 with
      | error e' => simp
      | ok a => simp [map_eq_error]

end Each

/-! ## Whole policies -/

/-- Whether an error is the refusal of the first destination that is refused. -/
def IsFirstRefusal (p : Policy) (e : CompileError) : Prop :=
  FirstWith (fun x => x.2.Starts) (fun x => x.2.IsRefused e) p.destinations

/-- What becomes of one destination: it is not found if there is none of that name, and is
refused for its start or compiled otherwise. -/
structure SettlesOne (p : Policy) (id : String) (result : Except CompileError Compilation) :
    Prop where
  notFound : result = .error (.destinationNotFound id) ↔ id ∉ p.ids
  refused : ∀ d, p.destination? id = some d → ∀ e, result = .error e ↔ d.IsRefused e
  compiled : ∀ d, p.destination? id = some d → d.Starts → ∃ a, result = .ok (.single a)

/-- What becomes of a whole policy: it fails with the refusal of the first destination that is
refused, and succeeds where none is. -/
structure SettlesAll {α : Type} (p : Policy) (result : Except CompileError α) : Prop where
  failed_iff : (∃ e, result = .error e) ↔ ∃ x ∈ p.destinations, ¬x.2.Starts
  refused : ∀ e, result = .error e ↔ p.IsFirstRefusal e

variable {p : Policy} {o : Options} {platform : Platform}

private theorem mem_ids_iff {id : String} : id ∈ p.ids ↔ ∃ d, p.destination? id = some d := by
  rw [← Option.ne_none_iff_exists', destination?, ne_eq, Ordered.get?_eq_none_iff, not_not]
  rfl

private theorem settlesOne_compile (p : Policy) (platform : Platform) (o : Options) (id : String) :
    p.SettlesOne id (p.compile platform (some id) o) := by
  cases hd : p.destination? id with
  | none =>
      have hresult : p.compile platform (some id) o = .error (.destinationNotFound id) := by
        simp only [compile, compileOne, destination, hd]
        rfl
      rw [hresult]
      exact {
        notFound := by simp [mem_ids_iff, hd]
        refused := fun d h => by simp [hd] at h
        compiled := fun d h => by simp [hd] at h }
  | some d =>
      rw [compile_some hd]
      exact {
        notFound := by
          rw [map_eq_error, Destination.compile_eq_error_iff]
          simp [mem_ids_iff, hd, Destination.IsRefused]
        refused := by
          intro d' hd' e
          cases hd.symm.trans hd'
          rw [map_eq_error, Destination.compile_eq_error_iff]
        compiled := by
          intro d' hd' hstarts
          cases hd.symm.trans hd'
          obtain ⟨a, ha⟩ := Destination.exists_compile_iff.2 hstarts
          exact ⟨a, by rw [ha]; rfl⟩ }

/-- The policy is settled by what settles each destination. -/
theorem settlesAll_compileEach {α β : Type} {each : String → Destination → Except CompileError α}
    (hok : ∀ id d, (∃ a, each id d = .ok a) ↔ d.Starts)
    (herror : ∀ id d e, each id d = .error e ↔ d.IsRefused e) (f : Ordered α → β) :
    p.SettlesAll ((compileEach each p.destinations).map f) where
  failed_iff := by
    have hfailed : (∃ e, (compileEach each p.destinations).map f = .error e) ↔
        ¬∃ found, compileEach each p.destinations = .ok found := by
      cases compileEach each p.destinations <;> simp [Except.map]
    rw [hfailed, exists_compileEach_iff]
    simp only [hok]
    push Not
    rfl
  refused := by
    intro e
    rw [map_eq_error, compileEach_eq_error_iff, IsFirstRefusal]
    simp only [hok, herror]

/-- What becomes of one destination or of a whole policy, for one platform or for all of them.  A
destination that is not there is not found; any other failure is the refusal of a start, the
first one where all destinations are compiled; and where nothing is refused every destination has
its entry, in the order of the policy.  That rules or a script cannot be written is never the
reason, for each list of rules and each script has a text. -/
theorem compile_settles (p : Policy) (platform : Platform) (o : Options) :
    (∀ rules, ∃ list, Artifact.ContentRuleList.ofRules rules = .ok list) ∧
    (∀ spec : Script.Spec, ∃ script, spec.render = .ok script) ∧
    (∀ id, p.SettlesOne id (p.compile platform (some id) o)) ∧
    p.SettlesAll (p.compile platform none o) ∧
    (∀ c, p.compile platform none o = .ok c → ∃ artifacts, c = .all artifacts ∧
      Ordered.names artifacts = p.ids ∧
      List.Forall₂ (fun x y => y.1 = x.1 ∧
        x.2.compile platform (p.defaultMode? x.1) o = .ok y.2) p.destinations artifacts) ∧
    p.SettlesAll (p.compileAll o) ∧
    ∀ c, p.compileAll o = .ok c → c.version = p.version ∧
      Ordered.names c.destinations = p.ids ∧
      List.Forall₂ (fun x y => y.1 = x.1 ∧
        (∀ platform, x.2.compile platform (p.defaultMode? x.1) o = .ok (y.2.artifact platform)) ∧
          y.2.quickActions = x.2.quickActions.getD []) p.destinations c.destinations := by
  refine ⟨fun rules => ⟨_, Artifact.ContentRuleList.ofRules_eq rules⟩,
    fun spec => ⟨_, spec.render_eq⟩, settlesOne_compile p platform o, ?_, ?_, ?_, ?_⟩
  · exact settlesAll_compileEach (fun id d => Destination.exists_compile_iff)
      (fun id d e => Destination.compile_eq_error_iff) Compilation.all
  · intro c h
    obtain ⟨artifacts, hall, rfl⟩ := map_eq_ok.1 h
    exact ⟨artifacts, rfl, names_compileEach hall, compileEach_eq_ok.1 hall⟩
  · exact settlesAll_compileEach (fun id d => Destination.exists_compileAll_iff)
      (fun id d e => Destination.compileAll_eq_error_iff) (CompiledPolicy.mk p.version)
  · intro c h
    obtain ⟨found, hall, rfl⟩ := map_eq_ok.1 h
    refine ⟨rfl, names_compileEach hall, (compileEach_eq_ok.1 hall).imp ?_⟩
    rintro x y ⟨hname, hcompile⟩
    exact ⟨hname, Destination.compile_eq_artifact hcompile,
      Destination.quickActions_of_compileAll hcompile⟩

end Policy

end NavPolicy
