import NavPolicy.Proofs.Artifact.Compiled
import NavPolicy.Proofs.Cache.Transparency
import NavPolicy.Proofs.Policy.Content
import NavPolicy.Proofs.Url.Refusal

/-!
# Which policies can be enforced

Compiling fails only at the start of a destination, where it is no address.  The check of a
policy document asks for an absolute identifier there, which need not be one: its authority
may name a host or a port that no address has.
-/

namespace NavPolicy

open NavPolicy.Json

/-- A destination is compiled for every platform if its start is an address. -/
theorem Destination.exists_compileAll_iff {d : Destination} {mode : Option String} {o : Options} :
    (∃ c, d.compileAll mode o = .ok c) ↔ d.Starts := by
  simp only [compileAll, compile_eq, startUrl, Starts]
  cases Url.parse d.start <;> simp [bind, Except.bind, pure, Except.pure, Except.map]

namespace Policy

/-- All destinations are compiled if each of them can be. -/
theorem exists_compileEach_iff {ε α : Type} {each : String → Destination → Except ε α}
    {ds : Ordered Destination} :
    (∃ found, compileEach each ds = .ok found) ↔ ∀ e ∈ ds, ∃ a, each e.1 e.2 = .ok a := by
  induction ds with
  | nil => simp [compileEach]
  | cons e ds ih =>
      obtain ⟨id, d⟩ := e
      rw [List.forall_mem_cons, ← ih]
      simp only [compileEach]
      cases each id d with
      | error e => simp
      | ok a => simp [exists_map_eq_ok]

variable {p : Policy} {o : Options}

theorem exists_compileAll_iff :
    (∃ c, p.compileAll o = .ok c) ↔ ∀ e ∈ p.destinations, e.2.Starts := by
  rw [compileAll, exists_map_eq_ok, exists_compileEach_iff]
  simp only [Destination.exists_compileAll_iff]

theorem exists_compile_none_iff (platform : Platform) :
    (∃ c, p.compile platform none o = .ok c) ↔ ∀ e ∈ p.destinations, e.2.Starts := by
  simp only [compile]
  rw [exists_map_eq_ok, exists_compileEach_iff]
  simp only [Destination.exists_compile_iff]

theorem exists_compile_some_iff {id : String} {d : Destination} (hd : p.destination? id = some d)
    (platform : Platform) : (∃ c, p.compile platform (some id) o = .ok c) ↔ d.Starts := by
  simp only [compile, compileOne, destination, hd]
  rw [exists_map_eq_ok]
  exact Destination.exists_compile_iff

theorem exists_compiled_iff {id : String} {d : Destination} (hd : p.destination? id = some d)
    (platform : Platform) (mode : Option String) :
    (∃ a, p.compiled o id platform mode = .ok a) ↔ d.Starts := by
  simp only [compiled, hd]
  exact Destination.exists_compile_iff

end Policy

/-- Whether a snapshot of a cache answers every question about a destination. -/
structure Cache.Answers (c : Cache) (number : Nat) (id : String) : Prop where
  request : ∀ platform mode, ∃ r, c.ask number (·.request id platform mode) = .ok r
  verdict : ∀ platform url, ∃ r, c.ask number (·.verdict id platform url) = .ok r
  navigation : ∀ platform url, ∃ r, c.ask number (·.allowsNavigation id platform url) = .ok r
  resource : ∀ platform url, ∃ r, c.ask number (·.allowsResource id platform url) = .ok r
  route : ∀ platform url, ∃ r, c.ask number (·.nearestRoute id platform url) = .ok r

/-- A snapshot that was taken answers every question about a destination, now and later, if
the destination starts at an address, and none otherwise. -/
theorem Cache.taken_answers_iff (fallback : Policy) (o : Options) (before after : List Action)
    {id : String} {d : Destination} (hd : (served fallback before).destination? id = some d) :
    (((new fallback o).run before).run after).Answers
      ((new fallback o).run before).currentNumber id ↔ d.Starts := by
  have hrequest : ∀ platform mode, (∃ r, (((new fallback o).run before).run after).ask
      ((new fallback o).run before).currentNumber (·.request id platform mode) = .ok r) ↔
        d.Starts := by
    intro platform mode
    rw [← exists_map_eq_ok (f := fun r => r.1.artifact), taken_request_eq]
    exact Policy.exists_compiled_iff hd platform mode
  have hquery : ∀ {α : Type} (question : Artifact → α) platform,
      (∃ r, (((new fallback o).run before).run after).ask
        ((new fallback o).run before).currentNumber (·.query id platform question) = .ok r) ↔
          d.Starts := by
    intro α question platform
    rw [← exists_map_eq_ok (f := Prod.fst), taken_query_eq, exists_map_eq_ok]
    exact Policy.exists_compiled_iff hd platform none
  constructor
  · intro h
    exact (hrequest .ios none).1 (h.request .ios none)
  · intro h
    exact {
      request := fun platform mode => (hrequest platform mode).2 h
      verdict := fun platform url => (hquery (·.verdict url) platform).2 h
      navigation := fun platform url => (hquery (·.allowsNavigation url) platform).2 h
      resource := fun platform url => (hquery (·.allowsResource url) platform).2 h
      route := fun platform url => (hquery (·.nearestRoute url) platform).2 h }

/-- A refresh that is accepted puts the policy of the document into effect. -/
theorem Cache.served_refresh {doc : Value} {p : Policy} (h : Policy.ofDocument doc = .ok p)
    (fallback : Policy) (before : List Action) :
    served fallback (before ++ [.refresh doc]) = p := by
  simp [served, Action.served, h]

/-! ## Documents -/

/-- What is enforced of a policy that a document holds: each way to compile it succeeds where
the starts that it needs are addresses. A start that is none is refused for its authority,
when no object of the document names a member twice. -/
theorem enforced_iff_starts {doc : Value} {p : Policy}
    (hvalid : Policy.ofDocument doc = .ok p) (o : Options) :
    ((∃ c, p.compileAll o = .ok c) ↔ ∀ e ∈ p.destinations, e.2.Starts) ∧
    (∀ platform, (∃ c, p.compile platform none o = .ok c) ↔
      ∀ e ∈ p.destinations, e.2.Starts) ∧
    (∀ id d, p.destination? id = some d →
      (∀ platform, (∃ c, p.compile platform (some id) o = .ok c) ↔ d.Starts) ∧
      ∀ fallback before after,
        let taken := (Cache.new fallback o).run (before ++ [.refresh doc])
        (taken.run after).Answers taken.currentNumber id ↔ d.Starts) ∧
    (doc.Distinct → ∀ e ∈ p.destinations, Uri.isAbsolute e.2.start.toList = true ∧
      ∀ reason, Url.parse e.2.start = .error reason →
        reason ≠ .relativeWithoutBase ∧ ∃ scheme rest,
          Url.splitScheme? (Url.significant e.2.start.toList) = some (scheme, rest) ∧
            (Url.schemeKind (String.ofList scheme) ≠ .other ∨
              ∃ more, rest = '/' :: '/' :: more)) := by
  refine ⟨Policy.exists_compileAll_iff, Policy.exists_compile_none_iff, ?_, ?_⟩
  · intro id d hd
    refine ⟨Policy.exists_compile_some_iff hd, fun fallback before after => ?_⟩
    refine Cache.taken_answers_iff fallback o (before ++ [.refresh doc]) after ?_
    rw [Cache.served_refresh hvalid]
    exact hd
  · intro hdistinct e he
    have habsolute := Policy.isAbsolute_start hdistinct hvalid e he
    exact ⟨habsolute, fun reason => Url.refusal_of_isAbsolute habsolute⟩

/-- A document whose only destination starts at a port that there is not. -/
def portDocument : Value :=
  .object [("version", .string "1"),
    ("destinations", .object [("a", .object [("start", .string "https://host:99999/"),
      ("allow", .array [.string "/"]), ("block", .array [])])])]

def portPolicy : Policy where
  version := "1"
  destinations := [("a", { start := "https://host:99999/", allow := ["/"], block := [] })]

private theorem distinct_portDocument : portDocument.Distinct := by
  have hstart : Value.Distinct (.object [("start", .string "https://host:99999/"),
      ("allow", .array [.string "/"]), ("block", .array [])]) := by
    refine .object (by decide) fun m hm => ?_
    simp only [List.mem_cons, List.not_mem_nil, or_false] at hm
    rcases hm with rfl | rfl | rfl
    · exact .string _
    · refine .array fun v hv => ?_
      rw [List.mem_singleton.1 hv]
      exact .string _
    · exact .array fun v hv => absurd hv List.not_mem_nil
  refine .object (by decide) fun m hm => ?_
  simp only [List.mem_cons, List.not_mem_nil, or_false] at hm
  rcases hm with rfl | rfl
  · exact .string _
  · refine .object (by decide) fun m hm => ?_
    rw [List.mem_singleton.1 hm]
    exact hstart

private theorem ofDocument_portDocument : Policy.ofDocument portDocument = .ok portPolicy := by
  refine Policy.ofDocument_eq_ok.2 ⟨?_, ?_⟩
  · decide +kernel
  · rfl

/-- The document is accepted, but its start has a port that no address has. -/
theorem portDocument_not_enforced :
    Policy.ofDocument portDocument = .ok portPolicy ∧ Uri.isAbsolute "https://host:99999/".toList ∧
      ¬ ∃ c, portPolicy.compileAll {} = .ok c := by
  obtain ⟨hall, -, -, habsolute⟩ :=
    enforced_iff_starts ofDocument_portDocument {}
  have hstart := habsolute distinct_portDocument _ List.mem_cons_self
  refine ⟨ofDocument_portDocument, hstart.1, fun hcompiled => ?_⟩
  obtain ⟨u, hu⟩ := hall.1 hcompiled _ List.mem_cons_self
  have hrefused : Url.parse "https://host:99999/" = .error .invalidPort := by decide +kernel
  rw [hrefused] at hu
  cases hu

end NavPolicy
