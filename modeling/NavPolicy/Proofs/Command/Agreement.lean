import NavPolicy.Proofs.Artifact.Documents
import NavPolicy.Proofs.Command.Compiled
import NavPolicy.Proofs.Command.Writing

/-!
# Commands and snapshots

A command answers as the artifact does that a snapshot of the policy gives for the same
destination, platform and mode, and it writes only when nothing but the output can fail any more.
-/

namespace NavPolicy

open NavPolicy.Json

namespace Command

variable {p : Policy} {o : Options} {platform : Platform} {mode : Option String} {id : String}
  {id? : Option String}

/-! ## What is written -/

section Writing

variable {σ : Type} {r : CheckRequest} {a : Artifact} {f : Failure}

namespace Run

/-- A line and an answer. -/
theorem answers_line (text : String) (b : Bool) :
    (do line text; return b : Run σ Bool).Answers b (text ++ "\n") := by
  have h : (do line text; return b : Run σ Bool).Answers b (text ++ "\n" ++ "") :=
    (answers_write _).bind (answers_pure b)
  rwa [String.append_empty] at h

/-- A check fails with the artifact that it needs. -/
theorem failsWith_check {e : CompileError}
    (h : p.compiled o r.destination r.platform r.mode = .error e) :
    (check p o r : Run σ Bool).FailsWith (.notCompiled e) := by
  rw [check, checkedArtifact_eq, h]
  exact (failsWith_ofExcept _).bind _

/-- A resource has one line. -/
theorem answers_check_resource {type : ResourceType} (hresource : r.resource = some type)
    (h : p.compiled o r.destination r.platform r.mode = .ok a) :
    (check p o r : Run σ Bool).Answers (isAllowed a r.url type)
      (resourceLine (isAllowed a r.url type) r.url type ++ "\n") := by
  rw [check, checkedArtifact_eq, h, mapError_ok, ofExcept_ok_bind, hresource]
  exact answers_line _ _

/-- A page that is allowed has one line. -/
theorem answers_check_allowed (hresource : r.resource = none)
    (h : p.compiled o r.destination r.platform r.mode = .ok a)
    (hallowed : (a.verdict r.url).isAllowed = true) :
    (check p o r : Run σ Bool).Answers true (verdictLine r.url (a.verdict r.url) ++ "\n") := by
  rw [check, checkedArtifact_eq, h, mapError_ok, ofExcept_ok_bind, hresource]
  simp only [hallowed]
  exact answers_line _ _

/-- A page that is denied has a second line, for the way back. -/
theorem answers_check_denied (hresource : r.resource = none)
    (h : p.compiled o r.destination r.platform r.mode = .ok a)
    (hdenied : (a.verdict r.url).isAllowed = false) :
    (check p o r : Run σ Bool).Answers false
      (verdictLine r.url (a.verdict r.url) ++ "\n" ++ ("redirect: " ++ a.startUrl ++ "\n")) := by
  rw [check, checkedArtifact_eq, h, mapError_ok, ofExcept_ok_bind, hresource]
  simp only [hdenied]
  exact (answers_write _).bind (answers_line _ _)

/-- What cannot be compiled is noticed before anything is written. -/
theorem failsWith_compile (h : compilation p o platform id? mode = .error f) :
    (compile p o platform id? mode : Run σ Bool).FailsWith f := by
  rw [compile, h]
  exact (failsWith_ofExcept _).bind _

/-- What was compiled is written as its document. -/
theorem answers_compile {c : Compilation} (h : compilation p o platform id? mode = .ok c) :
    (compile p o platform id? mode : Run σ Bool).Answers true (c.toDocument.pretty ++ "\n") := by
  rw [compile, h, ofExcept_ok_bind]
  exact (answers_document 0 c.encode_toData).bind (answers_line "" true)

/-- A check with an artifact answers, and for a page by its verdict. -/
theorem exists_answers_check (h : p.compiled o r.destination r.platform r.mode = .ok a) :
    ∃ passes text, (check p o r : Run σ Bool).Answers passes text ∧
      (r.resource = none → passes = (a.verdict r.url).isAllowed) := by
  cases hresource : r.resource with
  | some type => exact ⟨_, _, answers_check_resource hresource h, nofun⟩
  | none =>
      cases hallowed : (a.verdict r.url).isAllowed with
      | true => exact ⟨true, _, answers_check_allowed hresource h hallowed, fun _ => rfl⟩
      | false => exact ⟨false, _, answers_check_denied hresource h hallowed, fun _ => rfl⟩

theorem settles_check (p : Policy) (o : Options) (r : CheckRequest) :
    (check p o r : Run σ Bool).Settles := by
  cases h : p.compiled o r.destination r.platform r.mode with
  | error e => exact Or.inl ⟨_, failsWith_check h⟩
  | ok a =>
      obtain ⟨passes, text, hrun, -⟩ := exists_answers_check h
      exact Or.inr ⟨passes, text, hrun⟩

theorem settles_compile (p : Policy) (o : Options) (platform : Platform)
    (id? mode : Option String) : (compile p o platform id? mode : Run σ Bool).Settles := by
  cases h : compilation p o platform id? mode with
  | error f => exact Or.inl ⟨f, failsWith_compile h⟩
  | ok c => exact Or.inr ⟨_, _, answers_compile h⟩

end Run

end Writing

/-! ## Agreement -/

theorem isAllowed_desktop {a : Artifact} (h : a.platform = .desktop) (url : String)
    (type : ResourceType) : isAllowed a url type = a.allowsRequest url type := by
  rw [isAllowed, h]

theorem isAllowed_of_ne_desktop {a : Artifact} (h : a.platform ≠ .desktop) (url : String)
    (type : ResourceType) : isAllowed a url type = a.allowsResource url := by
  unfold isAllowed
  split
  · contradiction
  · rfl

theorem exists_of_compiled {a : Artifact} (h : p.compiled o id platform mode = .ok a) :
    ∃ d, p.destination? id = some d ∧ a.startUrl = d.start ∧ a.platform = platform := by
  rw [Policy.compiled] at h
  split at h
  · cases h
  · rename_i d hd
    obtain ⟨start, -, rfl⟩ := Destination.compile_eq_ok.1 h
    exact ⟨d, hd, rfl, d.platform_nativeRules platform _ start⟩

/-- What answers a request was compiled. -/
theorem isCompiled_of_compiled {a : Artifact} (h : p.compiled o id platform mode = .ok a) :
    a.IsCompiled := by
  rw [Policy.compiled] at h
  split at h
  · cases h
  · rename_i d hd
    exact ⟨d, platform, _, o, h⟩

/-- Whether a check goes by an artifact.  It fails as the artifact does, before it writes.  A page
passes if the artifact allows the navigation; its line shows the address and the pattern that
decided, and a page that is denied has a second line with the start of the destination.  A resource
passes if the artifact lets it load.  All this is so with every output that takes what is written;
with another one a check may also fail on the way. -/
structure ChecksBy (σ : Type) (p : Policy) (o : Options) (r : CheckRequest)
    (answer : Except CompileError Artifact) : Prop where
  failed : ∀ e, answer = .error e → (Run.check p o r : Run σ Bool).FailsWith (.notCompiled e)
  failed_iff : ∀ out : Output σ, out.Reliable → ∀ state,
    (∃ f, ((Run.check p o r).on out state).1 = .error f) ↔ ∃ e, answer = .error e
  passes_iff : ∀ a, answer = .ok a → r.resource = none → ∀ out : Output σ, out.Reliable → ∀ state,
    ((Run.check p o r).on out state).1 = .ok true ↔ ∃ pattern, a.verdict r.url = .allowed pattern
  allowed : ∀ a pattern, answer = .ok a → r.resource = none →
    a.verdict r.url = .allowed pattern → (Run.check p o r : Run σ Bool).Answers true
      ("allowed: " ++ r.url ++ " (allow " ++ pattern ++ ")\n")
  blocked : ∀ a pattern, answer = .ok a → r.resource = none →
    a.verdict r.url = .blocked pattern → ∃ d, p.destination? r.destination = some d ∧
      (Run.check p o r : Run σ Bool).Answers false
        ("blocked: " ++ r.url ++ " (block " ++ pattern ++ ")\nredirect: " ++ d.start ++ "\n")
  unmatched : ∀ a, answer = .ok a → r.resource = none → a.verdict r.url = .unmatched →
    ∃ d, p.destination? r.destination = some d ∧ (Run.check p o r : Run σ Bool).Answers false
      ("blocked: " ++ r.url ++ " (no rule matched)\nredirect: " ++ d.start ++ "\n")
  resource : ∀ a type, answer = .ok a → r.resource = some type → ∃ passes : Bool,
    (r.platform = .desktop → passes = a.allowsRequest r.url type) ∧
    (r.platform ≠ .desktop → passes = a.allowsResource r.url) ∧
    (Run.check p o r : Run σ Bool).Answers passes
      ((if passes then "allowed: " else "blocked: ") ++ type.title ++ " " ++ r.url ++ "\n")

/-- Whether compiling one destination goes by its artifact: it fails as that does, before it
writes, or it writes a text from which the artifact can be told. -/
structure CompilesBy (σ : Type) (p : Policy) (o : Options) (platform : Platform) (id : String)
    (mode : Option String) (answer : Except CompileError Artifact) : Prop where
  failed : ∀ e, answer = .error e →
    (Run.compile p o platform (some id) mode : Run σ Bool).FailsWith (.notCompiled e)
  succeeded_iff : ∀ out : Output σ, out.Reliable → ∀ state,
    (∃ b, ((Run.compile p o platform (some id) mode).on out state).1 = .ok b) ↔
      ∃ a, answer = .ok a
  printed : ∀ a, answer = .ok a → ∃ text doc,
    (Run.compile p o platform (some id) mode : Run σ Bool).Answers true (text ++ "\n") ∧
    Value.ofText text = .ok doc ∧ a.IsToldBy doc

/-- Whether compiling all destinations goes by their artifacts: it fails as the first of them that
does, before it writes, or it writes a text from which all of them can be told, by name and in the
order of the policy. -/
structure CompilesAllBy (σ : Type) (p : Policy) (o : Options) (platform : Platform)
    (mode : Option String) (answer : String → Except CompileError Artifact) : Prop where
  failed : ∀ ids id rest e, p.ids = ids ++ id :: rest →
    (∀ id' ∈ ids, ∃ a, answer id' = .ok a) → answer id = .error e →
      (Run.compile p o platform none mode : Run σ Bool).FailsWith (allFailure mode id e)
  succeeded_iff : ∀ out : Output σ, out.Reliable → ∀ state,
    (∃ b, ((Run.compile p o platform none mode).on out state).1 = .ok b) ↔
      ∀ id ∈ p.ids, ∃ a, answer id = .ok a
  printed : (∀ id ∈ p.ids, ∃ a, answer id = .ok a) → ∃ text docs,
    (Run.compile p o platform none mode : Run σ Bool).Answers true (text ++ "\n") ∧
    Value.ofText text = .ok (.object docs) ∧
    List.Forall₂ (fun id m => m.1 = id ∧ ∃ a, answer id = .ok a ∧ a.IsToldBy m.2) p.ids docs

private theorem allowed_text (url pattern : String) :
    verdictLine url (.allowed pattern) ++ "\n" =
      "allowed: " ++ url ++ " (allow " ++ pattern ++ ")\n" := by
  have hend : ")\n" = ")" ++ "\n" := rfl
  rw [hend, ← String.append_assoc]
  rfl

private theorem blocked_text (url pattern start : String) :
    verdictLine url (.blocked pattern) ++ "\n" ++ ("redirect: " ++ start ++ "\n") =
      "blocked: " ++ url ++ " (block " ++ pattern ++ ")\nredirect: " ++ start ++ "\n" := by
  have hend : ")\nredirect: " = ")" ++ "\n" ++ "redirect: " := rfl
  rw [hend]
  simp only [← String.append_assoc]
  rfl

private theorem unmatched_text (url start : String) :
    verdictLine url .unmatched ++ "\n" ++ ("redirect: " ++ start ++ "\n") =
      "blocked: " ++ url ++ " (no rule matched)\nredirect: " ++ start ++ "\n" := by
  have hend : " (no rule matched)\nredirect: " = " (no rule matched)" ++ "\n" ++ "redirect: " := rfl
  rw [hend]
  simp only [← String.append_assoc]
  rfl

private theorem resource_text (passes : Bool) (url : String) (type : ResourceType) :
    resourceLine passes url type ++ "\n" =
      (if passes then "allowed: " else "blocked: ") ++ type.title ++ " " ++ url ++ "\n" := by
  have hallowed : "allowed: " = "allowed" ++ ": " := rfl
  have hblocked : "blocked: " = "blocked" ++ ": " := rfl
  rw [hallowed, hblocked]
  cases passes <;> rfl

theorem checksBy_compiled (σ : Type) (p : Policy) (o : Options) (r : CheckRequest) :
    ChecksBy σ p o r (p.compiled o r.destination r.platform r.mode) where
  failed _ := Run.failsWith_check
  failed_iff out hout state := by
    cases h : p.compiled o r.destination r.platform r.mode with
    | error e => simp [Run.failsWith_check h out state]
    | ok a =>
        obtain ⟨passes, text, hrun, -⟩ := Run.exists_answers_check (σ := σ) h
        simp [hrun.on_fst hout]
  passes_iff a ha hpage out hout state := by
    obtain ⟨passes, text, hrun, hpasses⟩ := Run.exists_answers_check (σ := σ) ha
    rw [hrun.on_fst hout, hpasses hpage]
    cases a.verdict r.url <;> simp [Decision.isAllowed]
  allowed a pattern ha hpage hverdict := by
    have hrun := Run.answers_check_allowed (σ := σ) hpage ha (by rw [hverdict]; rfl)
    rwa [hverdict, allowed_text] at hrun
  blocked a pattern ha hpage hverdict := by
    obtain ⟨d, hd, hstart, -⟩ := exists_of_compiled ha
    have hrun := Run.answers_check_denied (σ := σ) hpage ha (by rw [hverdict]; rfl)
    rw [hverdict, hstart, blocked_text] at hrun
    exact ⟨d, hd, hrun⟩
  unmatched a ha hpage hverdict := by
    obtain ⟨d, hd, hstart, -⟩ := exists_of_compiled ha
    have hrun := Run.answers_check_denied (σ := σ) hpage ha (by rw [hverdict]; rfl)
    rw [hverdict, hstart, unmatched_text] at hrun
    exact ⟨d, hd, hrun⟩
  resource a type ha htype := by
    obtain ⟨d, -, -, hplatform⟩ := exists_of_compiled ha
    rw [← hplatform]
    refine ⟨isAllowed a r.url type, fun h => isAllowed_desktop h r.url type,
      fun h => isAllowed_of_ne_desktop h r.url type, ?_⟩
    rw [← resource_text]
    exact Run.answers_check_resource htype ha

/-- The text of a policy that was compiled is read back, if no name comes twice. -/
private theorem ofText_pretty_all {entries : Ordered Artifact}
    (hnames : (Ordered.names entries).Nodup) :
    Value.ofText (Compilation.all entries).toDocument.pretty =
      .ok (.object (entries.map fun e => (e.1, e.2.toDocument))) := by
  have hlegible : (Compilation.all entries).toDocument.Legible 5 :=
    legible_writeEntries hnames fun e _ => e.2.legible_toDocument 0
  exact Value.ofText_pretty hlegible (by decide)

private theorem compilesBy_compiled (σ : Type) (p : Policy) (o : Options) (platform : Platform)
    (id : String) (mode : Option String) :
    CompilesBy σ p o platform id mode (p.compiled o id platform mode) := by
  have hcompilation := compilation_some p o platform id mode
  constructor
  case failed =>
    intro e he
    rw [he] at hcompilation
    exact Run.failsWith_compile hcompilation
  case succeeded_iff =>
    intro out hout state
    cases h : p.compiled o id platform mode with
    | error e =>
        rw [h] at hcompilation
        simp [Run.failsWith_compile hcompilation out state]
    | ok a =>
        rw [h] at hcompilation
        simp [(Run.answers_compile hcompilation).on_fst hout]
  case printed =>
    intro a ha
    rw [ha] at hcompilation
    have hread := Value.ofText_pretty (a.legible_toDocument 0) (by decide)
    exact ⟨_, _, Run.answers_compile hcompilation, hread,
      (isCompiled_of_compiled ha).isToldBy_toDocument⟩

private theorem compilesAllBy_compiled (σ : Type) (hp : p.ids.Nodup) (o : Options)
    (platform : Platform) (mode : Option String) :
    CompilesAllBy σ p o platform mode fun id => p.compiled o id platform mode := by
  constructor
  case failed =>
    intro ids id rest e hids hbefore hfails
    exact Run.failsWith_compile (compilation_none_eq_error hp hids hbefore hfails)
  case succeeded_iff =>
    intro out hout state
    rw [← exists_compilation_none_iff hp]
    cases h : compilation p o platform none mode with
    | error f => simp [Run.failsWith_compile h out state]
    | ok c => simp [(Run.answers_compile h).on_fst hout]
  case printed =>
    intro hall
    obtain ⟨entries, hentries⟩ := exists_areEntries_iff.2 hall
    have h : compilation p o platform none mode = .ok (.all entries) :=
      (compilation_none_eq_ok_iff hp).2 ⟨entries, rfl, hentries⟩
    have hnames : (Ordered.names entries).Nodup := by rwa [names_eq_of_forall₂ hentries]
    refine ⟨_, _, Run.answers_compile h, ofText_pretty_all hnames, ?_⟩
    rw [List.forall₂_map_right_iff]
    refine hentries.imp ?_
    rintro id e ⟨hname, ha⟩
    exact ⟨hname, e.2, ha, (isCompiled_of_compiled ha).isToldBy_toDocument⟩

def guides : Destination where
  start := "urn:guides"
  allow := ["guide/"]
  block := []
  filterModes := some [("safe", { blockUrls := ["ads"] })]

def guidePolicy : Policy where
  version := "1"
  destinations := [("guides", guides)]

/-- A policy with a destination that cannot be compiled. -/
def strandedPolicy : Policy where
  version := "1"
  destinations := [("guides", guides), ("news", { start := "news", allow := ["*"], block := [] })]

/-- A page that is denied has two lines, and the output may fail between them. -/
example : (Run.check strandedPolicy {} ⟨.ios, "guides", none, "urn:news", none⟩).on
    ⟨fun line held => if held.isEmpty then (.ok (), [line]) else (.error "full", held)⟩ [] =
      (.error (.notWritten "full"), ["blocked: urn:news (no rule matched)\n"]) := by
  decide +kernel

end Command

end NavPolicy
