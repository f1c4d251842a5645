import NavPolicy.Command.Basic
import NavPolicy.Proofs.Artifact.Alignment
import NavPolicy.Proofs.Compilation.Failures

/-!
# What commands compile

A command compiles what it needs on its own, by a mode that it finds on its own.  It comes to the
artifacts that requests for the same mode are answered with, for one destination and for all of
them in the order of the policy, and fails as the first request that fails.
-/

namespace NavPolicy.Command

open NavPolicy.Json

variable {p : Policy} {o : Options} {platform : Platform} {mode : Option String} {id : String}

/-- The mode of a command is not looked up, but one that the destination does not have adds
nothing. -/
theorem compiled_eq_compile {d : Destination} (hd : p.destination? id = some d) :
    p.compiled o id platform mode =
      d.compile platform (mode.orElse fun _ => p.defaultMode? id) o := by
  cases mode with
  | none => exact Policy.compiled_none hd platform o
  | some name => exact Policy.compiled_some hd platform o name

/-- A check looks up its own mode, and finds the artifact that a request is answered with. -/
theorem checkedArtifact_eq (p : Policy) (o : Options) (r : CheckRequest) :
    checkedArtifact p o r = p.compiled o r.destination r.platform r.mode := by
  cases hd : p.destination? r.destination with
  | none =>
      simp only [checkedArtifact, Policy.destination, Policy.compiled, hd]
      rfl
  | some d =>
      rw [compiled_eq_compile hd]
      simp only [checkedArtifact, Policy.destination, hd]
      rfl

/-- One destination is compiled by its command as for a request. -/
theorem compilation_some (p : Policy) (o : Options) (platform : Platform) (id : String)
    (mode : Option String) :
    compilation p o platform (some id) mode =
      ((p.compiled o id platform mode).map .single).mapError .notCompiled := by
  cases hd : p.destination? id with
  | none =>
      have hcompiled : p.compiled o id platform mode = .error (.destinationNotFound id) := by
        simp only [Policy.compiled, hd]
      rw [hcompiled]
      cases mode with
      | none =>
          simp only [compilation, Policy.compile, Policy.compileOne, Policy.destination, hd]
          rfl
      | some name =>
          simp only [compilation, Policy.destination, hd]
          rfl
  | some d =>
      rw [compiled_eq_compile hd]
      cases mode with
      | none =>
          simp only [compilation, Policy.compile_some hd]
          rfl
      | some name =>
          simp only [compilation, Policy.destination, hd]
          rfl

/-- All destinations are compiled if each of them is, in their order. -/
theorem compilation_none_eq_ok {c : Compilation} :
    compilation p o platform none mode = .ok c ↔
      ∃ artifacts, .all artifacts = c ∧ List.Forall₂ (fun x y => y.1 = x.1 ∧
        x.2.compile platform (mode.orElse fun _ => p.defaultMode? x.1) o = .ok y.2)
          p.destinations artifacts := by
  cases mode with
  | none =>
      simp only [compilation, Policy.compile, mapError_eq_ok, map_eq_ok, Policy.compileEach_eq_ok]
      simp [and_comm]
  | some name =>
      simp only [compilation, map_eq_ok, Policy.compileEach_eq_ok, mapError_eq_ok]
      simp [and_comm]

/-- How a command fails that compiles all destinations, where the one with a name is the first that
cannot be compiled. -/
def allFailure (mode : Option String) (id : String) (e : CompileError) : Failure :=
  match mode with
  | none => .notCompiled e
  | some _ => .entryNotCompiled id e

/-- The first destination that cannot be compiled decides how compiling all of them fails. -/
theorem compilation_none_eq_error (hp : p.ids.Nodup) {ids rest : List String} {e : CompileError}
    (hids : p.ids = ids ++ id :: rest)
    (hbefore : ∀ id' ∈ ids, ∃ a, p.compiled o id' platform mode = .ok a)
    (hfails : p.compiled o id platform mode = .error e) :
    compilation p o platform none mode = .error (allFailure mode id e) := by
  obtain ⟨before, more, hsplit, rfl, hmore⟩ := List.map_eq_append_iff.1 hids
  obtain ⟨x, after, rfl, rfl, -⟩ := List.map_eq_cons_iff.1 hmore
  have hcompiled : ∀ y ∈ p.destinations, p.compiled o y.1 platform mode =
      y.2.compile platform (mode.orElse fun _ => p.defaultMode? y.1) o :=
    fun y hy => compiled_eq_compile (Ordered.get?_of_mem hp hy)
  have hok : ∀ y ∈ before, ∃ a,
      y.2.compile platform (mode.orElse fun _ => p.defaultMode? y.1) o = .ok a := by
    intro y hy
    rw [← hcompiled y (by simp [hsplit, hy])]
    exact hbefore y.1 (List.mem_map_of_mem hy)
  rw [hcompiled x (by simp [hsplit])] at hfails
  cases mode with
  | none =>
      have heach : Policy.compileEach (fun id d => d.compile platform (p.defaultMode? id) o)
          p.destinations = .error e :=
        Policy.compileEach_eq_error_iff.2 ⟨before, x, after, hsplit, hok, hfails⟩
      simp only [compilation, Policy.compile, heach]
      rfl
  | some name =>
      have hok' : ∀ y ∈ before, ∃ a, (y.2.compile platform (some name) o).mapError
          (Failure.entryNotCompiled y.1) = .ok a := by
        intro y hy
        obtain ⟨a, ha⟩ := hok y hy
        exact ⟨a, mapError_eq_ok.2 ha⟩
      have hfails' : (x.2.compile platform (some name) o).mapError
          (Failure.entryNotCompiled x.1) = .error (.entryNotCompiled x.1 e) := by
        change x.2.compile platform (some name) o = .error e at hfails
        rw [hfails, mapError_error]
      have heach : Policy.compileEach (fun id d => (d.compile platform (some name) o).mapError
          (Failure.entryNotCompiled id)) p.destinations = .error (.entryNotCompiled x.1 e) :=
        Policy.compileEach_eq_error_iff.2 ⟨before, x, after, hsplit, hok', hfails'⟩
      simp only [compilation, heach]
      rfl

/-- Whether entries are the artifacts under some names, in the order of the names. -/
def AreEntries (answer : String → Except CompileError Artifact) (ids : List String)
    (entries : Ordered Artifact) : Prop :=
  List.Forall₂ (fun id e => e.1 = id ∧ answer id = .ok e.2) ids entries

/-- There are entries for all names if each has an artifact. -/
theorem exists_areEntries_iff {answer : String → Except CompileError Artifact}
    {ids : List String} :
    (∃ entries, AreEntries answer ids entries) ↔ ∀ id ∈ ids, ∃ a, answer id = .ok a := by
  induction ids with
  | nil => simp [AreEntries]
  | cons id ids ih =>
      rw [List.forall_mem_cons, ← ih]
      simp only [AreEntries, List.forall₂_cons_left_iff]
      constructor
      · rintro ⟨_, e, entries, ⟨-, he⟩, hentries, -⟩
        exact ⟨⟨e.2, he⟩, entries, hentries⟩
      · rintro ⟨⟨a, ha⟩, entries, hentries⟩
        exact ⟨_, (id, a), entries, ⟨rfl, ha⟩, hentries, rfl⟩

/-- Where no name comes twice, the entries are those under the names of the policy. -/
theorem compilation_none_eq_ok_iff (hp : p.ids.Nodup) {c : Compilation} :
    compilation p o platform none mode = .ok c ↔
      ∃ entries, .all entries = c ∧
        AreEntries (fun id => p.compiled o id platform mode) p.ids entries := by
  have hfound : ∀ x ∈ p.destinations, p.destination? x.1 = some x.2 :=
    fun x hx => Ordered.get?_of_mem hp hx
  rw [compilation_none_eq_ok]
  refine exists_congr fun entries => and_congr_right fun _ => ?_
  rw [AreEntries, Policy.ids, Ordered.names, List.forall₂_map_left_iff]
  constructor
  · intro h
    refine ((List.forall₂_and_left _ _).2 ⟨hfound, h⟩).imp ?_
    rintro x y ⟨hx, hname, hy⟩
    exact ⟨hname, (compiled_eq_compile hx).trans hy⟩
  · intro h
    refine ((List.forall₂_and_left _ _).2 ⟨hfound, h⟩).imp ?_
    rintro x y ⟨hx, hname, hy⟩
    exact ⟨hname, (compiled_eq_compile hx).symm.trans hy⟩

theorem exists_compilation_none_iff (hp : p.ids.Nodup) :
    (∃ c, compilation p o platform none mode = .ok c) ↔
      ∀ id ∈ p.ids, ∃ a, p.compiled o id platform mode = .ok a := by
  rw [← exists_areEntries_iff]
  constructor
  · rintro ⟨c, hc⟩
    obtain ⟨entries, -, hentries⟩ := (compilation_none_eq_ok_iff hp).1 hc
    exact ⟨entries, hentries⟩
  · rintro ⟨entries, hentries⟩
    exact ⟨.all entries, (compilation_none_eq_ok_iff hp).2 ⟨entries, rfl, hentries⟩⟩

/-- Entries that are told by names have these names. -/
theorem names_eq_of_forall₂ {α : Type} {holds : String → String × α → Prop} {ids : List String}
    {entries : Ordered α}
    (h : List.Forall₂ (fun id e => e.1 = id ∧ holds id e) ids entries) :
    Ordered.names entries = ids := by
  induction h with
  | nil => rfl
  | cons he _ ih => rw [Ordered.names, List.map_cons, he.1, ← Ordered.names, ih]

end NavPolicy.Command
