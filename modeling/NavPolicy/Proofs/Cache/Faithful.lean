import NavPolicy.Proofs.Success
import NavPolicy.Snapshot

/-!
# Faithful snapshots

A snapshot is faithful if everything it remembers is what compiling would give again.  A
faithful snapshot answers as if it remembered nothing, and stays faithful whatever it is
asked.
-/

namespace NavPolicy

namespace Policy

/-- The mode of a request: the one that is asked for, if the destination has it, and the
default one if none is asked for. -/
def requestedMode (p : Policy) (id : String) (d : Destination) : Option String → Option String
  | some mode => if (d.filterMode? mode).isSome then some mode else none
  | none => p.defaultMode? id

/-- The answer to a request where nothing is remembered. -/
def compiled (p : Policy) (o : Options) (id : String) (platform : Platform)
    (mode : Option String) : Except CompileError Artifact :=
  match p.destination? id with
  | none => .error (.destinationNotFound id)
  | some d => d.compile platform (p.requestedMode id d mode) o

/-- The default mode is one that the destination has. -/
theorem isSome_of_defaultMode? {p : Policy} {id mode : String} {d : Destination}
    (hd : p.destination? id = some d) (h : p.defaultMode? id = some mode) :
    (d.filterMode? mode).isSome := by
  obtain ⟨level, -, h⟩ := Option.bind_eq_some_iff.1 h
  obtain ⟨d', hd', h⟩ := Option.bind_eq_some_iff.1 h
  obtain ⟨m, hm, rfl⟩ := Option.map_eq_some_iff.1 h
  rw [hd] at hd'
  cases hd'
  rw [hm]
  rfl

/-- The mode under which an artifact is remembered is the one that was asked for, or the default
one, if the destination has it. -/
theorem appliedMode_eq_requestedMode {p : Policy} {id : String} {d : Destination}
    (hd : p.destination? id = some d) (mode : Option String) :
    p.appliedMode id d mode = p.requestedMode id d mode := by
  cases mode with
  | some mode => simp [appliedMode, requestedMode, Option.filter]
  | none =>
      cases hdefault : p.defaultMode? id with
      | none => simp [appliedMode, requestedMode, hdefault]
      | some mode =>
          have hmode := isSome_of_defaultMode? hd hdefault
          simp [appliedMode, requestedMode, hdefault, Option.filter, hmode]

end Policy

theorem Memo.mem_of_entry? {m : Memo} {key : ArtifactKey} {e : Memo.Entry}
    (h : m.entry? key = some e) : (key, e.artifact) ∈ m := by
  obtain ⟨place, hplace, h⟩ := Option.bind_eq_some_iff.1 h
  obtain ⟨found, hfound, h⟩ := Option.bind_eq_some_iff.1 h
  cases h
  obtain ⟨hlt, hkey, -⟩ := List.findIdx?_eq_some_iff_getElem.1 hplace
  obtain ⟨_, rfl⟩ := List.getElem?_eq_some_iff.1 hfound
  have hkey : m[place].1 = key := by simpa using hkey
  rw [← hkey]
  exact List.getElem_mem hlt

namespace Snapshot

/-- Whether all that a snapshot remembers is what compiling would give again. -/
def Faithful (s : Snapshot) : Prop :=
  ∀ e ∈ s.memo, ∃ d, s.policy.destination? e.1.id = some d ∧
    d.compile e.1.platform e.1.mode s.options = .ok e.2

/-- What no question to a snapshot changes. -/
structure Keeps (s s' : Snapshot) : Prop where
  policy : s'.policy = s.policy
  source : s'.source = s.source
  options : s'.options = s.options
  faithful : s.Faithful → s'.Faithful

theorem Keeps.refl (s : Snapshot) : s.Keeps s := ⟨rfl, rfl, rfl, id⟩

theorem Keeps.trans {s s' s'' : Snapshot} (h : s.Keeps s') (h' : s'.Keeps s'') : s.Keeps s'' where
  policy := h'.policy.trans h.policy
  source := h'.source.trans h.source
  options := h'.options.trans h.options
  faithful hs := h'.faithful (h.faithful hs)

private theorem ensure_keeps {s : Snapshot} {d : Destination} {key : ArtifactKey}
    (hd : s.policy.destination? key.id = some d) {r : Memo.Entry × Snapshot}
    (h : s.ensure d key = .ok r) : s.Keeps r.2 := by
  rw [ensure] at h
  split at h
  · cases h
    exact .refl s
  · obtain ⟨a, ha, rfl⟩ := map_eq_ok.1 h
    refine ⟨rfl, rfl, rfl, fun hs e he => ?_⟩
    rcases List.mem_append.1 he with he | he
    · exact hs e he
    · rw [List.mem_singleton.1 he]
      exact ⟨d, hd, ha⟩

theorem destination_eq_ok {p : Policy} {id : String} {d : Destination} :
    p.destination id = .ok d ↔ p.destination? id = some d := by
  rw [Policy.destination]
  cases p.destination? id <;> simp

/-- A request leaves the policy, the options and the source as they are. -/
theorem request_keeps {s : Snapshot} {id : String} {platform : Platform} {mode : Option String}
    {r : Memo.Entry × Snapshot} (h : s.request id platform mode = .ok r) : s.Keeps r.2 := by
  rw [request] at h
  split at h
  · cases h
  · rename_i d hd
    exact ensure_keeps (destination_eq_ok.1 hd) h

/-- A query leaves the policy, the options and the source as they are. -/
theorem query_keeps {α : Type} {s : Snapshot} {id : String} {platform : Platform}
    {ask : Artifact → α} {r : α × Snapshot} (h : s.query id platform ask = .ok r) :
    s.Keeps r.2 := by
  obtain ⟨found, hfound, rfl⟩ := map_eq_ok.1 h
  exact request_keeps hfound

/-- A faithful snapshot answers a request as if it remembered nothing. -/
theorem Faithful.request_eq {s : Snapshot} (hs : s.Faithful) (id : String) (platform : Platform)
    (mode : Option String) :
    (s.request id platform mode).map (fun r => r.1.artifact) =
      s.policy.compiled s.options id platform mode := by
  rw [request, Policy.compiled, Policy.destination]
  cases hd : s.policy.destination? id with
  | none => rfl
  | some d =>
      simp only [ensure, Policy.appliedMode_eq_requestedMode hd]
      cases hmemo : s.memo.entry? ⟨id, platform, s.policy.requestedMode id d mode⟩ with
      | none =>
          cases d.compile platform (s.policy.requestedMode id d mode) s.options <;> rfl
      | some e =>
          obtain ⟨d', hd', hcompile⟩ := hs _ (Memo.mem_of_entry? hmemo)
          simp only at hd' hcompile
          rw [hd] at hd'
          cases hd'
          exact hcompile.symm

/-- A faithful snapshot answers a query as the artifact with the default mode does. -/
theorem Faithful.query_eq {α : Type} {s : Snapshot} (hs : s.Faithful) (id : String)
    (platform : Platform) (ask : Artifact → α) :
    (s.query id platform ask).map Prod.fst =
      (s.policy.compiled s.options id platform none).map ask := by
  rw [← hs.request_eq, query]
  cases s.request id platform none <;> rfl

end Snapshot

end NavPolicy
