import Mathlib
import NavPolicy.Proofs.Cache.Faithful
import NavPolicy.Proofs.FirstOccurrences
import NavPolicy.Proofs.Json.Distinct

/-!
# What a snapshot remembers

An artifact is remembered under the destination, the platform and the mode that applies.  Only
the modes that a destination has can apply, so there are no more keys than a policy declares,
whatever modes are asked for.  An entry keeps its place for good.
-/

namespace NavPolicy

open NavPolicy.Json

namespace Policy

/-- The key of a request, unless the policy has no such destination. -/
def key? (p : Policy) (id : String) (platform : Platform) (mode : Option String) :
    Option ArtifactKey :=
  (p.destination? id).map fun d => ⟨id, platform, p.requestedMode id d mode⟩

/-- Whether a key names a destination of the policy, and no mode or one that it has. -/
def Declares (p : Policy) (key : ArtifactKey) : Prop :=
  ∃ d, p.destination? key.id = some d ∧ ∀ mode, key.mode = some mode → (d.filterMode? mode).isSome

/-- The modes with which a destination can be compiled: none and those that it has. -/
def modes (d : Destination) : List (Option String) :=
  none :: (Ordered.names (d.filterModes.getD [])).map some

/-- Every key that a policy declares. -/
def declaredKeys (p : Policy) : List ArtifactKey :=
  Platform.all.flatMap fun platform =>
    p.destinations.flatMap fun e => (modes e.2).map fun mode => ⟨e.1, platform, mode⟩

variable {p : Policy}

theorem declares_of_key? {id : String} {platform : Platform} {mode : Option String}
    {key : ArtifactKey} (h : p.key? id platform mode = some key) : p.Declares key := by
  obtain ⟨d, hd, rfl⟩ := Option.map_eq_some_iff.1 h
  refine ⟨d, hd, fun applied happlied => ?_⟩
  cases mode with
  | none => exact isSome_of_defaultMode? hd happlied
  | some asked =>
      simp only [requestedMode, Option.ite_none_right_eq_some, Option.some.injEq] at happlied
      exact happlied.2 ▸ happlied.1

theorem mem_declaredKeys {key : ArtifactKey} (h : p.Declares key) : key ∈ p.declaredKeys := by
  obtain ⟨d, hd, hmode⟩ := h
  obtain ⟨id, platform, mode⟩ := key
  have hplatform : platform ∈ Platform.all := by cases platform <;> decide
  have hmodes : mode ∈ modes d := by
    cases mode with
    | none => exact List.mem_cons_self
    | some name =>
        obtain ⟨m, hm⟩ := Option.isSome_iff_exists.1 (hmode name rfl)
        obtain ⟨entries, hentries, hm⟩ := Option.bind_eq_some_iff.1 hm
        refine List.mem_cons_of_mem _ (List.mem_map_of_mem ?_)
        rw [hentries]
        exact Ordered.mem_names_of_get? hm
  simp only [declaredKeys, List.mem_flatMap]
  exact ⟨platform, hplatform, (id, d), Ordered.mem_of_get? hd, List.mem_map_of_mem hmodes⟩

theorem length_declaredKeys (p : Policy) :
    p.declaredKeys.length =
      3 * (p.destinations.map fun e => 1 + (e.2.filterModes.getD []).length).sum := by
  have hmodes : ∀ d, (modes d).length = 1 + (d.filterModes.getD []).length := by
    intro d
    simp [modes, Ordered.names, Nat.add_comm]
  simp only [declaredKeys, Platform.all, List.flatMap_cons, List.flatMap_nil, List.length_append,
    List.length_nil, List.length_flatMap, List.length_map, hmodes]
  omega

end Policy

namespace Memo

def keys (m : Memo) : List ArtifactKey := m.map Prod.fst

variable {m m' : Memo} {key : ArtifactKey} {e : Entry}

theorem entry?_eq_some :
    m.entry? key = some e ↔
      (m.findIdx? fun x => x.1 == key) = some e.place ∧ m[e.place]? = some (key, e.artifact) := by
  obtain ⟨place, artifact⟩ := e
  constructor
  · intro h
    obtain ⟨place, hplace, h⟩ := Option.bind_eq_some_iff.1 h
    obtain ⟨found, hfound, h⟩ := Option.bind_eq_some_iff.1 h
    cases h
    obtain ⟨hlt, hkey, -⟩ := List.findIdx?_eq_some_iff_getElem.1 hplace
    obtain ⟨_, rfl⟩ := List.getElem?_eq_some_iff.1 hfound
    have hkey : m[place].1 = key := by simpa using hkey
    exact ⟨hplace, by rw [hfound, ← hkey]⟩
  · rintro ⟨hplace, hfound⟩
    rw [ entry?, hplace]
    simp only [Option.bind_eq_bind, Option.bind_some, hfound]
    rfl

theorem findIdx?_eq_none : (m.findIdx? fun x => x.1 == key) = none ↔ key ∉ m.keys := by
  rw [List.findIdx?_eq_none_iff, keys, List.mem_map]
  simp only [beq_eq_false_iff_ne, ne_eq, not_exists, not_and]

theorem entry?_eq_none : m.entry? key = none ↔ key ∉ m.keys := by
  rw [← findIdx?_eq_none, entry?]
  cases hplace : m.findIdx? fun x => x.1 == key with
  | none => simp
  | some place =>
      obtain ⟨hlt, -⟩ := List.findIdx?_eq_some_iff_getElem.1 hplace
      simp [hlt]

/-- An entry keeps its place and its artifact when others come behind it. -/
theorem entry?_of_prefix (hgrown : m <+: m') (h : m.entry? key = some e) :
    m'.entry? key = some e := by
  obtain ⟨more, rfl⟩ := hgrown
  rw [entry?_eq_some] at h ⊢
  obtain ⟨hplace, hfound⟩ := h
  obtain ⟨hlt, -⟩ := List.getElem?_eq_some_iff.1 hfound
  rw [List.findIdx?_append, hplace, List.getElem?_append_left hlt]
  exact ⟨rfl, hfound⟩

theorem entry?_concat (h : key ∉ m.keys) (a : Artifact) :
    entry? (m ++ [(key, a)]) key = some ⟨m.length, a⟩ := by
  rw [entry?_eq_some, List.findIdx?_append, findIdx?_eq_none.2 h]
  simp

/-- Two keys have the same place only if they are the same. -/
theorem place_eq_iff {key' : ArtifactKey} {e' : Entry} (h : m.entry? key = some e)
    (h' : m.entry? key' = some e') : e.place = e'.place ↔ key = key' := by
  constructor
  · intro hplace
    have hfound := (entry?_eq_some.1 h).2
    rw [hplace, (entry?_eq_some.1 h').2] at hfound
    exact (Prod.mk.inj (Option.some.inj hfound)).1.symm
  · rintro rfl
    rw [h] at h'
    cases h'
    rfl

end Memo

namespace Snapshot

/-- What becomes of a snapshot that answers requests with some keys, one after the other. -/
structure Grows (s : Snapshot) (answered : List ArtifactKey) (s' : Snapshot) : Prop where
  policy : s'.policy = s.policy
  declared : ∀ key ∈ answered, s.policy.Declares key
  keys : s'.memo.keys = answered.foldl addNew s.memo.keys
  memo : s.memo <+: s'.memo

theorem Grows.refl (s : Snapshot) : s.Grows [] s :=
  ⟨rfl, List.forall_mem_nil _, rfl, List.prefix_refl _⟩

/-- What is answered on the way is answered in the end. -/
theorem Grows.trans {s s' s'' : Snapshot} {answered more : List ArtifactKey}
    (h : s.Grows answered s') (h' : s'.Grows more s'') : s.Grows (answered ++ more) s'' where
  policy := h'.policy.trans h.policy
  declared := List.forall_mem_append.2 ⟨h.declared, h.policy ▸ h'.declared⟩
  keys := by rw [h'.keys, h.keys, List.foldl_append]
  memo := h.memo.trans h'.memo

variable {s : Snapshot} {r : Memo.Entry × Snapshot}

theorem ensure_grows {d : Destination} {key : ArtifactKey} (hdeclared : s.policy.Declares key)
    (h : s.ensure d key = .ok r) : s.Grows [key] r.2 ∧ r.2.memo.entry? key = some r.1 := by
  have hdeclared := List.forall_mem_singleton.2 hdeclared
  rw [ensure] at h
  cases hmemo : s.memo.entry? key with
  | some e =>
      rw [hmemo] at h
      cases h
      have hmem : key ∈ s.memo.keys := List.mem_map_of_mem (Memo.mem_of_entry? hmemo)
      exact ⟨⟨rfl, hdeclared, (addNew_of_mem hmem).symm, List.prefix_refl _⟩, hmemo⟩
  | none =>
      rw [hmemo] at h
      obtain ⟨a, -, rfl⟩ := map_eq_ok.1 h
      have hnew := Memo.entry?_eq_none.1 hmemo
      have hkeys : Memo.keys (s.memo ++ [(key, a)]) = addNew s.memo.keys key := by
        rw [addNew_of_notMem hnew, Memo.keys, List.map_append]
        rfl
      exact ⟨⟨rfl, hdeclared, hkeys, List.prefix_append _ _⟩, Memo.entry?_concat hnew a⟩

/-- A request is answered under its key, which is remembered from then on. -/
theorem request_grows {id : String} {platform : Platform} {mode : Option String}
    (h : s.request id platform mode = .ok r) :
    ∃ key, s.policy.key? id platform mode = some key ∧ s.Grows [key] r.2 ∧
      r.2.memo.entry? key = some r.1 := by
  rw [request] at h
  split at h
  · cases h
  · rename_i d hd
    rw [destination_eq_ok] at hd
    rw [Policy.appliedMode_eq_requestedMode hd] at h
    have hkey : s.policy.key? id platform mode =
        some ⟨id, platform, s.policy.requestedMode id d mode⟩ := by
      rw [Policy.key?, hd]
      rfl
    exact ⟨_, hkey, ensure_grows (Policy.declares_of_key? hkey) h⟩

/-- A snapshot remembers no more than its policy declares. -/
theorem cached_le (hnodup : s.memo.keys.Nodup)
    (hdeclared : ∀ key ∈ s.memo.keys, s.policy.Declares key) :
    s.cached ≤
      3 * (s.policy.destinations.map fun e => 1 + (e.2.filterModes.getD []).length).sum := by
  have hsubset : s.memo.keys ⊆ s.policy.declaredKeys :=
    fun key hkey => Policy.mem_declaredKeys (hdeclared key hkey)
  calc
    s.cached = s.memo.keys.length := by rw [cached, Memo.keys, List.length_map]
    _ ≤ s.policy.declaredKeys.length := (List.subperm_of_subset hnodup hsubset).length_le
    _ = _ := s.policy.length_declaredKeys

end Snapshot

end NavPolicy
