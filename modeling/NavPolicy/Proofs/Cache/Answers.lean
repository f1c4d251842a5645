import NavPolicy.Proofs.Cache.Memo
import NavPolicy.Proofs.Cache.Runs

/-!
# What a run leaves in memory

A snapshot remembers the keys of the questions that it answered, each where it first came.  A
query is answered from the artifact with the default mode, so it leaves what a request for that
artifact leaves.  A question that fails leaves nothing.
-/

namespace NavPolicy.Cache

/-! ## Questions -/

/-- The number that a question names; any other action asks nothing. -/
def Action.asked? : Action → Option Nat
  | request number .. => some number
  | verdict number .. => some number
  | navigation number .. => some number
  | resource number .. => some number
  | route number .. => some number
  | _ => none

/-- The key of the artifact that answers a question to a policy. -/
def Action.key? (p : Policy) : Action → Option ArtifactKey
  | request _ id platform mode => p.key? id platform mode
  | verdict _ id platform _ => p.key? id platform none
  | navigation _ id platform _ => p.key? id platform none
  | resource _ id platform _ => p.key? id platform none
  | route _ id platform _ => p.key? id platform none
  | _ => none

/-- Whether a question is answered. -/
def isAnswered (c : Cache) : Action → Bool
  | .request number id platform mode => (c.ask number (·.request id platform mode)).isOk
  | .verdict number id platform url => (c.ask number (·.verdict id platform url)).isOk
  | .navigation number id platform url => (c.ask number (·.allowsNavigation id platform url)).isOk
  | .resource number id platform url => (c.ask number (·.allowsResource id platform url)).isOk
  | .route number id platform url => (c.ask number (·.nearestRoute id platform url)).isOk
  | _ => false

/-- The key under which a snapshot answers an action, if it is asked and does.  A number that
was not given yet asks the snapshot in effect. -/
def answeredKey? (c : Cache) (n : Nat) (a : Action) : Option ArtifactKey :=
  if a.asked?.map (min · c.currentNumber) = some n ∧ c.isAnswered a then
    a.key? (c.snapshot n).policy
  else none

/-- The keys under which a snapshot answers in a run, in order and with repetitions. -/
def answeredKeys (n : Nat) : Cache → List Action → List ArtifactKey
  | _, [] => []
  | c, a :: actions => (c.answeredKey? n a).toList ++ answeredKeys n (c.perform a) actions

/-- Whether an action leaves what a request leaves and is answered where the request is. -/
structure Action.Asks (a : Action) (number : Nat) (id : String) (platform : Platform)
    (mode : Option String) : Prop where
  asked : a.asked? = some number
  key : ∀ p, a.key? p = p.key? id platform mode
  perform : ∀ c, perform c a = c.settle (c.ask number (·.request id platform mode))
  isAnswered : ∀ c, isAnswered c a = (c.ask number (·.request id platform mode)).isOk

section Query

variable {α : Type} (c : Cache) (number : Nat) (id : String) (platform : Platform)
  (question : Artifact → α)

private theorem settle_query :
    c.settle (c.ask number (·.query id platform question)) =
      c.settle (c.ask number (·.request id platform none)) := by
  simp only [ask, Snapshot.query]
  cases (c.snapshot number).request id platform none <;> rfl

private theorem isOk_query :
    (c.ask number (·.query id platform question)).isOk =
      (c.ask number (·.request id platform none)).isOk := by
  simp only [ask, Snapshot.query]
  cases (c.snapshot number).request id platform none <;> rfl

end Query

theorem Action.exists_asks {a : Action} {number : Nat} (h : a.asked? = some number) :
    ∃ id platform mode, a.Asks number id platform mode := by
  cases a with
  | request number id platform mode =>
      cases h
      exact ⟨id, platform, mode, rfl, fun _ => rfl, fun _ => rfl, fun _ => rfl⟩
  | verdict number id platform url | navigation number id platform url
  | resource number id platform url | route number id platform url =>
      cases h
      exact ⟨id, platform, none, rfl, fun _ => rfl, fun c => settle_query c ..,
        fun c => isOk_query c ..⟩
  | _ => cases h

/-- An action that asks nothing puts another snapshot into effect or does nothing. -/
theorem perform_of_asked? {a : Action} (h : a.asked? = none) (c : Cache) :
    c.perform a = c ∨ ∃ policy source, c.perform a = c.replace policy source := by
  cases a with
  | install policy => exact Or.inr ⟨policy, .refreshed, rfl⟩
  | refresh doc =>
      simp only [perform, refresh]
      cases Policy.ofDocument doc with
      | error e => exact Or.inl rfl
      | ok policy => exact Or.inr ⟨policy, .refreshed, rfl⟩
  | reset => exact Or.inr ⟨c.fallback, .default, rfl⟩
  | _ => cases h

/-! ## One action -/

variable {c : Cache} {n : Nat}

private theorem snapshot_min (c : Cache) (number : Nat) :
    c.snapshot (min number c.currentNumber) = c.snapshot number := by
  rcases Nat.le_total number c.currentNumber with h | h
  · rw [Nat.min_eq_left h]
  · rw [Nat.min_eq_right h, snapshot_currentNumber, snapshot_of_le c h]

private theorem setSnapshot_min (c : Cache) (number : Nat) (s : Snapshot) :
    c.setSnapshot (min number c.currentNumber) s = c.setSnapshot number s := by
  rcases Nat.le_total number c.currentNumber with h | h
  · rw [Nat.min_eq_left h]
  · rw [Nat.min_eq_right h, setSnapshot_of_le c (Nat.le_refl _), setSnapshot_of_le c h]

/-- A question that fails leaves the cache as it is. -/
theorem perform_of_not_isAnswered {a : Action} (hasked : a.asked?.isSome)
    (h : c.isAnswered a = false) : c.perform a = c := by
  obtain ⟨number, hnumber⟩ := Option.isSome_iff_exists.1 hasked
  obtain ⟨id, platform, mode, hasks⟩ := Action.exists_asks hnumber
  rw [hasks.isAnswered] at h
  rw [hasks.perform]
  cases hanswer : c.ask number (·.request id platform mode) with
  | error e => rfl
  | ok r => simp [hanswer, Except.isOk, Except.toBool] at h

/-- An answered request puts its own snapshot into its new state and leaves the others. -/
theorem grows_answered {number : Nat} {id : String} {platform : Platform} {mode : Option String}
    {r : Memo.Entry × Snapshot} (h : (c.snapshot number).request id platform mode = .ok r)
    (hn : n ≤ c.currentNumber) :
    (c.snapshot n).Grows
      (if min number c.currentNumber = n then ((c.snapshot n).policy.key? id platform mode).toList
        else []) ((c.setSnapshot number r.2).snapshot n) := by
  rw [← snapshot_min] at h
  rw [← setSnapshot_min]
  split
  · rename_i hsame
    obtain ⟨key, hkey, hgrows, -⟩ := Snapshot.request_grows h
    rw [hsame] at hkey hgrows ⊢
    rw [snapshot_setSnapshot_self c hn, hkey]
    exact hgrows
  · rename_i hother
    rw [snapshot_setSnapshot_of_ne c hother (Nat.min_le_right _ _) hn]
    exact .refl _

/-- An action makes each snapshot grow by the key under which it answers. -/
theorem grows_perform (a : Action) (hn : n ≤ c.currentNumber) :
    (c.snapshot n).Grows (c.answeredKey? n a).toList ((c.perform a).snapshot n) := by
  cases hasked : a.asked? with
  | none =>
      have hkey : c.answeredKey? n a = none := by simp [answeredKey?, hasked]
      rw [hkey]
      rcases perform_of_asked? hasked c with hstay | ⟨policy, source, hreplace⟩
      · rw [hstay]
        exact .refl _
      · rw [hreplace, snapshot_replace c policy source hn]
        exact .refl _
  | some number =>
      obtain ⟨id, platform, mode, hasks⟩ := Action.exists_asks hasked
      cases hanswer : (c.snapshot number).request id platform mode with
      | error e =>
          have hfails : c.isAnswered a = false := by
            rw [hasks.isAnswered, ask, hanswer]
            rfl
          have hkey : c.answeredKey? n a = none := by simp [answeredKey?, hfails]
          rw [hkey, perform_of_not_isAnswered (by simp [hasked]) hfails]
          exact .refl _
      | ok r =>
          have hanswered : c.isAnswered a = true := by
            rw [hasks.isAnswered, ask, hanswer]
            rfl
          have hperform : c.perform a = c.setSnapshot number r.2 := by
            rw [hasks.perform, ask, hanswer]
            rfl
          have hkey : (c.answeredKey? n a).toList = if min number c.currentNumber = n then
              ((c.snapshot n).policy.key? id platform mode).toList else [] := by
            simp only [answeredKey?, hasked, hanswered, hasks.key, Option.map_some,
              Option.some.injEq, and_true]
            split <;> rfl
          rw [hkey, hperform]
          exact grows_answered hanswer hn

/-! ## Whole runs -/

/-- A snapshot never forgets, whatever is done to the cache. -/
theorem grows_run (c : Cache) (actions : List Action) (hn : n ≤ c.currentNumber) :
    (c.snapshot n).Grows (answeredKeys n c actions) ((c.run actions).snapshot n) := by
  induction actions generalizing c with
  | nil => exact .refl _
  | cons a actions ih =>
      have hstep := ((step_perform c a).keeps hn).1
      exact (grows_perform a hn).trans (ih (c.perform a) hstep)

private theorem Step.currentNumber_or_replaced {c' : Cache} (h : c.Step c') :
    c'.currentNumber = c.currentNumber ∨ ∃ policy source, c' = c.replace policy source := by
  cases h with
  | stay => exact Or.inl rfl
  | replaced policy source => exact Or.inr ⟨policy, source, rfl⟩
  | asked number _ => exact Or.inl (currentNumber_setSnapshot c number _)

/-- A snapshot that a run makes grows from one that remembers nothing. -/
theorem exists_grows_run (c : Cache) (actions : List Action) (hc : c.currentNumber < n)
    (hn : n ≤ (c.run actions).currentNumber) :
    ∃ fresh : Snapshot, fresh.memo = [] ∧
      fresh.Grows (answeredKeys n c actions) ((c.run actions).snapshot n) := by
  induction actions generalizing c with
  | nil => exact absurd (Nat.lt_of_lt_of_le hc hn) (Nat.lt_irrefl _)
  | cons a actions ih =>
      have hkey : c.answeredKey? n a = none := by
        rw [answeredKey?, if_neg]
        rintro ⟨hasked, -⟩
        obtain ⟨number, -, hnumber⟩ := Option.map_eq_some_iff.1 hasked
        omega
      rw [answeredKeys, hkey]
      by_cases hlater : (c.perform a).currentNumber < n
      · exact ih (c.perform a) hlater hn
      · -- The action itself makes the snapshot.
        rcases (step_perform c a).currentNumber_or_replaced with hsame | ⟨policy, source, hmade⟩
        · exact absurd (hsame ▸ hc) hlater
        · have hnumber : n = (c.perform a).currentNumber := by
            have hnext := currentNumber_replace c policy source
            rw [← hmade] at hnext
            omega
          have hgrows := grows_run (c.perform a) actions (Nat.le_of_eq hnumber)
          refine ⟨(c.perform a).snapshot n, ?_, hgrows⟩
          rw [hnumber, snapshot_currentNumber, hmade]
          rfl

/-- After any run a snapshot remembers the keys that it answered, and nothing else. -/
theorem keys_run (fallback : Policy) (o : Options) (actions : List Action)
    (hn : n ≤ ((new fallback o).run actions).currentNumber) :
    let s := ((new fallback o).run actions).snapshot n
    s.memo.keys = (answeredKeys n (new fallback o) actions).eraseDups ∧
      ∀ key ∈ s.memo.keys, s.policy.Declares key := by
  intro s
  have hfresh : ∃ fresh : Snapshot, fresh.memo = [] ∧
      fresh.Grows (answeredKeys n (new fallback o) actions) s := by
    rcases Nat.eq_zero_or_pos n with rfl | hpos
    · exact ⟨_, rfl, grows_run (new fallback o) actions (Nat.le_refl 0)⟩
    · exact exists_grows_run (new fallback o) actions hpos hn
  obtain ⟨fresh, hmemo, hgrows⟩ := hfresh
  have hkeys : s.memo.keys = (answeredKeys n (new fallback o) actions).eraseDups := by
    rw [hgrows.keys, hmemo]
    exact foldl_addNew [] _
  refine ⟨hkeys, fun key hkey => ?_⟩
  rw [hkeys, List.mem_eraseDups] at hkey
  rw [hgrows.policy]
  exact hgrows.declared key hkey

/-! ## Entries -/

/-- A request that is answered finds its entry in memory from then on. -/
theorem ask_request {id : String} {platform : Platform} {mode : Option String}
    {r : Memo.Entry × Cache} (h : c.ask n (·.request id platform mode) = .ok r)
    (hn : n ≤ c.currentNumber) :
    ∃ key, (c.snapshot n).policy.key? id platform mode = some key ∧
      (c.snapshot n).Grows [key] (r.2.snapshot n) ∧
      Memo.entry? (r.2.snapshot n).memo key = some r.1 ∧ n ≤ r.2.currentNumber := by
  obtain ⟨found, hfound, rfl⟩ := map_eq_ok.1 h
  obtain ⟨key, hkey, hgrows, hentry⟩ := Snapshot.request_grows hfound
  refine ⟨key, hkey, ?_⟩
  rw [snapshot_setSnapshot_self c hn, currentNumber_setSnapshot]
  exact ⟨hgrows, hentry, hn⟩

/-- Two requests to a snapshot, whatever happens between them, find the same entry exactly if
they have the same key. -/
theorem entry_eq_iff {id id' : String} {platform platform' : Platform} {mode mode' : Option String}
    {r r' : Memo.Entry × Cache} {more : List Action} (hn : n ≤ c.currentNumber)
    (h : c.ask n (·.request id platform mode) = .ok r)
    (h' : (r.2.run more).ask n (·.request id' platform' mode') = .ok r') :
    (r.1.place = r'.1.place ↔ (c.snapshot n).policy.key? id platform mode =
      (c.snapshot n).policy.key? id' platform' mode') ∧
    (r.1.place = r'.1.place → r.1 = r'.1) := by
  obtain ⟨key, hkey, hgrows, hentry, hr⟩ := ask_request h hn
  have hbetween := grows_run r.2 more hr
  obtain ⟨key', hkey', hgrows', hentry', -⟩ := ask_request h' ((run_keeps r.2 more hr).1)
  rw [hbetween.policy, hgrows.policy] at hkey'
  have hlast : Memo.entry? (r'.2.snapshot n).memo key = some r.1 :=
    Memo.entry?_of_prefix (hbetween.memo.trans hgrows'.memo) hentry
  have hplace := Memo.place_eq_iff hlast hentry'
  rw [hplace, hkey, hkey', Option.some.injEq]
  refine ⟨Iff.rfl, ?_⟩
  rintro rfl
  rw [hlast] at hentry'
  exact Option.some.inj hentry'

/-- What a snapshot remembers after any run, whichever modes were asked for.  Each key names a
destination of its policy, and no mode or one that the destination has.  There are as many
entries as different keys were answered, and no more than destinations with their modes on each
platform.  A question that fails leaves the cache as it is, and no entry is ever replaced: two
requests find the same one exactly if they have the same key. -/
theorem memo_bounded_and_stable (fallback : Policy) (o : Options) (actions : List Action) {n : Nat}
    (hn : n ≤ ((new fallback o).run actions).currentNumber) :
    let c := (new fallback o).run actions
    let s := c.snapshot n
    (∀ key ∈ s.memo.keys, s.policy.Declares key) ∧
    s.cached = (answeredKeys n (new fallback o) actions).eraseDups.length ∧
    s.cached ≤ 3 * (s.policy.destinations.map fun e => 1 + (e.2.filterModes.getD []).length).sum ∧
    (∀ a : Action, a.asked?.isSome → c.isAnswered a = false → c.perform a = c) ∧
    (∀ more, s.memo <+: ((c.run more).snapshot n).memo) ∧
    ∀ id platform mode id' platform' mode' more r r',
      c.ask n (·.request id platform mode) = .ok r →
      (r.2.run more).ask n (·.request id' platform' mode') = .ok r' →
      (r.1.place = r'.1.place ↔
        s.policy.key? id platform mode = s.policy.key? id' platform' mode') ∧
      (r.1.place = r'.1.place → r.1 = r'.1) := by
  intro c s
  obtain ⟨hkeys, hdeclared⟩ := keys_run fallback o actions hn
  have hcached : s.cached = s.memo.keys.length := by
    rw [Snapshot.cached, Memo.keys, List.length_map]
  refine ⟨hdeclared, ?_, ?_, fun a => perform_of_not_isAnswered, ?_, ?_⟩
  · rw [hcached, hkeys]
  · exact Snapshot.cached_le (hkeys ▸ nodup_eraseDups _) hdeclared
  · exact fun more => (grows_run c more hn).memo
  · intro id platform mode id' platform' mode' more r r'
    exact entry_eq_iff hn

def clubPolicy : Policy where
  version := "1"
  filterModeDefault := some .safe
  destinations := [
    ("news", { start := "urn:news", allow := ["*"], block := [] }),
    ("video", {
      start := "urn:video"
      allow := ["*"]
      block := []
      filterModes := some [("safe", { blockUrls := ["ads"] })] })]

/-- Questions to two snapshots, of which the second answers some under three keys. -/
def clubActions : List Action := [
  .request 0 "video" .ios none,
  .reset,
  .request 1 "video" .ios none,
  .verdict 1 "video" .ios "urn:video",
  .request 1 "video" .ios (some "strict"),
  .request 1 "music" .ios none,
  .request 0 "news" .ios none,
  .resource 1 "news" .android "urn:ads"]

/-- Three of the keys that the policy declares are answered, some of them twice. -/
theorem clubActions_bounded :
    1 ≤ ((new clubPolicy {}).run clubActions).currentNumber ∧
      (((new clubPolicy {}).run clubActions).snapshot 1).cached = 3 := by
  have hn : 1 ≤ ((new clubPolicy {}).run clubActions).currentNumber := by decide +kernel
  obtain ⟨-, hcached, -⟩ := memo_bounded_and_stable clubPolicy {} clubActions hn
  have hkeys : (answeredKeys 1 (new clubPolicy {}) clubActions).eraseDups =
      [⟨"video", .ios, some "safe"⟩, ⟨"video", .ios, none⟩, ⟨"news", .android, none⟩] := by
    decide +kernel
  exact ⟨hn, by rw [hcached, hkeys]; rfl⟩

end NavPolicy.Cache
