import Mathlib.Data.List.Basic
import Mathlib.Data.List.Find
import NavPolicy.Proofs.Decision.Targets

/-!
# The law of decisions

A verdict depends on the rules alone: the first allow matcher that matches some target decides,
then the first block matcher, whatever the order of the targets.  What is asked of a verdict
without the pattern depends only on which matchers there are, and more matchers of one kind
only ever decide its way.
-/

namespace NavPolicy

open NavPolicy.Pattern

/-- Whether a matcher matches one of some targets. -/
def Pattern.Matcher.Hits (m : Matcher) (ts : List String) : Prop :=
  ∃ t ∈ ts, m.isMatch t = true

/-- Whether a pattern is the source of the first matcher in a list that matches one of some
targets: the one at the lowest index. -/
def IsFirstHit (ts : List String) (ms : List Matcher) (pattern : String) : Prop :=
  ∃ i, ∃ hi : i < ms.length, ms[i].Hits ts ∧ ms[i].pattern = pattern ∧
    ∀ j, ∀ hj : j < i, ¬(ms.get ⟨j, hj.trans hi⟩).Hits ts

/-- Verdicts of one kind, by whichever patterns. -/
inductive Decision.SameKind : Decision → Decision → Prop where
  | allowed (p q : String) : SameKind (.allowed p) (.allowed q)
  | blocked (p q : String) : SameKind (.blocked p) (.blocked q)
  | unmatched : SameKind .unmatched .unmatched

section FirstHit

variable {ts : List String} {ms : List Matcher}

theorem any_isMatch_iff {m : Matcher} : ts.any m.isMatch = true ↔ m.Hits ts :=
  List.any_eq_true

theorem firstHit_eq_none_iff : firstHit ts ms = none ↔ ∀ m ∈ ms, ¬m.Hits ts := by
  rw [firstHit, List.find?_eq_none]
  simp only [any_isMatch_iff]

/-- Targets that are matched alike have the same first hit. -/
theorem firstHit_congr {ts' : List String} (h : ∀ m ∈ ms, m.Hits ts ↔ m.Hits ts') :
    firstHit ts ms = firstHit ts' ms := by
  apply List.find?_congr
  intro m hm
  rw [Bool.eq_iff_iff, any_isMatch_iff, any_isMatch_iff]
  exact h m hm

theorem exists_firstHit_iff : (∃ hit, firstHit ts ms = some hit) ↔ ∃ m ∈ ms, m.Hits ts := by
  rw [← Option.ne_none_iff_exists', ne_eq, firstHit_eq_none_iff]
  push Not
  rfl

theorem isFirstHit_iff {p : String} :
    IsFirstHit ts ms p ↔ ∃ hit, firstHit ts ms = some hit ∧ hit.pattern = p := by
  constructor
  · rintro ⟨i, hi, hhit, hp, hbefore⟩
    refine ⟨ms[i], ?_, hp⟩
    refine List.find?_eq_some_iff_getElem.2 ⟨any_isMatch_iff.2 hhit, i, hi, rfl, fun j hj => ?_⟩
    rw [Bool.not_eq_true', Bool.eq_false_iff, ne_eq, any_isMatch_iff]
    exact hbefore j hj
  · rintro ⟨hit, hfirst, hp⟩
    obtain ⟨hhit, i, hi, rfl, hbefore⟩ := List.find?_eq_some_iff_getElem.1 hfirst
    refine ⟨i, hi, any_isMatch_iff.1 hhit, hp, fun j hj hearlier => ?_⟩
    have hno := hbefore j hj
    rw [Bool.not_eq_true', Bool.eq_false_iff, ne_eq, any_isMatch_iff] at hno
    exact hno hearlier

end FirstHit

namespace Matchers

variable {m : Matchers} {url : String}

/-! ## One list of rules -/

/-- A navigation is allowed by the first allow pattern that matches. -/
theorem verdict_eq_allowed_iff {p : String} :
    m.verdict url = .allowed p ↔ IsFirstHit (targets url) m.allow p := by
  rw [isFirstHit_iff, verdict]
  cases firstHit (targets url) m.allow with
  | some hit => simp
  | none => cases firstHit (targets url) m.block <;> simp

/-- A navigation is blocked by the first block pattern that matches, if no allow pattern does. -/
theorem verdict_eq_blocked_iff {p : String} :
    m.verdict url = .blocked p ↔
      (∀ a ∈ m.allow, ¬a.Hits (targets url)) ∧ IsFirstHit (targets url) m.block p := by
  rw [isFirstHit_iff, ← firstHit_eq_none_iff, verdict]
  cases firstHit (targets url) m.allow with
  | some hit => simp
  | none => cases firstHit (targets url) m.block <;> simp

/-- A navigation is unmatched if no pattern matches. -/
theorem verdict_eq_unmatched_iff :
    m.verdict url = .unmatched ↔
      (∀ a ∈ m.allow, ¬a.Hits (targets url)) ∧ ∀ b ∈ m.block, ¬b.Hits (targets url) := by
  rw [← firstHit_eq_none_iff, ← firstHit_eq_none_iff, verdict]
  cases firstHit (targets url) m.allow with
  | some hit => simp
  | none => cases firstHit (targets url) m.block <;> simp

theorem allowsNavigation_iff_verdict :
    m.allowsNavigation url = true ↔ ∃ p, m.verdict url = .allowed p := by
  rw [allowsNavigation]
  cases m.verdict url <;> simp [Decision.isAllowed]

/-- Addresses whose targets are matched alike have the same verdict. -/
theorem verdict_congr {url' : String}
    (hallow : ∀ a ∈ m.allow, a.Hits (targets url) ↔ a.Hits (targets url'))
    (hblock : ∀ b ∈ m.block, b.Hits (targets url) ↔ b.Hits (targets url')) :
    m.verdict url = m.verdict url' := by
  rw [verdict, verdict, firstHit_congr hallow, firstHit_congr hblock]

/-- A navigation may proceed exactly if some allow matcher matches a target. -/
theorem allowsNavigation_iff :
    m.allowsNavigation url = true ↔ ∃ a ∈ m.allow, a.Hits (targets url) := by
  rw [allowsNavigation_iff_verdict, ← exists_firstHit_iff]
  simp only [verdict_eq_allowed_iff, isFirstHit_iff]
  constructor
  · rintro ⟨p, hit, hfirst, -⟩
    exact ⟨hit, hfirst⟩
  · rintro ⟨hit, hfirst⟩
    exact ⟨hit.pattern, hit, hfirst, rfl⟩

/-! ## Two lists of rules -/

/-- Lists with the same entries, in whatever order and however often. -/
structure SameEntries (m m' : Matchers) : Prop where
  allow : ∀ a, a ∈ m.allow ↔ a ∈ m'.allow
  block : ∀ b, b ∈ m.block ↔ b ∈ m'.block

variable {m' : Matchers}

/-- More allow patterns allow no less. -/
theorem allowsNavigation_mono (h : m.allow ⊆ m'.allow) (hallowed : m.allowsNavigation url = true) :
    m'.allowsNavigation url = true := by
  obtain ⟨a, ha, hhit⟩ := allowsNavigation_iff.1 hallowed
  exact allowsNavigation_iff.2 ⟨a, h ha, hhit⟩

/-- More block patterns block no less. -/
theorem blocks_mono (h : m.block ⊆ m'.block) (hblocked : m.blocks url = true) :
    m'.blocks url = true := by
  obtain ⟨b, hb, hhit⟩ := blocks_iff.1 hblocked
  exact blocks_iff.2 ⟨b, h hb, hhit⟩

theorem allowsNavigation_congr (h : ∀ a, a ∈ m.allow ↔ a ∈ m'.allow) :
    m'.allowsNavigation url = m.allowsNavigation url := by
  rw [Bool.eq_iff_iff]
  exact ⟨allowsNavigation_mono fun a => (h a).2, allowsNavigation_mono fun a => (h a).1⟩

theorem SameEntries.blocks_eq (h : m.SameEntries m') : m'.blocks url = m.blocks url := by
  rw [Bool.eq_iff_iff]
  exact ⟨blocks_mono fun b => (h.block b).2, blocks_mono fun b => (h.block b).1⟩

private theorem blocks_of_verdict_blocked {p : String} (h : m.verdict url = .blocked p) :
    m.blocks url = true := by
  obtain ⟨-, i, hi, hhit, -⟩ := verdict_eq_blocked_iff.1 h
  exact blocks_iff.2 ⟨_, List.getElem_mem hi, hhit⟩

theorem blocks_of_verdict_unmatched (h : m.verdict url = .unmatched) : m.blocks url = false := by
  rw [Bool.eq_false_iff, ne_eq, blocks_iff]
  rintro ⟨b, hb, hhit⟩
  exact (verdict_eq_unmatched_iff.1 h).2 b hb hhit

/-- Which kind a verdict is of can be told from the answers that name no pattern. -/
theorem verdict_sameKind (hnavigation : m'.allowsNavigation url = m.allowsNavigation url)
    (hblocks : m'.blocks url = m.blocks url) : (m'.verdict url).SameKind (m.verdict url) := by
  have hallowed : (m'.verdict url).isAllowed = (m.verdict url).isAllowed := hnavigation
  cases h : m.verdict url with
  | allowed p =>
      cases h' : m'.verdict url with
      | allowed q => exact .allowed q p
      | blocked q => simp [h, h', Decision.isAllowed] at hallowed
      | unmatched => simp [h, h', Decision.isAllowed] at hallowed
  | blocked p =>
      cases h' : m'.verdict url with
      | allowed q => simp [h, h', Decision.isAllowed] at hallowed
      | blocked q => exact .blocked q p
      | unmatched =>
          rw [blocks_of_verdict_blocked h, blocks_of_verdict_unmatched h'] at hblocks
          cases hblocks
  | unmatched =>
      cases h' : m'.verdict url with
      | allowed q => simp [h, h', Decision.isAllowed] at hallowed
      | blocked q =>
          rw [blocks_of_verdict_unmatched h, blocks_of_verdict_blocked h'] at hblocks
          cases hblocks
      | unmatched => exact .unmatched

/-! ## The law -/

/-- What the rules alone decide about an address, and what becomes of it when entries are
moved, repeated or added. -/
structure DecidesByRules (m : Matchers) (url : String) : Prop where
  allowed : ∀ p, m.verdict url = .allowed p ↔ IsFirstHit (targets url) m.allow p
  blocked : ∀ p, m.verdict url = .blocked p ↔
    (∀ a ∈ m.allow, ¬a.Hits (targets url)) ∧ IsFirstHit (targets url) m.block p
  unmatched : m.verdict url = .unmatched ↔
    (∀ a ∈ m.allow, ¬a.Hits (targets url)) ∧ ∀ b ∈ m.block, ¬b.Hits (targets url)
  navigation : m.allowsNavigation url = true ↔ ∃ p, m.verdict url = .allowed p
  blocks : m.blocks url = true ↔ ∃ b ∈ m.block, b.Hits (targets url)
  resource : m.allowsResource url = !m.blocks url
  /-- The order and the repetition of entries only tell which pattern is named. -/
  sameEntries : ∀ m' : Matchers, m.SameEntries m' →
    (m'.verdict url).SameKind (m.verdict url) ∧
      m'.allowsNavigation url = m.allowsNavigation url ∧
      m'.blocks url = m.blocks url ∧ m'.allowsResource url = m.allowsResource url
  /-- More allow entries deny no navigation. -/
  moreAllow : ∀ m' : Matchers, m.allow ⊆ m'.allow → m.allowsNavigation url = true →
    m'.allowsNavigation url = true
  /-- More block entries decide no navigation and let no resource through. -/
  moreBlock : ∀ m' : Matchers, (∀ a, a ∈ m.allow ↔ a ∈ m'.allow) → m.block ⊆ m'.block →
    m'.allowsNavigation url = m.allowsNavigation url ∧
      (m.blocks url = true → m'.blocks url = true) ∧
      (m.allowsResource url = false → m'.allowsResource url = false)

/-- Every decision about every address is made by the rules: by the first allow matcher that
matches a target, else by the first such block matcher. -/
theorem decidesByRules (m : Matchers) (url : String) : m.DecidesByRules url where
  allowed _ := verdict_eq_allowed_iff
  blocked _ := verdict_eq_blocked_iff
  unmatched := verdict_eq_unmatched_iff
  navigation := allowsNavigation_iff_verdict
  blocks := blocks_iff
  resource := rfl
  sameEntries m' h := by
    have hnavigation : m'.allowsNavigation url = m.allowsNavigation url :=
      allowsNavigation_congr h.allow
    have hblocks : m'.blocks url = m.blocks url := h.blocks_eq
    refine ⟨verdict_sameKind hnavigation hblocks, hnavigation, hblocks, ?_⟩
    rw [allowsResource, allowsResource, hblocks]
  moreAllow _ h := allowsNavigation_mono h
  moreBlock m' hallow hblock := by
    refine ⟨allowsNavigation_congr hallow, blocks_mono hblock, fun h => ?_⟩
    rw [allowsResource, Bool.not_eq_false'] at h ⊢
    exact blocks_mono hblock h

end Matchers

end NavPolicy
