import NavPolicy.Proofs.Decision.Targets

/-!
# More block patterns

Block patterns that are put behind the others decide only what was undecided.  A navigation
that some pattern had allowed or blocked gets the same verdict from the same pattern, and a
resource that loads in spite of the additional patterns loads without them.
-/

namespace NavPolicy

open NavPolicy.Pattern

/-- What is put behind does not change an earlier hit. -/
theorem firstHit_append (ts : List String) (ms more : List Matcher) :
    firstHit ts (ms ++ more) = (firstHit ts ms).or (firstHit ts more) :=
  List.find?_append

namespace Matchers

variable {weak strict : Matchers} {more : List Matcher}

/-- The matchers of `strict` are those of `weak` and more block matchers behind them. -/
structure Extends (strict weak : Matchers) (more : List Matcher) : Prop where
  allow : strict.allow = weak.allow
  block : strict.block = weak.block ++ more

/-- The verdict under more block matchers: theirs where the others leave a navigation
undecided. -/
theorem Extends.verdict_eq (h : strict.Extends weak more) (url : String) :
    strict.verdict url =
      match weak.verdict url with
      | .unmatched => verdict ⟨[], more⟩ url
      | decided => decided := by
  simp only [verdict, h.allow, h.block, firstHit_append]
  cases firstHit (targets url) weak.allow with
  | some hit => rfl
  | none =>
      cases firstHit (targets url) weak.block with
      | some hit => rfl
      | none => rfl

/-- Without allow matchers a navigation is blocked by one of the block matchers or undecided. -/
theorem verdict_without_allow (ms : List Matcher) (url : String) :
    verdict ⟨[], ms⟩ url = .unmatched ∨ ∃ m ∈ ms, verdict ⟨[], ms⟩ url = .blocked m.pattern := by
  cases hhit : firstHit (targets url) ms with
  | none =>
      refine Or.inl ?_
      rw [verdict, hhit]
      rfl
  | some m =>
      refine Or.inr ⟨m, (firstHit_eq_some hhit).1, ?_⟩
      rw [verdict, hhit]
      rfl

private theorem Extends.blocks_eq (h : strict.Extends weak more) (url : String) :
    strict.blocks url = (weak.blocks url || blocks ⟨[], more⟩ url) := by
  simp only [blocks, h.block, firstHit_append, Option.isSome_or]

/-- What loads in spite of more block matchers loads without them. -/
theorem Extends.allowsResource (h : strict.Extends weak more) {url : String}
    (hloads : strict.allowsResource url = true) : weak.allowsResource url = true := by
  rw [Matchers.allowsResource, h.blocks_eq, Bool.not_or, Bool.and_eq_true] at hloads
  exact hloads.1

end Matchers

end NavPolicy
