import NavPolicy.Proofs.FirstOccurrences
import NavPolicy.Script.Spec

/-!
# The selectors that a script hides

The selectors of a destination and of a mode are merged into one list, which loses none,
repeats none and keeps the order in which they first come.  To merge the mode's selectors
once more changes nothing.
-/

namespace NavPolicy.Script

private theorem firstOccurrences_eq_eraseDups (names : List String) :
    firstOccurrences names = names.eraseDups :=
  foldl_addNew [] names

namespace Spec

/-- The selectors as they are written: those of the destination and then those of the mode. -/
def writtenSelectors (s : Spec) : List String :=
  (s.dom.map DomRules.hide).getD [] ++ (s.mode.map FilterMode.hideSelectors).getD []

/-- Selectors that are hidden twice are kept where they first come. -/
theorem hideSelectors_eq (s : Spec) : s.hideSelectors = s.writtenSelectors.eraseDups :=
  firstOccurrences_eq_eraseDups _

private theorem mem_writtenSelectors_iff {s : Spec} {selector : String} :
    selector ∈ s.writtenSelectors ↔
      (∃ dom ∈ s.dom, selector ∈ dom.hide) ∨ ∃ mode ∈ s.mode, selector ∈ mode.hideSelectors := by
  rw [writtenSelectors, List.mem_append]
  cases s.dom <;> cases s.mode <;> simp

/-- The selectors with the merged list in the place of the destination's. -/
theorem writtenSelectors_merged (s : Spec) (dom : DomRules) :
    { s with dom := some { dom with hide := s.hideSelectors } }.writtenSelectors =
      s.writtenSelectors.eraseDups ++ (s.mode.map FilterMode.hideSelectors).getD [] := by
  rw [← hideSelectors_eq]
  rfl

/-- No selector is hidden twice, those that are hidden are those of the destination and those of
the mode, and they come in the order in which they are first written.  The mode adds nothing to a
destination that hides them all already. -/
theorem hideSelectors_merge (s : Spec) :
    s.hideSelectors.Nodup ∧
    (∀ selector, selector ∈ s.hideSelectors ↔
      (∃ dom ∈ s.dom, selector ∈ dom.hide) ∨ ∃ mode ∈ s.mode, selector ∈ mode.hideSelectors) ∧
    (s.hideSelectors.Pairwise fun a b =>
      s.writtenSelectors.idxOf a < s.writtenSelectors.idxOf b) ∧
    ∀ dom : DomRules, { s with dom := some { dom with hide := s.hideSelectors } }.hideSelectors =
      s.hideSelectors := by
  have hmode : (s.mode.map FilterMode.hideSelectors).getD [] ⊆ s.writtenSelectors :=
    List.subset_append_right _ _
  refine ⟨?_, fun selector => ?_, ?_, fun dom => ?_⟩
  · rw [hideSelectors_eq]
    exact nodup_eraseDups _
  · rw [hideSelectors_eq, List.mem_eraseDups]
    exact mem_writtenSelectors_iff
  · rw [hideSelectors_eq]
    exact pairwise_idxOf_eraseDups _
  · rw [hideSelectors_eq, writtenSelectors_merged, eraseDups_append_of_subset hmode,
      hideSelectors_eq]

end Spec

end NavPolicy.Script
