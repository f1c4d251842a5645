import NavPolicy.Script.Spec

/-!
# What a mode adds to a script

The selectors and the scripts of a mode come behind those of the destination.  So the list of
selectors and the section of scripts that a page gets without the mode are where those with the
mode begin, even where a selector of the mode repeats one of the destination.
-/

namespace NavPolicy.Script

/-- Going on only adds names behind those that were found. -/
theorem prefix_foldl_found (names found : List String) :
    found <+: names.foldl (fun found s => if found.contains s then found else found ++ [s])
      found := by
  induction names generalizing found with
  | nil => exact List.prefix_rfl
  | cons name names ih =>
      rw [List.foldl_cons]
      split
      · exact ih found
      · exact (List.prefix_append found [name]).trans (ih _)

private theorem firstOccurrences_isPrefix (names more : List String) :
    firstOccurrences names <+: firstOccurrences (names ++ more) := by
  rw [firstOccurrences, firstOccurrences, List.foldl_append]
  exact prefix_foldl_found more _

/-- Parts that are joined begin with the join of the first of them. -/
theorem exists_intercalate_append (sep : String) (parts more : List String) :
    ∃ rest, sep.intercalate (parts ++ more) = sep.intercalate parts ++ rest := by
  -- A separator stands between the two lists only if there is something on both sides of it.
  by_cases hparts : parts = []
  · subst hparts
    exact ⟨sep.intercalate more, by simp⟩
  · by_cases hmore : more = []
    · subst hmore
      exact ⟨"", by simp⟩
    · refine ⟨sep ++ sep.intercalate more, ?_⟩
      rw [String.intercalate_append_of_ne_nil hparts hmore, String.append_assoc]

namespace Spec

def plain (s : Spec) : Spec := { s with mode := none }

/-- A mode only adds selectors, behind those of its destination. -/
theorem hideSelectors_plain_isPrefix (s : Spec) : s.plain.hideSelectors <+: s.hideSelectors := by
  have hplain : s.plain.hideSelectors =
      firstOccurrences ((s.dom.map DomRules.hide).getD []) := by
    simp [hideSelectors, plain]
  rw [hplain]
  exact firstOccurrences_isPrefix _ _

/-- A mode only adds to the scripts of its destination. -/
theorem exists_customScript_eq (s : Spec) :
    ∃ rest, s.customScript = s.plain.customScript ++ rest := by
  have hplain : s.plain.customScript = "\n".intercalate (s.dom.bind DomRules.script).toList := by
    simp [customScript, plain]
  rw [hplain]
  exact exists_intercalate_append "\n" _ _

end Spec

end NavPolicy.Script
