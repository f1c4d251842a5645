import NavPolicy.Proofs.Decision.Targets
import NavPolicy.Proofs.FirstOccurrences
import NavPolicy.Proofs.Url.Serialization

/-!
# The list of targets

The targets of an address are its text and then its projections, without the empty ones and
each where it comes first.  What is matched besides the text holds no fragment, and a query
only where the path is taken with it.
-/

namespace NavPolicy

/-- The path with the query behind it, if there is a query that is not empty. -/
def Url.pathWithQuery? (u : Url) : Option String :=
  (u.query.filter (· ≠ "")).map fun q => u.path ++ ("?" ++ q)

def Url.candidates (u : Url) : List String :=
  [u.originText ++ u.path, u.path] ++ u.pathWithQuery?.toList ++ [u.hostText]

/-! ## First occurrences -/

private theorem addTarget_eq (found : List String) (target : String) :
    addTarget found target = if target = "" then found else addNew found target := by
  rw [addTarget, addNew]
  by_cases h : target = "" <;> simp [h]

private theorem foldl_addTarget (found added : List String) :
    added.foldl addTarget found = (added.filter (· ≠ "")).foldl addNew found := by
  induction added generalizing found with
  | nil => rfl
  | cons target added ih =>
      rw [List.foldl_cons, ih, addTarget_eq]
      by_cases h : target = "" <;> simp [h]

/-- A target that was just added is not added again. -/
theorem addTarget_self (found : List String) (target : String) :
    addTarget (addTarget found target) target = addTarget found target := by
  by_cases hempty : target = ""
  · simp [addTarget, hempty]
  · have hmem : target ∈ addTarget found target := mem_addTarget_iff.2 (Or.inr ⟨rfl, hempty⟩)
    rw [addTarget, List.contains_iff_mem.2 hmem, Bool.or_true, if_pos rfl]

/-- Where there is no query, the path stands twice among the projections, which adds nothing. -/
theorem Url.foldl_projections (u : Url) (found : List String) :
    u.projections.foldl addTarget found = u.candidates.foldl addTarget found := by
  have hnone : u.search = "" → u.pathWithQuery? = none →
      u.projections.foldl addTarget found = u.candidates.foldl addTarget found := by
    intro hsearch hquery
    simp only [projections, candidates, hsearch, hquery, Option.toList_none, List.append_nil,
      String.append_empty, List.cons_append, List.nil_append, List.foldl_cons, addTarget_self]
  cases hquery : u.query with
  | none => exact hnone (by rw [search, hquery]) (by rw [pathWithQuery?, hquery]; rfl)
  | some q =>
      by_cases hempty : q = ""
      · exact hnone (by simp [search, hquery, hempty])
          (by simp [pathWithQuery?, hquery, Option.filter, hempty])
      · have hsearch : u.search = "?" ++ q := by simp [search, hquery, hempty]
        have hpath : u.pathWithQuery? = some (u.path ++ ("?" ++ q)) := by
          simp [pathWithQuery?, hquery, Option.filter, hempty]
        simp only [projections, candidates, hsearch, hpath, Option.toList_some, List.cons_append,
          List.nil_append]

/-- The targets are the text and the parts of the address, each where it first comes. -/
theorem targets_eq {text : String} {u : Url} (hparse : Url.parse text = .ok u) :
    targets text = (text :: u.candidates.filter (· ≠ "")).eraseDups := by
  have htargets : targets text = u.projections.foldl addTarget [text] := by rw [targets, hparse]
  rw [htargets, u.foldl_projections, foldl_addTarget]
  exact foldl_addNew [text] (u.candidates.filter (· ≠ ""))

/-! ## Signs -/

section Signs

variable {text : String} {u : Url}

theorem not_mem_of_isPathEnd {s : List Char} (h : ∀ c ∈ s, Url.isPathEnd c = false) {c : Char}
    (hc : Url.isPathEnd c = true) : c ∉ s := by
  intro hmem
  rw [h c hmem] at hc
  cases hc

/-- The origin, the path and the host hold no sign that begins a query or a fragment. -/
theorem isPathEnd_of_mem_candidate (hparse : Url.parse text = .ok u) {t : String}
    (ht : t ∈ [u.originText ++ u.path, u.path, u.hostText]) :
    ∀ c ∈ t.toList, Url.isPathEnd c = false := by
  have hdelimited := Url.isDelimited_of_parse hparse
  simp only [List.mem_cons, List.not_mem_nil, or_false] at ht
  rcases ht with rfl | rfl | rfl
  · rw [String.toList_append]
    exact List.forall_mem_append.2
      ⟨Url.isPathEnd_of_mem_originText hparse, hdelimited.path⟩
  · exact hdelimited.path
  · exact fun c hc => (hdelimited.host.plain c hc).1

private theorem hash_not_mem_pathWithQuery? (hparse : Url.parse text = .ok u) {t : String}
    (ht : u.pathWithQuery? = some t) : '#' ∉ t.toList := by
  have hdelimited := Url.isDelimited_of_parse hparse
  obtain ⟨q, hq, rfl⟩ := Option.map_eq_some_iff.1 ht
  have hquery : u.query = some q := (Option.filter_eq_some_iff.1 hq).1
  simp only [String.toList_append, List.mem_append, not_or]
  exact ⟨not_mem_of_isPathEnd hdelimited.path (by decide), by decide, hdelimited.query q hquery⟩

private theorem hash_not_mem_candidates (hparse : Url.parse text = .ok u) {t : String}
    (ht : t ∈ u.candidates) : '#' ∉ t.toList := by
  have hplain : t ∈ [u.originText ++ u.path, u.path, u.hostText] ∨ u.pathWithQuery? = some t := by
    simp only [Url.candidates, List.mem_append, List.mem_cons, List.not_mem_nil, or_false,
      Option.mem_toList] at ht ⊢
    tauto
  rcases hplain with hplain | hquery
  · exact not_mem_of_isPathEnd (isPathEnd_of_mem_candidate hparse hplain) (by decide)
  · exact hash_not_mem_pathWithQuery? hparse hquery

end Signs

/-- A text that is no address is the only target.  Otherwise the targets are the text and then
what else may be matched, without the empty ones and each where it comes first.  So the text is
the first target, no target comes twice, and behind the text no target is empty or holds a
fragment; and of an address only the path with its query holds a question mark. -/
theorem targets_law (text : String) :
    (match Url.parse text with
      | .error _ => targets text = [text]
      | .ok u => targets text = (text :: u.candidates.filter (· ≠ "")).eraseDups ∧
          ∀ t ∈ [u.originText ++ u.path, u.path, u.hostText], '?' ∉ t.toList) ∧
    (targets text).head? = some text ∧ (targets text).Nodup ∧
    ∀ t ∈ (targets text).tail, t ≠ "" ∧ '#' ∉ t.toList := by
  cases hparse : Url.parse text with
  | error e =>
      have htargets : targets text = [text] := by rw [targets, hparse]
      simp [htargets]
  | ok u =>
      have htargets := targets_eq hparse
      refine ⟨⟨htargets, fun t ht => ?_⟩, ?_⟩
      · exact not_mem_of_isPathEnd (isPathEnd_of_mem_candidate hparse ht) (by decide)
      · rw [htargets]
        refine ⟨by rw [List.eraseDups_cons, List.head?_cons], nodup_eraseDups _, fun t ht => ?_⟩
        rw [List.eraseDups_cons, List.tail_cons, List.mem_eraseDups, List.mem_filter,
          List.mem_filter] at ht
        exact ⟨by simpa using ht.1.2, hash_not_mem_candidates hparse ht.1.1⟩

/-- A query that is empty, and an origin and a host that are missing. -/
example : targets "urn:a?#b" = ["urn:a?#b", "nulla", "a"] := by decide +kernel

end NavPolicy
