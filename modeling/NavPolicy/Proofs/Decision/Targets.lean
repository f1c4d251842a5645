import NavPolicy.Decision
import NavPolicy.Proofs.Url.Origin

/-!
# Targets and hits

The targets of an address are its text and its projections, and nothing else.  A verdict
that allows a navigation comes from a matcher that matches one of them.
-/

namespace NavPolicy

open NavPolicy.Pattern

/-- Adding a target loses none, and an empty one is not added. -/
theorem mem_addTarget_iff {found : List String} {target t : String} :
    t ∈ addTarget found target ↔ t ∈ found ∨ (t = target ∧ t ≠ "") := by
  rw [addTarget]
  split
  · rename_i hskipped
    rw [Bool.or_eq_true, String.isEmpty_iff, List.contains_iff_mem] at hskipped
    constructor
    · exact Or.inl
    · rintro (h | ⟨rfl, hne⟩)
      · exact h
      · exact hskipped.resolve_left hne
  · rename_i hadded
    rw [Bool.or_eq_true, String.isEmpty_iff, not_or] at hadded
    rw [List.mem_append, List.mem_singleton]
    apply or_congr_right
    constructor
    · rintro rfl
      exact ⟨rfl, hadded.1⟩
    · exact And.left

private theorem mem_foldl_addTarget_iff {found added : List String} {t : String} :
    t ∈ added.foldl addTarget found ↔ t ∈ found ∨ (t ∈ added ∧ t ≠ "") := by
  induction added generalizing found with
  | nil => simp
  | cons target added ih =>
      rw [List.foldl_cons, ih, mem_addTarget_iff, List.mem_cons, or_and_right, or_assoc]

/-- The targets of an address are its text and its projections, the empty ones left out. -/
theorem mem_targets_iff {text t : String} {u : Url} (hparse : Url.parse text = .ok u) :
    t ∈ targets text ↔ t = text ∨ (t ∈ u.projections ∧ t ≠ "") := by
  rw [targets, hparse]
  simp only [mem_foldl_addTarget_iff, List.mem_singleton]

/-- A target is the text itself or a part of the address. -/
theorem mem_targets {text t : String} {u : Url} (hparse : Url.parse text = .ok u)
    (h : t ∈ targets text) : t = text ∨ t ∈ u.projections :=
  ((mem_targets_iff hparse).1 h).imp_right And.left

/-- The text itself is among the targets. -/
theorem self_mem_targets (text : String) : text ∈ targets text := by
  cases hparse : Url.parse text with
  | error e =>
      rw [targets, hparse]
      exact List.mem_singleton.2 rfl
  | ok u => exact (mem_targets_iff hparse).2 (Or.inl rfl)

/-- No projection of an address that was read holds a line feed. -/
theorem newline_not_mem_projections {u : Url} (hread : Url.IsRead u) {t : String}
    (ht : t ∈ u.projections) : '\n' ∉ t.toList := by
  have hsearch : '\n' ∉ u.search.toList := by
    rw [Url.search]
    split
    · decide
    · rename_i q hq
      split
      · decide
      · rw [String.toList_append, List.mem_append, not_or]
        exact ⟨by decide, hread.query q hq⟩
  have horigin : '\n' ∉ (u.originText ++ u.path).toList := by
    rcases Url.originPath_cases hread with hnull | ⟨v, hv, htext, -⟩
    · rw [hnull, List.mem_append, not_or]
      exact ⟨by decide, hread.newline⟩
    · rw [htext]
      simp only [List.mem_append, List.mem_cons, not_or]
      exact ⟨hv.scheme_isHostText.newline, by decide, by decide, by decide,
        hv.isHostText_endpoint.newline, hread.newline⟩
  simp only [Url.projections, List.mem_cons, List.not_mem_nil, or_false] at ht
  rcases ht with rfl | rfl | rfl | rfl
  · exact horigin
  · exact hread.newline
  · rw [String.toList_append, List.mem_append, not_or]
    exact ⟨hread.newline, hsearch⟩
  · exact hread.host.newline

/-- A hit is one of the matchers and matches a target. -/
theorem firstHit_eq_some {ts : List String} {ms : List Matcher} {m : Matcher}
    (h : firstHit ts ms = some m) : m ∈ ms ∧ ∃ t ∈ ts, m.isMatch t = true := by
  have hhit := List.find?_some h
  exact ⟨List.mem_of_find?_eq_some h, List.any_eq_true.1 hhit⟩

/-- An allowed navigation was matched by the pattern that it is reported with. -/
theorem Matchers.exists_of_verdict_allowed {m : Matchers} {text p : String}
    (h : m.verdict text = .allowed p) :
    ∃ hit ∈ m.allow, hit.pattern = p ∧ ∃ t ∈ targets text, hit.isMatch t = true := by
  unfold Matchers.verdict at h
  simp only at h
  split at h
  · rename_i hit hhit
    cases h
    obtain ⟨hmem, hmatch⟩ := firstHit_eq_some hhit
    exact ⟨hit, hmem, rfl, hmatch⟩
  · split at h <;> cases h

/-- A single allow matcher decides every text that has a target it matches. -/
theorem Matchers.verdict_of_isMatch {m : Matcher} {block : List Matcher} {text t : String}
    (ht : t ∈ targets text) (h : m.isMatch t = true) :
    Matchers.verdict ⟨[m], block⟩ text = .allowed m.pattern := by
  have hany : (targets text).any m.isMatch = true := List.any_eq_true.2 ⟨t, ht, h⟩
  simp [Matchers.verdict, firstHit, hany]

/-- A text is blocked exactly if some block matcher matches one of its targets. -/
theorem Matchers.blocks_iff {m : Matchers} {text : String} :
    m.blocks text = true ↔ ∃ b ∈ m.block, ∃ t ∈ targets text, b.isMatch t = true := by
  simp [Matchers.blocks, firstHit]

end NavPolicy
