import Mathlib.Data.List.DropRight
import NavPolicy.Proofs.Decision.Law
import NavPolicy.Proofs.Pattern.GlobExpression

/-!
# Blanks around patterns

Matchers are compiled from patterns without the blanks around them, and a pattern of blanks alone
matches nothing.  So the blanks may as well be taken off before, and the patterns that nothing
remains of be left out: the matchers that are left match the same.
-/

namespace NavPolicy

open NavPolicy.Pattern NavPolicy.Text

/-! ## Trimmed texts -/

namespace Text

private theorem trimBlanks_eq_rdropWhile (cs : List Char) :
    trimBlanks cs = (cs.dropWhile isBlank).rdropWhile isBlank := rfl

/-- What is cut off at the end does not bring a blank to the front. -/
theorem dropWhile_trimBlanks (cs : List Char) :
    (trimBlanks cs).dropWhile isBlank = trimBlanks cs := by
  rw [List.dropWhile_eq_self_iff]
  intro hlength
  have hfront : trimBlanks cs <+: cs.dropWhile isBlank := List.rdropWhile_prefix isBlank _
  rw [hfront.getElem hlength]
  exact List.dropWhile_get_zero_not isBlank cs (hlength.trans_le hfront.length_le)

@[simp]
theorem trimBlanks_trimBlanks (cs : List Char) : trimBlanks (trimBlanks cs) = trimBlanks cs := by
  rw [trimBlanks_eq_rdropWhile (trimBlanks cs), dropWhile_trimBlanks, trimBlanks_eq_rdropWhile,
    List.rdropWhile_idempotent]

theorem trim_eq_empty_iff {s : String} : trim s = "" ↔ trimBlanks s.toList = [] := by
  rw [trim, String.ofList_eq_empty_iff]

end Text

/-- Patterns without the blanks around them, and without those that are blank. -/
def trimPatterns (patterns : List String) : List String :=
  (patterns.map trim).filter fun p => p ≠ ""

theorem mem_trimPatterns_iff {patterns : List String} {q : String} :
    q ∈ trimPatterns patterns ↔ ∃ p ∈ patterns, trim p = q ∧ q ≠ "" := by
  simp only [trimPatterns, List.mem_filter, List.mem_map, decide_eq_true_eq]
  constructor
  · rintro ⟨⟨p, hp, hq⟩, hne⟩
    exact ⟨p, hp, hq, hne⟩
  · rintro ⟨p, hp, hq, hne⟩
    exact ⟨⟨p, hp, hq⟩, hne⟩

theorem trimPatterns_append (patterns more : List String) :
    trimPatterns (patterns ++ more) = trimPatterns patterns ++ trimPatterns more := by
  rw [trimPatterns, List.map_append, List.filter_append]
  rfl

/-- A pattern without blanks around it that is not blank. -/
def IsTrimmed (pattern : String) : Prop := trim pattern = pattern ∧ pattern ≠ ""

instance : DecidablePred IsTrimmed := fun pattern =>
  inferInstanceAs (Decidable (trim pattern = pattern ∧ pattern ≠ ""))

theorem trimPatterns_eq_self {patterns : List String} (h : ∀ p ∈ patterns, IsTrimmed p) :
    trimPatterns patterns = patterns := by
  have hmap : patterns.map trim = patterns := by
    rw [List.map_congr_left fun p hp => (h p hp).1, List.map_id']
  rw [trimPatterns, hmap, List.filter_eq_self]
  exact fun p hp => decide_eq_true (h p hp).2

/-! ## Matchers of trimmed patterns -/

namespace Pattern.Matcher

variable {pattern : String} {ts : List String}

private theorem core_trim (pattern : String) : core (trim pattern) = core pattern := by
  rw [core, trim, String.toList_ofList, trimBlanks_trimBlanks, core]

/-- The matcher of a trimmed pattern differs only in the pattern that it names. -/
theorem compile_trim (pattern : String) :
    compile (trim pattern) = { compile pattern with pattern := trim pattern } := by
  have htext : trimBlanks (trim pattern).toList = trimBlanks pattern.toList := core_trim pattern
  simp only [compile, htext]

theorem hits_compile_trim : (compile (trim pattern)).Hits ts ↔ (compile pattern).Hits ts := by
  rw [compile_trim]
  rfl

/-- A blank pattern matches nothing. -/
theorem not_hits_of_trim_eq_empty (h : trim pattern = "") : ¬(compile pattern).Hits ts := by
  have hnone : (compile pattern).compiled = none := by
    simp only [compile, trim_eq_empty_iff.1 h, List.isEmpty_nil, if_true]
  rintro ⟨t, -, hmatch⟩
  rw [isMatch, hnone] at hmatch
  cases hmatch

theorem exists_hits_trimPatterns_iff {patterns : List String} :
    (∃ m ∈ (trimPatterns patterns).map compile, m.Hits ts) ↔
      ∃ m ∈ patterns.map compile, m.Hits ts := by
  simp only [List.mem_map, exists_exists_and_eq_and, mem_trimPatterns_iff]
  constructor
  · rintro ⟨_, ⟨p, hp, rfl, -⟩, hhit⟩
    exact ⟨p, hp, hits_compile_trim.1 hhit⟩
  · rintro ⟨p, hp, hhit⟩
    have hne : trim p ≠ "" := fun hblank => not_hits_of_trim_eq_empty hblank hhit
    exact ⟨trim p, ⟨p, hp, rfl, hne⟩, hits_compile_trim.2 hhit⟩

end Pattern.Matcher

namespace Matchers

/-- Blanks around patterns do not matter to a navigation. -/
theorem allowsNavigation_trimPatterns (allow block : List String) (url : String) :
    (compile (trimPatterns allow) (trimPatterns block)).allowsNavigation url =
      (compile allow block).allowsNavigation url := by
  rw [Bool.eq_iff_iff, allowsNavigation_iff, allowsNavigation_iff]
  exact Matcher.exists_hits_trimPatterns_iff

/-- Blanks around patterns do not matter to the matchers. -/
theorem blocks_trimPatterns (allow block : List String) (url : String) :
    (compile (trimPatterns allow) (trimPatterns block)).blocks url =
      (compile allow block).blocks url := by
  rw [Bool.eq_iff_iff, blocks_iff, blocks_iff]
  exact Matcher.exists_hits_trimPatterns_iff

end Matchers

end NavPolicy
