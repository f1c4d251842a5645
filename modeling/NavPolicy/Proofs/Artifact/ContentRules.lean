import NavPolicy.Proofs.Artifact.Compiled
import NavPolicy.Proofs.Decision.Targets
import NavPolicy.Proofs.Pattern.GlobExpression
import NavPolicy.Proofs.Pattern.Surroundings

/-!
# What content rules block

The filter of a content rule is a block pattern taken as it was written, so the rule fires
wherever an address holds that text.  The decision reads the same pattern as a glob and
blocks the address only if the text stands where the glob admits it.
-/

namespace NavPolicy

open NavPolicy.Pattern NavPolicy.Regex

namespace Artifact

/-- How filters spell characters. -/
def filterSpelling : Spelling where
  escapes := isFilterMeta
  covers _ hc := of_contains (by decide) hc
  escaped _ hc := of_contains (by decide) hc

/-- Whether a rule fires for the load of a page: its filter, an expression without anchors
of its own, is found in the address, and the host is one of those it is made for. -/
def ContentRule.fires (r : ContentRule) (text : String) (u : Url) : Bool :=
  (parsePiece r.urlFilter.toList).any (·.expr.isFoundIn text.toList) &&
    match r.ifDomain with
    | none => true
    | some hosts => hosts.any fun h => u.host.map Url.Host.text == some h

/-- A filter is a text with its signs escaped. -/
theorem toList_urlFilter (pattern : String) :
    (urlFilter pattern).toList = filterSpelling.text pattern.toList := by
  rw [urlFilter, String.toList_ofList]
  rfl

/-- The filter of a pattern is found exactly where an address holds the pattern. -/
theorem filter_isFoundIn_iff (pattern text : String) :
    (parsePiece (urlFilter pattern).toList).any (·.expr.isFoundIn text.toList) = true ↔
      pattern.toList <:+: text.toList := by
  rw [toList_urlFilter]
  exact filterSpelling.isFoundIn_text_iff _ _

/-- Every rule of a destination is made from one of the block patterns in effect. -/
theorem exists_of_mem_contentRules {d : Destination} {mode host : Option String} {r : ContentRule}
    (h : r ∈ contentRules d mode host) :
    ∃ p ∈ d.effectiveBlock mode, r.urlFilter = urlFilter p := by
  rw [contentRules] at h
  rcases List.mem_append.1 h with h | h
  · obtain ⟨p, hp, rfl⟩ := List.mem_map.1 h
    exact ⟨p, List.mem_append_left _ hp, rfl⟩
  · obtain ⟨p, hp, rfl⟩ := List.mem_map.1 h
    exact ⟨p, List.mem_append_right _ hp, rfl⟩

end Artifact

open Artifact

/-- The core of a pattern stands in the pattern. -/
theorem Pattern.Matcher.core_isInfix (pattern : String) :
    Matcher.core pattern <:+: pattern.toList := by
  let behind := pattern.toList.dropWhile Text.isBlank
  have hfront : behind <:+ pattern.toList := List.dropWhile_suffix Text.isBlank
  have hback : behind.reverse.dropWhile Text.isBlank <:+ behind.reverse :=
    List.dropWhile_suffix Text.isBlank
  have hcore : Matcher.core pattern <+: behind := by
    rw [← List.reverse_suffix, core, Text.trimBlanks, List.reverse_reverse]
    exact hback
  exact hcore.isInfix.trans hfront.isInfix

/-- A glob matches a target of an address in its final form that holds it in surroundings that
it admits. -/
theorem isMatch_of_holds {p text t : String} {u : Url} (hparse : Url.parse text = .ok u)
    (hcanonical : u.text = text) (hglob : (Matcher.compile p).kind = .glob) (ht : t ∈ targets text)
    (hholds : Pattern.Glob.Holds (Matcher.core p) t.toList) :
    (Matcher.compile p).isMatch t = true := by
  have hread := Url.isRead_of_parse hparse
  have hline : '\n' ∉ t.toList := by
    rcases mem_targets hparse ht with rfl | hprojection
    · rw [← hcanonical]
      exact hread.newline_not_mem_text
    · exact newline_not_mem_projections hread hprojection
  exact (Matcher.isMatch_iff_accepts hglob t).2 (hholds.accepts hline)

/-! ## A rule that blocks more than its pattern -/

/-- A destination that blocks a path. -/
def explore : Destination where
  start := "https://www.example.com/"
  allow := []
  block := ["/explore"]

def exploreRule : ContentRule := ⟨urlFilter "/explore", some ["www.example.com"]⟩

def explorePage (path : String) : Url where
  scheme := "https"
  hasAuthority := true
  host := some (.name "www.example.com")
  path := path

theorem compile_explore :
    ∃ a, explore.compile .ios none {} = .ok a ∧ a.native = .contentRules (.of [exploreRule]) ∧
      a.matchers = .compile [] ["/explore"] := by
  have hstart : Url.parse explore.start = .ok (explorePage "/") := by decide +kernel
  exact ⟨_, Destination.compile_eq_ok.2 ⟨_, hstart, rfl⟩, rfl, rfl⟩

/-- The rule fires wherever the path stands in the address. -/
theorem exploreRule_fires {path text : String} (h : "/explore".toList <:+: text.toList) :
    exploreRule.fires text (explorePage path) = true := by
  rw [ContentRule.fires, Bool.and_eq_true]
  constructor
  · exact (filter_isFoundIn_iff "/explore" text).2 h
  · simp [exploreRule, explorePage, Url.Host.text]

theorem kind_explore : (Matcher.compile "/explore").kind = .glob :=
  Matcher.kind_eq_glob (by decide) (by decide) (by decide)

theorem holds_explore_iff {text : List Char} :
    Pattern.Glob.Holds (Matcher.core "/explore") text ↔
      ∃ z q, text = "/explore".toList ++ (z ++ q) ∧ (z = [] ∨ z = ['/']) ∧
        Pattern.Glob.IsTail q := by
  have hshape : Pattern.Glob.shape "/explore".toList = .path := by decide
  have hstem : Pattern.Glob.stem "/explore".toList = "/explore".toList := by decide
  rw [show Matcher.core "/explore" = "/explore".toList by decide]
  simp only [Pattern.Glob.Holds, Pattern.Glob.Admits, hshape, hstem, and_true]
  constructor
  · rintro ⟨_, _, rfl, rfl, z, q, rfl, hz, hq⟩
    exact ⟨z, q, rfl, hz, hq⟩
  · rintro ⟨z, q, rfl, hz, hq⟩
    exact ⟨[], z ++ q, rfl, rfl, z, q, rfl, hz, hq⟩

private theorem not_holds_explore_nested :
    ¬ Pattern.Glob.Holds (Matcher.core "/explore") "/explore/nested".toList := by
  intro h
  obtain ⟨z, q, htext, hz, hq⟩ := holds_explore_iff.1 h
  have hnested : "/nested".toList = z ++ q := by
    have heq : "/explore".toList ++ "/nested".toList = "/explore".toList ++ (z ++ q) := htext
    exact List.append_cancel_left heq
  rcases hz with rfl | rfl <;> rcases hq with rfl | ⟨c, r, rfl, hc, -⟩
  · cases hnested
  · cases hnested
    exact absurd hc (by decide)
  · cases hnested
  · cases hnested
    exact absurd hc (by decide)

private theorem holds_of_isMatch_explore {t : String}
    (h : (Matcher.compile "/explore").isMatch t = true) :
    Pattern.Glob.Holds (Matcher.core "/explore") t.toList :=
  ((Matcher.isMatch_iff_accepts kind_explore t).1 h).holds (by decide) (by decide)

/-- The rule for a path fires below the path, where the decision blocks nothing. -/
theorem fired_not_blocked :
    ∃ a, explore.compile .ios none {} = .ok a ∧ a.native = .contentRules (.of [exploreRule]) ∧
      Url.parse "https://www.example.com/explore/nested" = .ok (explorePage "/explore/nested") ∧
      (explorePage "/explore/nested").text = "https://www.example.com/explore/nested" ∧
      exploreRule.fires "https://www.example.com/explore/nested"
        (explorePage "/explore/nested") = true ∧
      a.blocks "https://www.example.com/explore/nested" = false := by
  obtain ⟨a, hcompile, hrules, hmatchers⟩ := compile_explore
  refine ⟨a, hcompile, hrules, by decide +kernel, by decide +kernel, ?_, ?_⟩
  · exact exploreRule_fires ⟨"https://www.example.com".toList, "/nested".toList, by decide⟩
  · rw [Bool.eq_false_iff]
    intro hblocks
    rw [Artifact.blocks, hmatchers] at hblocks
    obtain ⟨b, hb, t, ht, hmatch⟩ := Matchers.blocks_iff.1 hblocks
    rw [show b = Matcher.compile "/explore" from List.mem_singleton.1 hb] at hmatch
    have htargets : targets "https://www.example.com/explore/nested" =
        ["https://www.example.com/explore/nested", "/explore/nested", "www.example.com"] := by
      decide +kernel
    have hholds := holds_of_isMatch_explore hmatch
    rw [htargets] at ht
    simp only [List.mem_cons, List.not_mem_nil, or_false] at ht
    rcases ht with rfl | rfl | rfl
    · obtain ⟨z, q, htext, -⟩ := holds_explore_iff.1 hholds
      cases htext
    · exact not_holds_explore_nested hholds
    · obtain ⟨z, q, htext, -⟩ := holds_explore_iff.1 hholds
      cases htext

/-- A rule that fires for an address in its final form is made from a block pattern that the
address holds as it was written.  A pattern that is a glob blocks the address too where a
target holds it in surroundings that it admits, hence always if it is open; and a glob without
stars blocks nowhere else, but for a path that ends in a slash, which blocks without it too. -/
theorem fired_rule {d : Destination} {mode : Option String} {o : Options} {a : Artifact}
    (hcompile : d.compile .ios mode o = .ok a) {list : ContentRuleList}
    (hrules : a.native = .contentRules list) {r : ContentRule} (hr : r ∈ list.rules)
    {text : String} {u : Url} (hparse : Url.parse text = .ok u) (hcanonical : u.text = text)
    (hfires : r.fires text u = true) :
    ∃ p ∈ d.effectiveBlock mode, r.urlFilter = urlFilter p ∧ p.toList <:+: text.toList ∧
      ((Matcher.compile p).kind = .glob →
        ((∃ t ∈ targets text, Pattern.Glob.Holds (Matcher.core p) t.toList) →
          a.blocks text = true) ∧
        (Pattern.Glob.IsOpen (Matcher.core p) → a.blocks text = true) ∧
        ('*' ∉ Matcher.core p → ∀ t ∈ targets text, (Matcher.compile p).isMatch t = true ↔
          Pattern.Glob.Holds (Matcher.core p) t.toList ∨
            Pattern.Glob.HoldsStem (Matcher.core p) t.toList)) := by
  obtain ⟨start, -, rfl⟩ := Destination.compile_eq_ok.1 hcompile
  cases hrules
  obtain ⟨p, hp, hfilter⟩ := exists_of_mem_contentRules hr
  have hfound : p.toList <:+: text.toList := by
    rw [ContentRule.fires] at hfires
    rw [Bool.and_eq_true, hfilter] at hfires
    exact (filter_isFoundIn_iff p text).1 hfires.1
  refine ⟨p, hp, hfilter, hfound, fun hglob => ?_⟩
  have hmem : Matcher.compile p ∈ (d.matchers mode).block := by
    rw [d.matchers_eq]
    exact List.mem_map_of_mem hp
  have hblocks : (∃ t ∈ targets text, Pattern.Glob.Holds (Matcher.core p) t.toList) →
      (d.matchers mode).blocks text = true := by
    rintro ⟨t, ht, hholds⟩
    exact Matchers.blocks_iff.2
      ⟨_, hmem, t, ht, isMatch_of_holds hparse hcanonical hglob ht hholds⟩
  refine ⟨hblocks, fun hopen => hblocks ?_, fun hstar t ht => ⟨fun hmatch => ?_, ?_⟩⟩
  · obtain ⟨before, after, heq⟩ := (Matcher.core_isInfix p).trans hfound
    refine ⟨text, self_mem_targets text, before, after, ?_, hopen.admits before after⟩
    rw [← heq, List.append_assoc]
  · exact ((Matcher.isMatch_iff_accepts hglob t).1 hmatch).holds_or_holdsStem hstar
  · rintro (hholds | hstem)
    · exact isMatch_of_holds hparse hcanonical hglob ht hholds
    · exact (Matcher.isMatch_iff_accepts hglob t).2 hstem.accepts

/-- The page at the path itself is blocked on both sides. -/
theorem fired_rule_explore :
    exploreRule.fires "https://www.example.com/explore" (explorePage "/explore") = true ∧
      ∃ a, explore.compile .ios none {} = .ok a ∧
        a.blocks "https://www.example.com/explore" = true := by
  obtain ⟨a, hcompile, hrules, -⟩ := compile_explore
  have hfires : exploreRule.fires "https://www.example.com/explore" (explorePage "/explore") =
      true := exploreRule_fires ⟨"https://www.example.com".toList, [], by decide⟩
  obtain ⟨p, hp, -, -, hblocks⟩ := fired_rule hcompile hrules List.mem_cons_self
    (by decide +kernel : Url.parse "https://www.example.com/explore" = .ok (explorePage "/explore"))
    (by decide +kernel) hfires
  rw [show p = "/explore" from List.mem_singleton.1 hp] at hblocks
  refine ⟨hfires, a, hcompile, (hblocks kind_explore).1 ⟨"/explore", by decide +kernel, ?_⟩⟩
  exact holds_explore_iff.2 ⟨[], [], by decide, Or.inl rfl, Or.inl rfl⟩

end NavPolicy
