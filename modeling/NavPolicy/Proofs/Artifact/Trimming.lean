import NavPolicy.Proofs.Artifact.Requests
import NavPolicy.Proofs.Decision.Trimming
import NavPolicy.Proofs.Url.Mention

/-!
# Blanks around the patterns of a destination

The matchers of a destination are the same with and without the blanks around its patterns.  The
filters are not, for they are made from the patterns as they are written: the empty pattern becomes
a filter for the root of the origin, and the wildcard of a pattern with blanks around it covers no
address without blanks.
-/

namespace NavPolicy

open NavPolicy.Artifact NavPolicy.Json NavPolicy.Text NavPolicy.Wildcard

def FilterMode.trimmed (m : FilterMode) : FilterMode :=
  { m with blockUrls := trimPatterns m.blockUrls }

/-- A destination without the blanks around its patterns, and without those that are blank. -/
def Destination.trimmed (d : Destination) : Destination :=
  { d with
    allow := trimPatterns d.allow
    block := trimPatterns d.block
    filterModes := d.filterModes.map fun modes => modes.map fun e => (e.1, e.2.trimmed) }

namespace Destination

variable {d : Destination} {mode : Option String}

private theorem mode?_trimmed (d : Destination) (mode : Option String) :
    d.trimmed.mode? mode = (d.mode? mode).map FilterMode.trimmed := by
  cases mode with
  | none => rfl
  | some name =>
      simp only [mode?, Option.bind_some, filterMode?, trimmed]
      cases d.filterModes with
      | none => rfl
      | some modes =>
          simp only [Option.map_some, Option.bind_some]
          exact Ordered.get?_map FilterMode.trimmed modes name

/-- The patterns in effect are trimmed like any list. -/
theorem effectiveBlock_trimmed (d : Destination) (mode : Option String) :
    d.trimmed.effectiveBlock mode = trimPatterns (d.effectiveBlock mode) := by
  rw [effectiveBlock, effectiveBlock, mode?_trimmed, trimPatterns_append]
  cases d.mode? mode <;> rfl

theorem matchers_trimmed (d : Destination) (mode : Option String) :
    d.trimmed.matchers mode =
      .compile (trimPatterns d.allow) (trimPatterns (d.effectiveBlock mode)) := by
  rw [matchers_eq, effectiveBlock_trimmed]
  rfl

end Destination

section Screening

variable {start : Url} {block : List String} {pattern page url : String}

/-- A pattern with blanks around it covers only addresses with a blank. -/
theorem exists_blank_of_covers (htrim : trim pattern ≠ pattern)
    (hcovers : Covers (resolveBlock pattern start).toList url.toList) :
    ∃ c ∈ url.toList, isBlank c = true := by
  have hblank : ∃ c ∈ pattern.toList, isBlank c = true := by
    by_contra hnone
    push Not at hnone
    apply htrim
    rw [trim, trimBlanks, Url.dropEnds_eq_self fun c hc => Bool.eq_false_iff.2 (hnone c hc),
      String.ofList_toList]
  obtain ⟨c, hc, hblank⟩ := hblank
  have hwildcard := (isSuffix_resolveBlock pattern start).subset hc
  refine ⟨c, hcovers.mem hwildcard ?_ ?_ ?_, hblank⟩
  all_goals
    rintro rfl
    exact absurd hblank (by decide)

theorem resolveBlock_empty (start : Url) : resolveBlock "" start = start.originText ++ "/" := by
  rw [resolveBlock_of_not_hasScheme (by decide), if_neg (by decide), if_neg (by decide),
    String.append_empty]

/-- The empty pattern covers the root of the origin. -/
theorem covers_empty_iff (hstart : Url.parse page = .ok start)
    (hstar : '*' ∉ start.originText.toList) :
    Covers (resolveBlock "" start).toList url.toList ↔ url = start.originText ++ "/" := by
  have hplain : ∀ c ∈ (start.originText ++ "/").toList, c ≠ '*' ∧ c ≠ '?' := by
    rw [String.toList_append, List.forall_mem_append]
    exact ⟨ne_sign_of_mem_originText hstart hstar, List.all_iff_forall_prop.1 (by decide)⟩
  rw [resolveBlock_empty, covers_iff_eq hplain, String.toList_inj]

/-- An address without blanks is screened by the trimmed patterns, and the root of the origin also
by the empty one. -/
theorem isScreened_iff_of_no_blank (hstart : Url.parse page = .ok start)
    (hstar : '*' ∉ start.originText.toList) (hurl : ∀ c ∈ url.toList, isBlank c = false) :
    IsScreened start block url ↔
      ("" ∈ block ∧ url = start.originText ++ "/") ∨
        IsScreened start (block.filter fun p => IsTrimmed p) url := by
  constructor
  · rintro ⟨p, hp, hcovers⟩
    by_cases hempty : p = ""
    · subst hempty
      exact Or.inl ⟨hp, (covers_empty_iff hstart hstar).1 hcovers⟩
    · have htrim : trim p = p := by
        by_contra hpadded
        obtain ⟨c, hc, hblank⟩ := exists_blank_of_covers hpadded hcovers
        rw [hurl c hc] at hblank
        cases hblank
      have hkept : p ∈ block.filter fun p => IsTrimmed p :=
        List.mem_filter.2 ⟨hp, decide_eq_true ⟨htrim, hempty⟩⟩
      exact Or.inr ⟨p, hkept, hcovers⟩
  · rintro (⟨hp, hroot⟩ | ⟨p, hp, hcovers⟩)
    · exact ⟨"", hp, (covers_empty_iff hstart hstar).2 hroot⟩
    · exact ⟨p, List.mem_of_mem_filter hp, hcovers⟩

end Screening

namespace Artifact

/-- What trimming the patterns of a destination does to the answers about an address. -/
structure AgreesTrimmed (plain trimmed : Artifact) (start : Url) (block : List String)
    (url : String) : Prop where
  navigation : trimmed.allowsNavigation url = plain.allowsNavigation url
  blocks : trimmed.blocks url = plain.blocks url
  /-- Requests that are not put through the filters are answered alike. -/
  others : ∀ type ∉ ResourceType.screened,
    trimmed.allowsRequest url type = plain.allowsRequest url type
  /-- The others are answered alike if the matchers refuse them anyway, or if the address is
  covered with the blanks around the patterns exactly if it is covered without. -/
  screened : ∀ type ∈ ResourceType.screened,
    (trimmed.allowsRequest url type = plain.allowsRequest url type ↔
      plain.blocks url = true ∨
        (IsScreened start (trimPatterns block) url ↔ IsScreened start block url))
  /-- All are answered alike if no block pattern is blank or has blanks around it. -/
  clean : (∀ p ∈ block, IsTrimmed p) → ∀ type,
    trimmed.allowsRequest url type = plain.allowsRequest url type
  /-- Of the patterns as they are written, those without blanks around them cover an address
  without blanks, and the empty one covers the root of the origin. -/
  written : '*' ∉ start.originText.toList → (∀ c ∈ url.toList, isBlank c = false) →
    (IsScreened start block url ↔ ("" ∈ block ∧ url = start.originText ++ "/") ∨
      IsScreened start (block.filter fun p => IsTrimmed p) url)

end Artifact

section Agreement

variable {d : Destination} {mode : Option String} {o : Options} {plain trimmed : Artifact}
  {start : Url} {url : String} {type : ResourceType}

/-- Two requests that a matcher or something else refuses are answered alike if a matcher refuses
both, or if what else refuses them is the same. -/
theorem allowsRequest_eq_iff (hblocks : trimmed.blocks url = plain.blocks url) {p q : Prop}
    (hplain : plain.allowsRequest url type = false ↔ plain.blocks url = true ∨ p)
    (htrimmed : trimmed.allowsRequest url type = false ↔ trimmed.blocks url = true ∨ q) :
    trimmed.allowsRequest url type = plain.allowsRequest url type ↔
      plain.blocks url = true ∨ (q ↔ p) := by
  rw [← Bool.not_inj_iff, Bool.eq_iff_iff, Bool.not_eq_true', Bool.not_eq_true', hplain, htrimmed,
    hblocks]
  by_cases hblocked : plain.blocks url = true
  · exact iff_of_true (iff_of_true (Or.inl hblocked) (Or.inl hblocked)) (Or.inl hblocked)
  · rw [or_iff_right hblocked, or_iff_right hblocked, or_iff_right hblocked]

/-- The matchers and the native rules are all that the answers depend on. -/
theorem agreesTrimmed_of_parts (hstart : Url.parse d.start = .ok start)
    (hmatchers : plain.matchers = d.matchers mode)
    (hmatchers' : trimmed.matchers = d.trimmed.matchers mode)
    (hnative : plain.native = d.nativeRules .desktop mode start)
    (hnative' : trimmed.native = d.trimmed.nativeRules .desktop mode start) (url : String) :
    plain.AgreesTrimmed trimmed start (d.effectiveBlock mode) url := by
  have hblocks : trimmed.blocks url = plain.blocks url := by
    rw [Artifact.blocks, Artifact.blocks, hmatchers, hmatchers', Destination.matchers_trimmed,
      Destination.matchers_eq]
    exact Matchers.blocks_trimPatterns _ _ url
  have hnavigation : trimmed.allowsNavigation url = plain.allowsNavigation url := by
    rw [Artifact.allowsNavigation, Artifact.allowsNavigation, hmatchers, hmatchers',
      Destination.matchers_trimmed, Destination.matchers_eq]
    exact Matchers.allowsNavigation_trimPatterns _ _ url
  have hothers : ∀ type ∉ ResourceType.screened,
      trimmed.allowsRequest url type = plain.allowsRequest url type := by
    intro type htype
    rw [allowsRequest_eq_allowsResource hnative htype,
      allowsRequest_eq_allowsResource hnative' htype]
    exact congrArg not hblocks
  have hscreened : ∀ type ∈ ResourceType.screened,
      (trimmed.allowsRequest url type = plain.allowsRequest url type ↔
        plain.blocks url = true ∨
          (IsScreened start (trimPatterns (d.effectiveBlock mode)) url ↔
            IsScreened start (d.effectiveBlock mode) url)) := by
    intro type htype
    rw [← Destination.effectiveBlock_trimmed]
    exact allowsRequest_eq_iff hblocks (allowsRequest_eq_false_iff hnative htype)
      (allowsRequest_eq_false_iff hnative' htype)
  refine ⟨hnavigation, hblocks, hothers, hscreened, fun hclean type => ?_,
    isScreened_iff_of_no_blank hstart⟩
  by_cases htype : type ∈ ResourceType.screened
  · rw [hscreened type htype, trimPatterns_eq_self hclean]
    exact Or.inr Iff.rfl
  · exact hothers type htype

/-- Taking off the blanks around the patterns of a destination changes neither which navigations
may proceed nor which addresses are blocked.  Of the requests it changes only those that are put
through the filters, and those exactly if the wildcards of the patterns cover other addresses with
the blanks than without. -/
theorem Destination.trimmed_agrees (h : d.compile .desktop mode o = .ok plain) :
    ∃ start trimmed, Url.parse d.start = .ok start ∧
      d.trimmed.compile .desktop mode o = .ok trimmed ∧
      ∀ url, plain.AgreesTrimmed trimmed start (d.effectiveBlock mode) url := by
  obtain ⟨start, hstart, rfl⟩ := compile_eq_ok.1 h
  have hstart' : Url.parse d.trimmed.start = .ok start := hstart
  obtain ⟨trimmed, htrimmed, hnative, hmatchers⟩ := exists_compile hstart' .desktop mode o
  exact ⟨start, trimmed, hstart, htrimmed,
    agreesTrimmed_of_parts hstart rfl hmatchers rfl hnative⟩

end Agreement

def blankHome : Destination where
  start := "https://www.example.com/"
  allow := [" /watch* "]
  block := ["", " \t"]

private theorem trimPatterns_blankHome : trimPatterns (blankHome.effectiveBlock none) = [] := by
  decide

/-- The root of the origin is refused for the empty pattern, which the matchers know nothing of. -/
theorem Destination.blankHome_trimmed_agrees :
    ∃ plain trimmed, blankHome.compile .desktop none {} = .ok plain ∧
      blankHome.trimmed.compile .desktop none {} = .ok trimmed ∧
      (∀ url, trimmed.allowsNavigation url = plain.allowsNavigation url) ∧
      plain.blocks "https://www.example.com/" = false ∧
      trimmed.allowsRequest "https://www.example.com/" .image ≠
        plain.allowsRequest "https://www.example.com/" .image := by
  have hparse : Url.parse blankHome.start = .ok homePage := parse_homePage
  obtain ⟨plain, hplain, -, hmatchers⟩ := exists_compile hparse .desktop none {}
  obtain ⟨start, trimmed, hstart, htrimmed, hagrees⟩ := trimmed_agrees hplain
  rw [hparse, Except.ok.injEq] at hstart
  subst hstart
  obtain ⟨-, -, -, hscreened, -, hwritten⟩ := hagrees "https://www.example.com/"
  have hroot : "https://www.example.com/" = homePage.originText ++ "/" := by
    decide
  have hurl : ∀ c ∈ "https://www.example.com/".toList, isBlank c = false :=
    List.all_iff_forall_prop.1 (by decide)
  have hcovered : IsScreened homePage (blankHome.effectiveBlock none) "https://www.example.com/" :=
    (hwritten (by decide) hurl).2 (Or.inl ⟨List.mem_cons_self, hroot⟩)
  have hblocks : plain.blocks "https://www.example.com/" = false := by
    rw [Artifact.blocks, hmatchers, matchers_eq, ← Matchers.blocks_trimPatterns,
      trimPatterns_blankHome]
    rfl
  refine ⟨plain, trimmed, hplain, htrimmed, fun url => (hagrees url).navigation, hblocks, ?_⟩
  intro heq
  rcases (hscreened .image (by decide)).1 heq with hblocked | hsame
  · rw [hblocks] at hblocked
    cases hblocked
  · obtain ⟨p, hp, -⟩ := hsame.2 hcovered
    rw [trimPatterns_blankHome] at hp
    cases hp

end NavPolicy
