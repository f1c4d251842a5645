import NavPolicy.Proofs.Artifact.Compiled
import NavPolicy.Proofs.Decision.MoreBlocks
import NavPolicy.Proofs.Script.Additions

/-!
# Filter modes only tighten

The artifact of a destination with a filter mode, held against the one without any: nothing that
the destination lists is lost or moved, what the mode lists comes behind it, and no page, resource
or request is let through that was refused before.
-/

namespace NavPolicy

open NavPolicy.Artifact NavPolicy.Pattern

/-- Whether native rules of one platform are where others begin. -/
inductive NativeRules.IsPrefix : NativeRules → NativeRules → Prop where
  | contentRules {list more : ContentRuleList} (h : list.rules <+: more.rules) :
      IsPrefix (.contentRules list) (.contentRules more)
  | blockUrls {urls more : List String} (h : urls <+: more) :
      IsPrefix (.blockUrls urls) (.blockUrls more)
  | requestFilters {filters more : List RequestFilter} (h : filters <+: more) :
      IsPrefix (.requestFilters filters) (.requestFilters more)

namespace Artifact

/-- An artifact that adds block patterns to another one and is never more permissive. -/
structure Tightens (strict plain : Artifact) (extra : List String) : Prop where
  allow : strict.matchers.allow = plain.matchers.allow
  block : plain.matchers.block <+: strict.matchers.block
  native : plain.native.IsPrefix strict.native
  allowed : ∀ url p, plain.verdict url = .allowed p → strict.verdict url = .allowed p
  blocked : ∀ url p, plain.verdict url = .blocked p → strict.verdict url = .blocked p
  unmatched : ∀ url, plain.verdict url = .unmatched →
    strict.verdict url = .unmatched ∨ ∃ p ∈ extra, strict.verdict url = .blocked p
  resources : ∀ url, strict.allowsResource url = true → plain.allowsResource url = true
  requests : ∀ url type, strict.allowsRequest url type = true → plain.allowsRequest url type = true

variable {strict plain : Artifact}

/-- A request that some filter covers is covered when there are more filters. -/
theorem isFiltered_mono (h : plain.native.IsPrefix strict.native) {url : String}
    {type : ResourceType} (hfiltered : plain.isFiltered url type = true) :
    strict.isFiltered url type = true := by
  obtain ⟨strictNative, _, _, _⟩ := strict
  obtain ⟨plainNative, _, _, _⟩ := plain
  cases h with
  | contentRules h => cases hfiltered
  | blockUrls h => cases hfiltered
  | requestFilters h =>
      obtain ⟨f, hf, hcovers⟩ := List.any_eq_true.1 hfiltered
      exact List.any_eq_true.2 ⟨f, h.subset hf, hcovers⟩

/-- A request is made if the resource may load and no filter covers it, frames apart. -/
theorem allowsRequest_iff {a : Artifact} {url : String} {type : ResourceType} :
    a.allowsRequest url type = true ↔
      a.allowsResource url = true ∧ (type.isFrame = false → a.isFiltered url type = false) := by
  have hresource : (!a.blocks url) = a.allowsResource url := rfl
  rw [allowsRequest, hresource]
  cases type.isFrame <;> cases a.isFiltered url type <;> simp

/-- It is enough that the matchers get more block matchers and the native rules more rules. -/
theorem Tightens.of_extends {extra : List String}
    (hmatchers : strict.matchers.Extends plain.matchers (extra.map Matcher.compile))
    (hnative : plain.native.IsPrefix strict.native) : strict.Tightens plain extra where
  allow := hmatchers.allow
  block := hmatchers.block ▸ List.prefix_append _ _
  native := hnative
  allowed url p h := by
    have hweak : plain.matchers.verdict url = .allowed p := h
    rw [verdict, hmatchers.verdict_eq, hweak]
  blocked url p h := by
    have hweak : plain.matchers.verdict url = .blocked p := h
    rw [verdict, hmatchers.verdict_eq, hweak]
  unmatched url h := by
    have hweak : plain.matchers.verdict url = .unmatched := h
    rw [verdict, hmatchers.verdict_eq, hweak]
    rcases Matchers.verdict_without_allow (extra.map Matcher.compile) url with hnone | ⟨m, hm, hhit⟩
    · exact Or.inl hnone
    · obtain ⟨p, hp, rfl⟩ := List.mem_map.1 hm
      exact Or.inr ⟨p, hp, hhit⟩
  resources url h := hmatchers.allowsResource h
  requests url type h := by
    obtain ⟨hresource, hfilter⟩ := allowsRequest_iff.1 h
    refine allowsRequest_iff.2 ⟨hmatchers.allowsResource hresource, fun hframe => ?_⟩
    rw [Bool.eq_false_iff]
    intro hfiltered
    exact absurd (isFiltered_mono hnative hfiltered) (by simp [hfilter hframe])

end Artifact

namespace Destination

variable {d : Destination} {platform : Platform} {name : String} {m : FilterMode}

def scriptSpec (d : Destination) (platform : Platform) (mode : Option String) (o : Options) :
    Script.Spec :=
  ⟨d.dom, d.mode? mode, o.of platform, (o.of platform).interception platform⟩

theorem effectiveBlock_none (d : Destination) : d.effectiveBlock none = d.block :=
  List.append_nil d.block

theorem effectiveBlock_of_filterMode? (hm : d.filterMode? name = some m) :
    d.effectiveBlock (some name) = d.block ++ m.blockUrls := by
  simp [effectiveBlock, mode?, hm]

private theorem matchers_extends (hm : d.filterMode? name = some m) :
    (d.matchers (some name)).Extends (d.matchers none) (m.blockUrls.map Matcher.compile) where
  allow := rfl
  block := by
    rw [matchers_eq, matchers_eq, effectiveBlock_of_filterMode? hm, effectiveBlock_none]
    exact List.map_append

private theorem nativeRules_isPrefix (hm : d.filterMode? name = some m) (platform : Platform)
    (start : Url) :
    (d.nativeRules platform none start).IsPrefix (d.nativeRules platform (some name) start) := by
  have hblock : d.effectiveBlock none <+: d.effectiveBlock (some name) := by
    rw [effectiveBlock_none, effectiveBlock_of_filterMode? hm]
    exact List.prefix_append _ _
  cases platform with
  | ios =>
      have hrules : ∀ host, contentRules d none host <+: contentRules d (some name) host := by
        intro host
        rw [contentRules, contentRules]
        exact (List.prefix_append_right_inj _).2 List.nil_prefix
      exact .contentRules (hrules _)
  | android => exact .blockUrls hblock
  | desktop => exact .requestFilters (hblock.map _)

end Destination

open Destination

/-- Where a destination is compiled without a mode, it is compiled with each of its modes, and
the mode only tightens: the allow matchers are the same; block matchers, native rules, hidden
selectors and scripts begin as they do without the mode; a verdict changes only from undecided
to blocked, by a pattern of the mode; and what loads under the mode loads without it. -/
theorem mode_only_tightens {d : Destination} {platform : Platform} {o : Options}
    {plain : Artifact} (hplain : d.compile platform none o = .ok plain) {name : String}
    {m : FilterMode} (hm : d.filterMode? name = some m) :
    ∃ strict, d.compile platform (some name) o = .ok strict ∧
      strict.Tightens plain m.blockUrls ∧
      (d.scriptSpec platform none o).render = .ok plain.script ∧
      (d.scriptSpec platform (some name) o).render = .ok strict.script ∧
      (d.scriptSpec platform none o).hideSelectors <+:
        (d.scriptSpec platform (some name) o).hideSelectors ∧
      ∃ rest, (d.scriptSpec platform (some name) o).customScript =
        (d.scriptSpec platform none o).customScript ++ rest := by
  obtain ⟨start, hstart, rfl⟩ := compile_eq_ok.1 hplain
  have hspec : d.scriptSpec platform none o = (d.scriptSpec platform (some name) o).plain := rfl
  refine ⟨_, compile_eq_ok.2 ⟨start, hstart, rfl⟩, ?_, Script.Spec.render_eq _,
    Script.Spec.render_eq _, ?_, ?_⟩
  · exact .of_extends (matchers_extends hm) (nativeRules_isPrefix hm platform start)
  · rw [hspec]
    exact Script.Spec.hideSelectors_plain_isPrefix _
  · rw [hspec]
    exact Script.Spec.exists_customScript_eq _

/-- A mode that blocks a host, hides what is on it and repeats a selector of the destination. -/
def quietMode : FilterMode where
  blockUrls := ["ads.example.net"]
  hideSelectors := ["#shorts", "#ads"]
  scriptlets := ["quiet();"]

def videos : Destination where
  start := "https://video.example.com/feed"
  allow := ["/watch*"]
  block := ["/shorts/*"]
  dom := some { hide := ["#shorts"], script := some "start();" }
  filterModes := some [("quiet", quietMode)]

private theorem starts_videos : videos.Starts :=
  ⟨{ scheme := "https"
     hasAuthority := true
     host := some (.name "video.example.com")
     path := "/feed" }, by decide +kernel⟩

/-- The mode exists here, and its own block pattern is among the native rules. -/
theorem quietMode_tightens :
    ∃ plain strict, videos.compile .desktop none {} = .ok plain ∧
      videos.filterMode? "quiet" = some quietMode ∧
      videos.compile .desktop (some "quiet") {} = .ok strict ∧
      strict.Tightens plain ["ads.example.net"] := by
  obtain ⟨plain, hplain⟩ := exists_compile_iff.2 starts_videos
  have hmode : videos.filterMode? "quiet" = some quietMode := rfl
  obtain ⟨strict, hstrict, htightens, -⟩ := mode_only_tightens hplain hmode
  exact ⟨plain, strict, hplain, hmode, hstrict, htightens⟩

end NavPolicy
