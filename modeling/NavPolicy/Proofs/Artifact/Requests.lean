import NavPolicy.Proofs.Artifact.FilterModes
import NavPolicy.Proofs.Artifact.RequestFilters
import NavPolicy.Proofs.Wildcard.Coverage

/-!
# Requests on the desktop

The desktop browser refuses every request to an address whose resources the matchers refuse, as
the other platforms do.  Beyond that it refuses requests of four types only, those to addresses
that the wildcard of a block pattern covers.  Filters list frames too, but frames are not put
through them.
-/

namespace NavPolicy

open NavPolicy.Artifact NavPolicy.Wildcard

/-- The types of requests that are put through the filters. -/
def ResourceType.screened : List ResourceType := [script, image, media, xmlHttpRequest]

theorem ResourceType.mem_screened_iff {type : ResourceType} :
    type ∈ screened ↔ type ∈ filtered ∧ type.isFrame = false := by
  cases type <;> decide

/-- Whether the wildcard that some block pattern resolves to covers an address. -/
def IsScreened (start : Url) (block : List String) (url : String) : Prop :=
  ∃ p ∈ block, Covers (resolveBlock p start).toList url.toList

section Requests

variable {d : Destination} {mode : Option String} {o : Options} {a : Artifact} {start : Url}
  {url : String} {type : ResourceType}

/-- The filter of one wildcard covers the addresses that the wildcard covers. -/
theorem Artifact.RequestFilter.covers_single_iff {wildcard : String} :
    RequestFilter.covers ⟨[wildcard], ResourceType.filtered⟩ url type = true ↔
      type ∈ ResourceType.filtered ∧ Covers wildcard.toList url.toList := by
  simp only [RequestFilter.covers_iff_fits, List.mem_singleton, exists_eq_left, Covers]

/-- A request is filtered if its type is one of those that are, and a resolved pattern covers it. -/
theorem isFiltered_iff (hnative : a.native = d.nativeRules .desktop mode start) :
    a.isFiltered url type = true ↔
      type ∈ ResourceType.filtered ∧ IsScreened start (d.effectiveBlock mode) url := by
  rw [Artifact.isFiltered, hnative]
  simp only [Destination.nativeRules, List.any_map, List.any_eq_true, Function.comp_apply,
    RequestFilter.covers_single_iff, IsScreened]
  constructor
  · rintro ⟨p, hp, htype, hcovers⟩
    exact ⟨htype, p, hp, hcovers⟩
  · rintro ⟨htype, p, hp, hcovers⟩
    exact ⟨p, hp, htype, hcovers⟩

/-- A request of any other type is treated like the load of a resource. -/
theorem allowsRequest_eq_allowsResource (hnative : a.native = d.nativeRules .desktop mode start)
    (htype : type ∉ ResourceType.screened) : a.allowsRequest url type = a.allowsResource url := by
  rw [Bool.eq_iff_iff, allowsRequest_iff]
  apply and_iff_left_of_imp
  intro _ hframe
  rw [Bool.eq_false_iff, ne_eq, isFiltered_iff hnative]
  exact fun hfiltered => htype (ResourceType.mem_screened_iff.2 ⟨hfiltered.1, hframe⟩)

/-- A request that is put through the filters is refused by a matcher or by a wildcard. -/
theorem allowsRequest_eq_false_iff (hnative : a.native = d.nativeRules .desktop mode start)
    (htype : type ∈ ResourceType.screened) :
    a.allowsRequest url type = false ↔
      a.blocks url = true ∨ IsScreened start (d.effectiveBlock mode) url := by
  obtain ⟨hlisted, hframe⟩ := ResourceType.mem_screened_iff.1 htype
  have hresource : a.allowsResource url = true ↔ ¬a.blocks url = true := by
    rw [Bool.not_eq_true, ← Bool.not_eq_true']
    rfl
  have hfilters : a.isFiltered url type = true ↔ IsScreened start (d.effectiveBlock mode) url :=
    (isFiltered_iff hnative).trans (and_iff_right hlisted)
  rw [← Bool.not_eq_true, allowsRequest_iff, hresource, ← hfilters, not_and_or, not_not,
    forall_prop_of_true hframe, Bool.not_eq_false]

/-- What the desktop browser lets through, every platform does, for the same destination and the
same mode.  They differ only on requests that are put through the filters; and these are refused
exactly if a block matcher matches the address or the wildcard of a block pattern in effect covers
it. -/
theorem requests_at_least_as_strict (h : d.compile .desktop mode o = .ok a) :
    ∃ start, Url.parse d.start = .ok start ∧ ∀ platform o', ∃ b,
      d.compile platform mode o' = .ok b ∧ ∀ url type,
        (a.allowsRequest url type = true → b.allowsResource url = true) ∧
        (type ∉ ResourceType.screened → a.allowsRequest url type = b.allowsResource url) ∧
        (type ∈ ResourceType.screened → (a.allowsRequest url type = false ↔
          b.blocks url = true ∨
            ∃ p ∈ d.effectiveBlock mode, Covers (resolveBlock p start).toList url.toList)) := by
  obtain ⟨start, hstart, rfl⟩ := Destination.compile_eq_ok.1 h
  refine ⟨start, hstart, fun platform o' => ?_⟩
  refine ⟨_, Destination.compile_eq_ok.2 ⟨start, hstart, rfl⟩, fun url type => ⟨?_, ?_, ?_⟩⟩
  · exact fun hallowed => (allowsRequest_iff.1 hallowed).1
  · exact fun htype => allowsRequest_eq_allowsResource rfl htype
  · exact fun htype => allowsRequest_eq_false_iff rfl htype

end Requests

/-- A destination that blocks by a question mark, which only filters take for any character. -/
def clipHome : Destination where
  start := "https://www.example.com/"
  allow := []
  block := ["/clip?"]

/-- A filter covers an image that no block pattern matches, and leaves a font alone. -/
theorem requests_at_least_as_strict_clip :
    ∃ a, clipHome.compile .desktop none {} = .ok a ∧
      a.allowsRequest "https://www.example.com/clip7" .image = false ∧
      a.allowsRequest "https://www.example.com/clip7" .font =
        a.allowsResource "https://www.example.com/clip7" := by
  have hparse : Url.parse clipHome.start = .ok homePage := parse_homePage
  obtain ⟨a, ha, -⟩ := Destination.exists_compile hparse .desktop none {}
  obtain ⟨start, hstart, hplatforms⟩ := requests_at_least_as_strict ha
  rw [hparse, Except.ok.injEq] at hstart
  subst hstart
  obtain ⟨b, hb, hrequests⟩ := hplatforms .desktop {}
  rw [ha, Except.ok.injEq] at hb
  subst hb
  obtain ⟨-, -, himage⟩ := hrequests "https://www.example.com/clip7" .image
  obtain ⟨-, hfont, -⟩ := hrequests "https://www.example.com/clip7" .font
  have hrooted : IsRooted "/clip?" := by
    decide
  have hwildcard : resolveBlock "/clip?" homePage = "https://www.example.com/clip?" := by
    rw [hrooted.resolveBlock_eq (by decide)]
    decide
  have hcovered : RequestFilter.covers ⟨[resolveBlock "/clip?" homePage], ResourceType.filtered⟩
      "https://www.example.com/clip7" .image = true := by
    rw [hwildcard]
    decide +kernel
  have hcovers := (RequestFilter.covers_single_iff.1 hcovered).2
  have hblock : "/clip?" ∈ clipHome.effectiveBlock none := List.mem_cons_self
  exact ⟨a, ha, (himage (by decide)).2 (Or.inr ⟨_, hblock, hcovers⟩), hfont (by decide)⟩

end NavPolicy
