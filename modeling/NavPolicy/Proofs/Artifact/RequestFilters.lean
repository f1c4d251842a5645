import Mathlib.Data.List.Forall2
import NavPolicy.Proofs.Artifact.Compiled
import NavPolicy.Proofs.Artifact.Resolution
import NavPolicy.Proofs.Wildcard.Language

/-!
# What request filters cover

A filter covers the addresses that one of its wildcards stands for, and nothing else.  A wildcard
with two stars in a row may be refused; it then stays in the list of the filter, which covers
nothing for it.  This is the only way in which a block pattern is lost.
-/

namespace NavPolicy

namespace Artifact

open NavPolicy.Wildcard

namespace RequestFilter

variable {f : RequestFilter} {wildcard : String} {ts : List Token}

theorem mem_wildcards_iff : ts ∈ f.wildcards ↔ ∃ w ∈ f.urls, Reads true w.toList ts := by
  simp only [wildcards, List.mem_filterMap, ofText?_eq_some_iff]

/-- A filter covers a request of one of its types whose address one of its wildcards fits. -/
theorem covers_iff_fits {url : String} {type : ResourceType} :
    f.covers url type = true ↔
      type ∈ f.types ∧ ∃ w ∈ f.urls, ∃ ts, Reads true w.toList ts ∧ Fits ts url.toList := by
  rw [covers, Bool.and_eq_true, List.contains_iff_mem, List.any_eq_true]
  apply and_congr_right
  intro _
  constructor
  · rintro ⟨ts, hts, hmatch⟩
    obtain ⟨w, hw, hreads⟩ := mem_wildcards_iff.1 hts
    exact ⟨w, hw, ts, hreads, hreads.isMatch_iff.1 hmatch⟩
  · rintro ⟨w, hw, ts, hreads, hfits⟩
    exact ⟨ts, mem_wildcards_iff.2 ⟨w, hw, hreads⟩, hreads.isMatch_iff.2 hfits⟩

/-- A wildcard without two stars in a row covers what it stands for. -/
theorem exists_fits_iff_stands {w text : List Char} (hstars : ¬"**".toList <:+: w) :
    (∃ ts, Reads true w ts ∧ Fits ts text) ↔ Stands w text := by
  constructor
  · rintro ⟨ts, hreads, hfits⟩
    exact (hreads.fits_iff_stands hstars text).1 hfits
  · intro hstands
    have hread : ∃ ts, Reads true w ts := exists_reads_iff.2 (starsFill_of_not_isInfix hstars)
    obtain ⟨ts, hreads⟩ := hread
    exact ⟨ts, hreads, (hreads.fits_iff_stands hstars text).2 hstands⟩

/-- A filter covers a request exactly if its type is one of the filter's and some wildcard of the
filter stands for the whole address: a star for any run of characters, a question mark for one
character, and every other character for itself. -/
theorem covers_iff_stands (hstars : ∀ w ∈ f.urls, ¬"**".toList <:+: w.toList) (url : String)
    (type : ResourceType) :
    f.covers url type = true ↔ type ∈ f.types ∧ ∃ w ∈ f.urls, Stands w.toList url.toList := by
  rw [covers_iff_fits]
  apply and_congr_right
  intro _
  apply exists_congr
  intro w
  apply and_congr_right
  intro hw
  exact exists_fits_iff_stands (hstars w hw)

/-- A filter with brackets in its wildcard, as in the address of a machine. -/
def machineImages : RequestFilter := ⟨["*://[::1]/[!a-z]?"], [.image]⟩

/-- A wildcard with a class, a question mark and a star, on one address that fits and one that does
not. -/
theorem machineImages_stands :
    (¬"**".toList <:+: "*://[::1]/[!a-z]?".toList) ∧
      Stands "*://[::1]/[!a-z]?".toList "http://[::1]/[!a-z]7".toList ∧
      ¬Stands "*://[::1]/[!a-z]?".toList "http://[::1]/A7".toList := by
  have hstars : ¬"**".toList <:+: "*://[::1]/[!a-z]?".toList := by
    decide +kernel
  have hcovers := covers_iff_stands (f := machineImages) (List.forall_mem_singleton.2 hstars)
  refine ⟨hstars, ?_, ?_⟩
  · obtain ⟨-, w, hw, hstands⟩ := (hcovers "http://[::1]/[!a-z]7" .image).1 (by decide +kernel)
    rwa [List.mem_singleton.1 hw] at hstands
  · intro hstands
    have htype : ResourceType.image ∈ machineImages.types := List.mem_singleton.2 rfl
    have hcovered := (hcovers "http://[::1]/A7" .image).2
      ⟨htype, _, List.mem_singleton.2 rfl, hstands⟩
    exact absurd hcovered (by decide +kernel)

/-! ## Wildcards that are refused -/

theorem wildcards_eq_nil_of_refused (hurls : f.urls = [wildcard])
    (h : ¬StarsFill true wildcard.toList) : f.wildcards = [] := by
  rw [List.eq_nil_iff_forall_not_mem]
  intro ts hts
  obtain ⟨w, hw, hreads⟩ := mem_wildcards_iff.1 hts
  rw [hurls, List.mem_singleton] at hw
  exact h (hw ▸ exists_reads_iff.1 ⟨ts, hreads⟩)

private theorem length_wildcards_of_starsFill (hurls : f.urls = [wildcard])
    (h : StarsFill true wildcard.toList) : f.wildcards.length = f.urls.length := by
  obtain ⟨ts, hreads⟩ := exists_reads_iff.2 h
  have htokens : ofText? wildcard = some ts := ofText?_eq_some_iff.2 hreads
  rw [wildcards, hurls, List.filterMap_cons_some htokens]
  rfl

/-- A wildcard that is not refused covers its own text. -/
theorem covers_self (hurl : wildcard ∈ f.urls) (h : StarsFill true wildcard.toList)
    {type : ResourceType} (htype : type ∈ f.types) : f.covers wildcard type = true := by
  obtain ⟨ts, hreads⟩ := exists_reads_iff.2 h
  exact covers_iff_fits.2 ⟨htype, wildcard, hurl, ts, hreads, hreads.fits_self⟩

/-- What a filter makes of its only wildcard. -/
structure Serves (f : RequestFilter) (wildcard : String) : Prop where
  urls : f.urls = [wildcard]
  types : f.types = ResourceType.filtered
  /-- Where two stars in a row fill a component, the wildcard is kept and covers its own text. -/
  kept : StarsFill true wildcard.toList →
    f.wildcards.length = f.urls.length ∧ ∀ type ∈ f.types, f.covers wildcard type = true
  /-- Otherwise it is refused, and the filter covers nothing. -/
  refused : ¬StarsFill true wildcard.toList →
    f.wildcards = [] ∧ ∀ url type, f.covers url type = false

private theorem serves_filtered (wildcard : String) :
    Serves ⟨[wildcard], ResourceType.filtered⟩ wildcard where
  urls := rfl
  types := rfl
  kept h := ⟨length_wildcards_of_starsFill rfl h,
    fun _ htype => covers_self List.mem_cons_self h htype⟩
  refused h := by
    have hnone := wildcards_eq_nil_of_refused (f := ⟨[wildcard], ResourceType.filtered⟩) rfl h
    refine ⟨hnone, fun url type => ?_⟩
    rw [covers, hnone, List.any_nil, Bool.and_false]

end RequestFilter

end Artifact

open NavPolicy.Artifact

/-- A destination that is compiled for the desktop browser gets one filter for each block pattern
in effect, in their order, and each serves the wildcard that its pattern resolves to. -/
theorem Destination.filters_serve {d : Destination} {mode : Option String} {o : Options}
    {a : Artifact} (h : d.compile .desktop mode o = .ok a) :
    ∃ start filters, Url.parse d.start = .ok start ∧ a.native = .requestFilters filters ∧
      List.Forall₂ (fun pattern f => f.Serves (resolveBlock pattern start))
        (d.effectiveBlock mode) filters := by
  obtain ⟨start, hstart, rfl⟩ := compile_eq_ok.1 h
  refine ⟨start, _, hstart, rfl, ?_⟩
  rw [List.forall₂_map_right_iff]
  exact List.forall₂_same.2 fun pattern _ => RequestFilter.serves_filtered _

/-- A destination with two stars inside of a component and with two that fill one. -/
def starred : Destination where
  start := "https://www.example.com/"
  allow := []
  block := ["a**", "/[x]/**/y?"]

theorem parse_starred : Url.parse starred.start = .ok homePage := parse_homePage

theorem resolveBlock_starred :
    (starred.effectiveBlock none).map (resolveBlock · homePage) =
      ["https://www.example.com/a**", "https://www.example.com/[x]/**/y?"] := by
  have hbare : ¬HasScheme "a**" := by
    decide
  have hrooted : IsRooted "/[x]/**/y?" := by
    decide
  have hblock : starred.effectiveBlock none = ["a**", "/[x]/**/y?"] := rfl
  rw [hblock, List.map_cons, List.map_cons, List.map_nil, resolveBlock_of_not_hasScheme hbare,
    hrooted.resolveBlock_eq (by decide)]
  decide

/-- A destination with two wildcards, one of which the notation refuses: its filter covers nothing.
-/
theorem starred_filters_serve :
    ∃ a lost kept, starred.compile .desktop none {} = .ok a ∧
      a.native = .requestFilters [lost, kept] ∧
      (∀ url type, lost.covers url type = false) ∧
      kept.covers "https://www.example.com/[x]/**/y?" .image = true := by
  obtain ⟨a, ha⟩ := Destination.exists_compile_iff.2 ⟨_, parse_starred⟩
  obtain ⟨start, filters, hstart, hnative, hserve⟩ := Destination.filters_serve ha
  rw [parse_starred] at hstart
  cases hstart
  have hfilters : List.Forall₂ (fun wildcard (f : RequestFilter) => f.Serves wildcard)
      ["https://www.example.com/a**", "https://www.example.com/[x]/**/y?"] filters := by
    rw [← resolveBlock_starred, List.forall₂_map_left_iff]
    exact hserve
  obtain ⟨lost, _, hlost, hrest, rfl⟩ := List.forall₂_cons_left_iff.1 hfilters
  obtain ⟨kept, _, hkept, hnone, rfl⟩ := List.forall₂_cons_left_iff.1 hrest
  rw [List.forall₂_nil_left_iff] at hnone
  subst hnone
  refine ⟨a, lost, kept, ha, hnative, ?_, ?_⟩
  · have hrefused : ¬Wildcard.StarsFill true "https://www.example.com/a**".toList := by
      rw [← Wildcard.isSome_ofText?_iff]
      decide +kernel
    exact (hlost.refused hrefused).2
  · have hfill : Wildcard.StarsFill true "https://www.example.com/[x]/**/y?".toList := by
      rw [← Wildcard.isSome_ofText?_iff]
      decide +kernel
    have htype : ResourceType.image ∈ kept.types := by
      rw [hkept.types]
      decide
    exact (hkept.kept hfill).2 _ htype

/-- The first pattern is lost: its filter lists the wildcard, but does not cover its text. -/
theorem starred_loses_pattern :
    ∃ a lost kept, starred.compile .desktop none {} = .ok a ∧
      a.native = .requestFilters [lost, kept] ∧
      Url.parse starred.start = .ok homePage ∧ "a**" ∈ starred.effectiveBlock none ∧
      lost.urls = [resolveBlock "a**" homePage] ∧ lost.wildcards = [] ∧
      ∀ type, lost.covers (resolveBlock "a**" homePage) type = false := by
  have hrefused : Wildcard.ofText? (resolveBlock "a**" homePage) = none := by
    have hresolved : resolveBlock "a**" homePage = "https://www.example.com/a**" :=
      (List.cons.inj resolveBlock_starred).1
    rw [hresolved]
    decide +kernel
  have hnone : RequestFilter.wildcards
      ⟨[resolveBlock "a**" homePage], ResourceType.filtered⟩ = [] :=
    List.filterMap_cons_none hrefused
  refine ⟨_, _, _, Destination.compile_eq_ok.2 ⟨_, parse_starred, rfl⟩, rfl, parse_starred,
    List.mem_cons_self, rfl, hnone, ?_⟩
  intro type
  rw [RequestFilter.covers, hnone, List.any_nil, Bool.and_false]

end NavPolicy
