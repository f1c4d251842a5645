import NavPolicy.Proofs.Artifact.PathFilters
import NavPolicy.Proofs.Artifact.Requests

/-!
# Filters that stay on the origin

A block pattern that names neither a scheme nor a host is put behind the origin of the start.  The
origin and the slash behind it are then plain text in front of the wildcard, whatever signs the
pattern holds and even if the host stands in brackets.  So the filter covers addresses of that
origin only, unless a star stands in the origin itself.
-/

namespace NavPolicy

open NavPolicy.Artifact NavPolicy.Wildcard

section Confinement

variable {d : Destination} {mode : Option String} {o : Options} {a : Artifact} {start : Url}
  {pattern page : String} {text : List Char}

/-- What the wildcard of a relative pattern covers begins with the origin and a slash. -/
theorem Artifact.IsRelative.isPrefix_of_covers (h : IsRelative pattern)
    (hstart : Url.parse page = .ok start) (hstar : '*' ∉ start.originText.toList)
    (hcovers : Covers (resolveBlock pattern start).toList text) :
    start.originText.toList ++ ['/'] <+: text := by
  obtain ⟨rest, hrest⟩ := h.isPrefix_resolveBlock start
  rw [← hrest] at hcovers
  apply hcovers.isPrefix
  rw [List.forall_mem_append, List.forall_mem_singleton]
  exact ⟨ne_sign_of_mem_originText hstart hstar, by decide⟩

/-- Each filter that is made from a relative pattern covers only addresses that begin with the
origin of the start and a slash, if no star stands in the origin. -/
theorem relative_filters_stay_on_origin (h : d.compile .desktop mode o = .ok a)
    (hstart : Url.parse d.start = .ok start) (hstar : '*' ∉ start.originText.toList) :
    ∃ filters, a.native = .requestFilters filters ∧
      List.Forall₂ (fun pattern f => IsRelative pattern → ∀ url type, f.covers url type = true →
        (start.originText ++ "/").toList <+: url.toList) (d.effectiveBlock mode) filters := by
  obtain ⟨start', hstart', rfl⟩ := Destination.compile_eq_ok.1 h
  rw [hstart, Except.ok.injEq] at hstart'
  subst hstart'
  refine ⟨_, rfl, ?_⟩
  rw [List.forall₂_map_right_iff]
  apply List.forall₂_same.2
  intro pattern _ hrelative url type hcovers
  rw [String.toList_append]
  exact hrelative.isPrefix_of_covers hstart hstar (RequestFilter.covers_single_iff.1 hcovers).2

end Confinement

/-- A destination on a machine without a name, with a pattern that holds every sign. -/
def localPanel : Destination where
  start := "http://[::1]:8080/panel"
  allow := []
  block := ["/**/[ab]*?"]

def panelPage : Url where
  scheme := "http"
  hasAuthority := true
  host := some (.ipv6 [0, 0, 0, 0, 0, 0, 0, 1])
  port := some 8080
  path := "/panel"

/-- A wildcard with brackets and two stars, on a machine with a port and no name. -/
theorem relative_filters_stay_on_panel :
    ∃ a f, localPanel.compile .desktop none {} = .ok a ∧ a.native = .requestFilters [f] ∧
      f.covers "http://[::1]:8080/x/y/[ab]7" .image = true ∧
      ∀ url type, f.covers url type = true → "http://[::1]:8080/".toList <+: url.toList := by
  have hstart : Url.parse localPanel.start = .ok panelPage := by
    decide +kernel
  have horigin : panelPage.originText = "http://[::1]:8080" := by
    decide
  have hrelative : IsRelative "/**/[ab]*?" := by
    decide
  have hwildcard : resolveBlock "/**/[ab]*?" panelPage = "http://[::1]:8080/**/[ab]*?" := by
    have hrooted : IsRooted "/**/[ab]*?" := by
      decide
    rw [hrooted.resolveBlock_eq (by decide), horigin]
    decide
  have hrules : localPanel.nativeRules .desktop none panelPage = .requestFilters
      [⟨[resolveBlock "/**/[ab]*?" panelPage], ResourceType.filtered⟩] := rfl
  obtain ⟨a, ha, hnative, -⟩ := Destination.exists_compile hstart .desktop none {}
  rw [hrules] at hnative
  obtain ⟨filters, hfilters, hstay⟩ :=
    relative_filters_stay_on_origin ha hstart (by decide)
  rw [hnative, NativeRules.requestFilters.injEq] at hfilters
  subst hfilters
  obtain ⟨hfirst, -⟩ := List.forall₂_cons.1 hstay
  refine ⟨a, _, ha, hnative, ?_, fun url type hcovers => ?_⟩
  · rw [hwildcard]
    decide +kernel
  · have hprefix := hfirst hrelative url type hcovers
    rwa [horigin] at hprefix

/-- A start without a host may have an origin with a star, which stands for any host. -/
theorem wildHome_filter_leaves_origin :
    ∃ a f, wildHome.compile .desktop none {} = .ok a ∧ a.native = .requestFilters [f] ∧
      Url.parse wildHome.start = .ok wildPage ∧ wildPage.host = none ∧
      wildHome.effectiveBlock none = ["/ads"] ∧ IsRelative "/ads" ∧
      f.urls = [resolveBlock "/ads" wildPage] ∧
      f.covers "https://any.example/x/ads" .image = true ∧
      ¬(wildPage.originText ++ "/").toList <+: "https://any.example/x/ads".toList := by
  refine ⟨_, _, Destination.compile_eq_ok.2 ⟨_, parse_wildHome, rfl⟩, rfl, parse_wildHome, rfl, rfl,
    by decide, rfl, ?_, by decide +kernel⟩
  change RequestFilter.covers ⟨[resolveBlock "/ads" wildPage], ResourceType.filtered⟩
    "https://any.example/x/ads" .image = true
  rw [resolveBlock_wildPage]
  decide +kernel

end NavPolicy
