import NavPolicy.Proofs.Decision.Targets
import NavPolicy.Proofs.Pattern.GlobExpression
import NavPolicy.Proofs.Url.Origin

/-!
# Globs that name a host

A glob such as `https://example.com/*` names a scheme and a host.  An address that it
matches is on that host, unless it mentions the host elsewhere: in a path without an
authority in front of it, or, where the glob takes any scheme, anywhere behind its own.
-/

namespace NavPolicy

open NavPolicy.Pattern
open NavPolicy.Url (mention behindScheme IsKeptName)

/-- The scheme in front of a glob. -/
inductive GlobScheme where
  | any
  | http
  | https
  deriving DecidableEq, Repr

/-- How a glob writes its scheme. -/
def GlobScheme.text : GlobScheme → String
  | any => "*"
  | http => "http"
  | https => "https"

/-- A glob that names a scheme and a host, and is read as a glob. -/
structure SchemeGlob where
  scheme : GlobScheme
  host : String
  rest : String
  literal : '*' ∉ host.toList
  kept : IsKeptName host
  isGlob : (Matcher.compile (scheme.text ++ "://" ++ host ++ "/" ++ rest)).kind = .glob

namespace SchemeGlob

variable (g : SchemeGlob)

def pattern : String := g.scheme.text ++ "://" ++ g.host ++ "/" ++ g.rest

def matcher : Matcher := Matcher.compile g.pattern

/-- Where an address may be that the glob matches. -/
def Confines (text : String) (u : Url) : Prop :=
  match g.scheme with
  | .any =>
      u.hostText = g.host ∨ (u.scheme = "file" ∧ u.host = none) ∨
        mention g.host.toList <:+: (u.path ++ u.search).toList ∨
        mention g.host.toList <:+: behindScheme text
  | scheme =>
      u.hostText = g.host ∨
        (u.hasAuthority = false ∧ scheme.text.toList ++ mention g.host.toList <+: u.path.toList)

private theorem toList_pattern :
    g.pattern.toList = g.scheme.text.toList ++ (mention g.host.toList ++ g.rest.toList) := by
  simp [pattern, mention]

theorem isBlank_eq_false {c : Char} (h : c ∈ g.scheme.text.toList ++ mention g.host.toList) :
    Text.isBlank c = false := by
  rcases List.mem_append.1 h with h | h
  · have hscheme : ∀ c ∈ g.scheme.text.toList, Text.isBlank c = false := by
      cases g.scheme <;> simp [GlobScheme.text, Text.isBlank, Text.isBlankCode]
    exact hscheme c h
  · simp only [mention, List.mem_cons, List.mem_append, List.not_mem_nil, or_false] at h
    rcases h with rfl | rfl | rfl | h | rfl
    · decide
    · decide
    · decide
    · have hascii := g.kept.ascii c h
      have hallowed := g.kept.isPlainName.isOuterBlank_eq_false h
      simp only [Url.isOuterBlank, decide_eq_false_iff_not] at hallowed
      simp only [Text.isBlank, Text.isBlankCode, Bool.or_eq_false_iff, Bool.and_eq_false_iff,
        decide_eq_false_iff_not, beq_eq_false_iff_ne]
      omega
    · decide

/-- The glob without blanks around it still begins with its scheme and its host. -/
theorem exists_core_eq :
    ∃ rest, Matcher.core g.pattern =
      g.scheme.text.toList ++ (mention g.host.toList ++ rest) := by
  let front := g.scheme.text.toList ++ mention g.host.toList
  have hne : front ≠ [] := by simp [front, mention]
  have hfront : ∀ c ∈ front, Text.isBlank c = false := fun c hc => g.isBlank_eq_false hc
  have hne' : front.reverse ≠ [] := by simpa using hne
  have hfront' : ∀ c ∈ front.reverse, Text.isBlank c = false :=
    fun c hc => hfront c (List.mem_reverse.1 hc)
  have hpattern : g.pattern.toList = [] ++ (front ++ g.rest.toList) := by
    rw [toList_pattern, ← List.append_assoc]
    rfl
  have hreverse : (front ++ g.rest.toList).reverse =
      g.rest.toList.reverse ++ (front.reverse ++ []) := by simp
  refine ⟨(g.rest.toList.reverse.dropWhile Text.isBlank).reverse, ?_⟩
  rw [Matcher.core, Text.trimBlanks, hpattern, Url.dropWhile_append_kept hne hfront,
    List.dropWhile_nil, List.nil_append, hreverse, Url.dropWhile_append_kept hne' hfront']
  simp [front]

/-- What the glob matches begins with its scheme, or with anything where it takes any
scheme, and mentions its host next. -/
theorem exists_of_isMatch {t : String} (h : g.matcher.isMatch t = true) :
    ∃ before rest, t.toList = before ++ (mention g.host.toList ++ rest) ∧
      (g.scheme = .any ∨ before = g.scheme.text.toList) := by
  obtain ⟨more, hcore⟩ := g.exists_core_eq
  have haccepts : Pattern.Glob.Accepts (Matcher.core g.pattern) t.toList :=
    (Matcher.isMatch_iff_accepts g.isGlob t).1 h
  rw [hcore] at haccepts
  have hhead : (g.scheme.text.toList ++ (mention g.host.toList ++ more)).head? ≠ some '/' := by
    cases g.scheme <;> simp [GlobScheme.text]
  have hscheme : "://".toList <:+: g.scheme.text.toList ++ (mention g.host.toList ++ more) :=
    ⟨g.scheme.text.toList, g.host.toList ++ ['/'] ++ more, by simp [mention]⟩
  obtain ⟨s, q, ht, hfits⟩ := haccepts.exists_fits_front hhead hscheme
  obtain ⟨before, s, rfl, hbefore, hfits⟩ := Pattern.Glob.fits_append_iff.1 hfits
  obtain ⟨named, s, rfl, hnamed, -⟩ := Pattern.Glob.fits_append_iff.1 hfits
  have hstar : '*' ∉ mention g.host.toList := by
    simp [mention, g.literal]
  rw [hnamed.eq_of_not_mem hstar] at ht
  refine ⟨before, s ++ q, by rw [ht]; simp, ?_⟩
  cases hkind : g.scheme with
  | any => exact Or.inl rfl
  | http =>
      rw [hkind] at hbefore
      exact Or.inr (hbefore.eq_of_not_mem (by decide))
  | https =>
      rw [hkind] at hbefore
      exact Or.inr (hbefore.eq_of_not_mem (by decide))

end SchemeGlob

/-! ## Addresses with a target that mentions a host -/

section Targets

variable {host text t : String} {u : Url}

theorem search_cases (u : Url) :
    u.search.toList = [] ∨ ∃ q, u.search.toList = '?' :: q := by
  rw [Url.search]
  split
  · exact Or.inl rfl
  · split
    · exact Or.inl rfl
    · exact Or.inr ⟨_, String.toList_append⟩

theorem not_mention_hostText (hread : Url.IsRead u) {before rest : List Char} :
    u.hostText.toList ≠ before ++ (mention host.toList ++ rest) := by
  intro h
  refine hread.host.slash (h ▸ ?_)
  simp [mention]

/-- What stands in front of the first query sign of a path with its query stands in the path. -/
theorem prefix_path_of_append {front rest path query : List Char} (hsign : '?' ∉ front)
    (hquery : query = [] ∨ ∃ q, query = '?' :: q) (h : front ++ rest = path ++ query) :
    front <+: path := by
  rcases hquery with rfl | ⟨q, rfl⟩
  · rw [List.append_nil] at h
    exact ⟨rest, h⟩
  · obtain ⟨more, hmore, -⟩ := Url.append_cut h hsign
    exact ⟨more, hmore.symm⟩

/-- A path that does not begin with a slash has no authority in front of it. -/
theorem hasAuthority_eq_false_of_path (hread : Url.IsRead u) {front : List Char}
    (hne : front ≠ []) (hslash : front.head? ≠ some '/') (h : front <+: u.path.toList) :
    u.hasAuthority = false := by
  obtain ⟨c, front, rfl⟩ := List.exists_cons_of_ne_nil hne
  by_contra hauthority
  obtain ⟨more, hmore⟩ := h
  rcases hread.path (by simpa using hauthority) with hnil | ⟨tail, htail⟩
  · rw [hnil] at hmore
    cases hmore
  · rw [htail] at hmore
    cases hmore
    exact hslash rfl

/-- A target that begins with a scheme of the web and mentions a host next. -/
theorem confined_of_web_target {scheme : String} {rest : List Char} (hkept : IsKeptName host)
    (hscheme : scheme = "http" ∨ scheme = "https") (hparse : Url.parse text = .ok u)
    (ht : t ∈ targets text) (htext : t.toList = scheme.toList ++ (mention host.toList ++ rest)) :
    u.hostText = host ∨
      (u.hasAuthority = false ∧ scheme.toList ++ mention host.toList <+: u.path.toList) := by
  have hread := Url.isRead_of_parse hparse
  let front := scheme.toList ++ mention host.toList
  have htext' : t.toList = front ++ rest := by
    rw [htext, ← List.append_assoc]
  have hne : front ≠ [] := by simp [front, mention]
  have hslash : front.head? ≠ some '/' := by
    rcases hscheme with rfl | rfl <;> simp [front]
  have hsign : '?' ∉ front := by
    have hhost : '?' ∉ host.toList := fun hc => (hkept.isPlainName.ne_of_mem hc).2.2.1 rfl
    rcases hscheme with rfl | rfl <;> simp [front, mention, hhost]
  have hpath : front <+: u.path.toList → u.hasAuthority = false ∧ front <+: u.path.toList :=
    fun h => ⟨hasAuthority_eq_false_of_path hread hne hslash h, h⟩
  rcases mem_targets hparse ht with rfl | ht
  · exact Or.inl (hkept.hostText_of_web hscheme htext hparse)
  · simp only [Url.projections, List.mem_cons, List.not_mem_nil, or_false] at ht
    rcases ht with rfl | rfl | rfl | rfl
    · left
      apply String.toList_injective
      exact Url.hostText_of_originPath_web hscheme hkept.isPlainName hread htext
    · exact Or.inr (hpath ⟨rest, htext'.symm⟩)
    · rw [String.toList_append] at htext'
      exact Or.inr (hpath (prefix_path_of_append hsign (search_cases u) htext'.symm))
    · exact absurd htext (not_mention_hostText hread)

/-- A target that mentions a host anywhere. -/
theorem confined_of_target {before rest : List Char} (hkept : IsKeptName host)
    (hparse : Url.parse text = .ok u) (ht : t ∈ targets text)
    (htext : t.toList = before ++ (mention host.toList ++ rest)) :
    u.hostText = host ∨ (u.scheme = "file" ∧ u.host = none) ∨
      mention host.toList <:+: (u.path ++ u.search).toList ∨
      mention host.toList <:+: behindScheme text := by
  have hread := Url.isRead_of_parse hparse
  have hpath : mention host.toList <:+: u.path.toList →
      mention host.toList <:+: (u.path ++ u.search).toList := by
    intro h
    rw [String.toList_append]
    exact h.trans (List.prefix_append _ _).isInfix
  have hinfix : mention host.toList <:+: t.toList :=
    ⟨before, rest, by rw [htext, List.append_assoc]⟩
  rcases mem_targets hparse ht with rfl | ht
  · rcases hkept.hostText_of_text htext hparse with h | h | h
    · exact Or.inl h
    · exact Or.inr (Or.inl h)
    · exact Or.inr (Or.inr (Or.inr h))
  · simp only [Url.projections, List.mem_cons, List.not_mem_nil, or_false] at ht
    rcases ht with rfl | rfl | rfl | rfl
    · rcases Url.hostText_of_originPath hkept.isPlainName hread htext with h | h
      · exact Or.inl (String.toList_injective h)
      · exact Or.inr (Or.inr (Or.inl (hpath h)))
    · exact Or.inr (Or.inr (Or.inl (hpath hinfix)))
    · exact Or.inr (Or.inr (Or.inl hinfix))
    · exact absurd htext (not_mention_hostText hread)

end Targets

namespace SchemeGlob

/-- A matched address is confined, whichever of its targets the glob matches. -/
theorem confines_of_isMatch {g : SchemeGlob} {text t : String} {u : Url}
    (hparse : Url.parse text = .ok u) (ht : t ∈ targets text) (h : g.matcher.isMatch t = true) :
    g.Confines text u := by
  obtain ⟨before, rest, htext, hbefore⟩ := g.exists_of_isMatch h
  have hweb : ∀ scheme : String, scheme = "http" ∨ scheme = "https" →
      before = scheme.toList → u.hostText = g.host ∨ (u.hasAuthority = false ∧
        scheme.toList ++ mention g.host.toList <+: u.path.toList) := by
    rintro scheme hscheme rfl
    exact confined_of_web_target g.kept hscheme hparse ht htext
  rw [Confines]
  cases hkind : g.scheme with
  | any => exact confined_of_target g.kept hparse ht htext
  | http =>
      apply hweb "http" (Or.inl rfl)
      simpa [hkind, GlobScheme.text] using hbefore
  | https =>
      apply hweb "https" (Or.inr rfl)
      simpa [hkind, GlobScheme.text] using hbefore

/-! ## An address that mentions a host in its query -/

def direct : SchemeGlob where
  scheme := .any
  host := "example.com"
  rest := "direct/*"
  literal := by decide
  kept :=
    { ascii := by simp
      kept :=
        ⟨{ scheme := "https"
           hasAuthority := true
           host := some (.name "example.com")
           path := "/" }, by decide +kernel, rfl⟩ }
  isGlob := Matcher.kind_eq_glob (by decide) (by decide) (by decide)

def redirect : Url where
  scheme := "https"
  hasAuthority := true
  host := some (.name "evil.example")
  path := "/"
  query := some "u=://example.com/direct/"

theorem parse_redirect :
    Url.parse "https://evil.example/?u=://example.com/direct/" = .ok redirect := by
  decide +kernel

theorem direct_isMatch_redirect :
    direct.matcher.isMatch "https://evil.example/?u=://example.com/direct/" = true := by
  apply (Matcher.isMatch_iff_accepts direct.isGlob _).2
  change Pattern.Glob.Fits ('*' :: ("://example.com/direct/".toList ++ ['*']))
    ("https://evil.example/?u=".toList ++ ("://example.com/direct/".toList ++ ([] ++ [])))
  refine .run (by decide) (Pattern.Glob.fits_append_iff.2 ⟨_, _, rfl, ?_, ?_⟩)
  · exact Pattern.Glob.fits_self _
  · exact .run (by decide) .nil

end SchemeGlob

end NavPolicy
