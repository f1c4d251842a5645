import NavPolicy.Proofs.Decision.Law
import NavPolicy.Proofs.Pattern.GlobExpression

/-!
# Globs that name a path

What a path glob accepts begins with a slash.  Of the targets of an address only the path does,
alone or with the query behind it: the address itself begins with its scheme, the origin with
that of some address or with `null`, and no host holds a slash.  So rules made of path globs see
nothing else of an address.
-/

namespace NavPolicy

open NavPolicy.Pattern

/-- A pattern that is read as a glob and names a path. -/
structure IsPathGlob (pattern : String) : Prop where
  isGlob : (Matcher.compile pattern).kind = .glob
  slash : (Matcher.core pattern).head? = some '/'

/-! ## What path globs accept -/

section Globs

variable {glob text : List Char}

private theorem Pattern.Glob.head?_stem (hhead : glob.head? = some '/') :
    (Glob.stem glob).head? = some '/' := by
  rw [Glob.stem]
  split
  · rename_i hcut
    simp only [Bool.and_eq_true, bne_iff_ne, ne_eq] at hcut
    obtain ⟨more, rfl⟩ := List.head?_eq_some_iff.1 hhead
    cases more with
    | nil => exact absurd rfl hcut.2
    | cons c more => rfl
  · exact hhead

private theorem Pattern.Glob.Fits.head?_eq {s : List Char} (h : Glob.Fits glob s)
    (hhead : glob.head? = some '/') : s.head? = some '/' := by
  cases h with
  | nil => cases hhead
  | char _ _ => exact hhead
  | run _ _ => cases hhead

private theorem head?_append_of_eq {s : List Char} (h : s.head? = some '/') (q : List Char) :
    (s ++ q).head? = some '/' := by
  rw [List.head?_append, h]
  rfl

/-- What a path glob accepts begins with a slash. -/
theorem Pattern.Glob.Accepts.head?_eq (h : Glob.Accepts glob text)
    (hhead : glob.head? = some '/') : text.head? = some '/' := by
  by_cases hlast : glob.getLast? = some '*'
  · have hshape : Glob.shape glob = .openPath := by simp [Glob.shape, hhead, hlast]
    simp only [Glob.Accepts, hshape] at h
    obtain ⟨s, q, rfl, hfits, -⟩ := h
    exact head?_append_of_eq (hfits.head?_eq hhead) q
  · have hshape : Glob.shape glob = .path := by simp [Glob.shape, hhead, hlast]
    simp only [Glob.Accepts, hshape] at h
    obtain ⟨s, z, q, rfl, hfits, -⟩ := h
    exact head?_append_of_eq (hfits.head?_eq (Glob.head?_stem hhead)) (z ++ q)

theorem IsPathGlob.head?_of_isMatch {pattern candidate : String} (h : IsPathGlob pattern)
    (hmatch : (Matcher.compile pattern).isMatch candidate = true) :
    candidate.toList.head? = some '/' :=
  ((Matcher.isMatch_iff_accepts h.isGlob candidate).1 hmatch).head?_eq h.slash

end Globs

/-! ## Which targets begin with a slash -/

namespace Url

variable {text : String} {u v : Url}

theorem head?_ne_slash_of_parse (hparse : parse text = .ok u) : text.toList.head? ≠ some '/' := by
  intro hhead
  obtain ⟨rest, hrest⟩ := List.head?_eq_some_iff.1 hhead
  exact absurd (colon_mem_of_parse (x := []) hparse hrest) List.not_mem_nil

private theorem head?_originPath_ne_slash (hread : IsRead u) :
    (u.originText ++ u.path).toList.head? ≠ some '/' := by
  rcases originPath_cases hread with hnull | ⟨v, hv, horigin, -⟩
  · rw [hnull]
    simp
  · rw [horigin]
    intro hhead
    have hslash := hv.scheme_isHostText.slash
    cases hscheme : v.scheme.toList with
    | nil => simp [hscheme] at hhead
    | cons c more =>
        rw [hscheme, List.cons_append, List.head?_cons, Option.some.injEq] at hhead
        rw [hscheme, hhead] at hslash
        exact hslash List.mem_cons_self

/-- Among the targets of an address only those made of its path begin with a slash. -/
theorem mem_targets_of_slash (hparse : parse text = .ok u) {t : String}
    (hhead : t.toList.head? = some '/') :
    t ∈ targets text ↔ t = u.path ∨ t = u.path ++ u.search := by
  have hread : IsRead u := isRead_of_parse hparse
  have hne : t ≠ "" := by
    rintro rfl
    cases hhead
  have htext : t ≠ text := by
    rintro rfl
    exact head?_ne_slash_of_parse hparse hhead
  have horigin : t ≠ u.originText ++ u.path := by
    rintro rfl
    exact head?_originPath_ne_slash hread hhead
  have hhost : t ≠ u.hostText := by
    rintro rfl
    exact hread.host.slash (List.mem_of_head? hhead)
  simp only [mem_targets_iff hparse, projections, List.mem_cons, List.not_mem_nil, or_false, htext,
    horigin, hhost, false_or, ne_eq, hne, not_false_eq_true, and_true]

private theorem search_congr (h : u.query.getD "" = v.query.getD "") : u.search = v.search := by
  have hsearch : ∀ w : Url, w.search =
      if (w.query.getD "").isEmpty then "" else "?" ++ w.query.getD "" := by
    intro w
    rw [search]
    cases w.query with
    | none => rfl
    | some q => rfl
  rw [hsearch u, hsearch v, h]

end Url

/-! ## Rules made of path globs -/

section Rules

variable {pattern text text' : String} {u v : Url}

/-- A path glob hits an address by its path or by its path with the query. -/
theorem IsPathGlob.hits_targets_iff (h : IsPathGlob pattern) (hparse : Url.parse text = .ok u) :
    (Matcher.compile pattern).Hits (targets text) ↔
      (Matcher.compile pattern).isMatch u.path = true ∨
        (Matcher.compile pattern).isMatch (u.path ++ u.search) = true := by
  constructor
  · rintro ⟨t, ht, hmatch⟩
    rcases (Url.mem_targets_of_slash hparse (h.head?_of_isMatch hmatch)).1 ht with rfl | rfl
    · exact Or.inl hmatch
    · exact Or.inr hmatch
  · intro hmatch
    have hhit : ∀ t, t = u.path ∨ t = u.path ++ u.search →
        (Matcher.compile pattern).isMatch t = true →
          (Matcher.compile pattern).Hits (targets text) := by
      intro t ht hmatch
      have hslash : t.toList.head? = some '/' := h.head?_of_isMatch hmatch
      exact ⟨t, (Url.mem_targets_of_slash hparse hslash).2 ht, hmatch⟩
    rcases hmatch with hmatch | hmatch
    · exact hhit _ (Or.inl rfl) hmatch
    · exact hhit _ (Or.inr rfl) hmatch

private theorem IsPathGlob.hits_targets_congr (h : IsPathGlob pattern) (hu : Url.parse text = .ok u)
    (hv : Url.parse text' = .ok v) (hpath : u.path = v.path)
    (hquery : u.query.getD "" = v.query.getD "") :
    (Matcher.compile pattern).Hits (targets text) ↔
      (Matcher.compile pattern).Hits (targets text') := by
  rw [h.hits_targets_iff hu, h.hits_targets_iff hv, hpath, Url.search_congr hquery]

/-- Rules made of path globs decide by the path and the query alone, a query that is missing
counting as one that is empty. -/
theorem Matchers.verdict_eq_of_path {allow block : List String}
    (hallow : ∀ p ∈ allow, IsPathGlob p) (hblock : ∀ p ∈ block, IsPathGlob p)
    (hu : Url.parse text = .ok u) (hv : Url.parse text' = .ok v) (hpath : u.path = v.path)
    (hquery : u.query.getD "" = v.query.getD "") :
    (compile allow block).verdict text = (compile allow block).verdict text' := by
  apply verdict_congr
  · intro a ha
    obtain ⟨p, hp, rfl⟩ := List.mem_map.1 ha
    exact (hallow p hp).hits_targets_congr hu hv hpath hquery
  · intro b hb
    obtain ⟨p, hp, rfl⟩ := List.mem_map.1 hb
    exact (hblock p hp).hits_targets_congr hu hv hpath hquery

end Rules

def landing : Url where
  scheme := "https"
  hasAuthority := true
  host := some (.name "example.com")
  path := "/a/b"
  query := some ""
  fragment := some "top"

def mirror : Url where
  scheme := "ftp"
  username := "me"
  hasAuthority := true
  host := some (.ipv6 [0, 0, 0, 0, 0, 0, 0, 1])
  port := some 2121
  path := "/a/b"

/-- Two addresses that have only their path in common. -/
theorem Matchers.verdict_landing_eq_mirror :
    Url.parse "https://example.com/x/../a/b?#top" = .ok landing ∧
      Url.parse " FTP:\\me@[::1]:2121/a/b" = .ok mirror ∧
      (compile [" /a/* "] ["/"]).verdict "https://example.com/x/../a/b?#top" =
        (compile [" /a/* "] ["/"]).verdict " FTP:\\me@[::1]:2121/a/b" := by
  have hlanding : Url.parse "https://example.com/x/../a/b?#top" = .ok landing := by
    decide +kernel
  have hmirror : Url.parse " FTP:\\me@[::1]:2121/a/b" = .ok mirror := by
    decide +kernel
  have hallow : IsPathGlob " /a/* " :=
    ⟨Matcher.kind_eq_glob (by decide) (by decide) (by decide), by decide⟩
  have hblock : IsPathGlob "/" :=
    ⟨Matcher.kind_eq_glob (by decide) (by decide) (by decide), by decide⟩
  refine ⟨hlanding, hmirror, ?_⟩
  exact verdict_eq_of_path (by simpa using hallow) (by simpa using hblock) hlanding hmirror rfl rfl

end NavPolicy
