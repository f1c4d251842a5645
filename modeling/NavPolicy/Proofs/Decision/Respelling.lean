import NavPolicy.Proofs.Decision.PathGlobs
import NavPolicy.Proofs.Pattern.GlobExpression
import NavPolicy.Proofs.Url.Serialization

/-!
# Spellings of one address

An address may be spelled in many ways, and the first of its targets is the spelling itself.  The
other targets are the same for all spellings.  So a block that names a scheme treats two spellings
alike unless it matches just one of them as it is written, and a block of what precedes the query
cannot be evaded by writing the address in another way.
-/

namespace NavPolicy

open NavPolicy.Pattern

/-- A pattern that is read as a glob and names a scheme. -/
structure IsSchemePattern (pattern : String) : Prop where
  isGlob : (Matcher.compile pattern).kind = .glob
  scheme : "://".toList <:+: pattern.toList

/-! ## What scheme patterns accept -/

/-- What holds no blank is not cut from a pattern. -/
theorem Pattern.Matcher.isInfix_core {kept : List Char} {pattern : String} (hne : kept ≠ [])
    (hkept : ∀ c ∈ kept, Text.isBlank c = false) (h : kept <:+: pattern.toList) :
    kept <:+: Matcher.core pattern := by
  obtain ⟨before, after, hpattern⟩ := h
  have hne' : kept.reverse ≠ [] := by simpa using hne
  have hkept' : ∀ c ∈ kept.reverse, Text.isBlank c = false := by simpa using hkept
  rw [List.append_assoc] at hpattern
  rw [Matcher.core, Text.trimBlanks, ← hpattern, Url.dropWhile_append_kept hne hkept,
    List.reverse_append, List.reverse_append, List.append_assoc,
    Url.dropWhile_append_kept hne' hkept']
  exact ⟨before.dropWhile Text.isBlank, (after.reverse.dropWhile Text.isBlank).reverse, by simp⟩

theorem isInfix_core_of_scheme {pattern : String} (h : "://".toList <:+: pattern.toList) :
    "://".toList <:+: Matcher.core pattern := by
  have hkept : ∀ c ∈ "://".toList, Text.isBlank c = false :=
    List.all_iff_forall_prop.1 (by decide)
  exact Matcher.isInfix_core (by decide) hkept h

namespace Pattern.Glob

variable {glob front tail text : List Char}

theorem Fits.mem {s : List Char} (h : Fits glob s) {c : Char} (hc : c ≠ '*') (hmem : c ∈ glob) :
    c ∈ s := by
  induction h with
  | nil => exact hmem
  | char _ _ ih =>
      rcases List.mem_cons.1 hmem with rfl | hmem
      · exact List.mem_cons_self
      · exact List.mem_cons_of_mem _ (ih hmem)
  | run _ _ ih =>
      rcases List.mem_cons.1 hmem with rfl | hmem
      · exact absurd rfl hc
      · exact List.mem_append_right _ (ih hmem)

theorem slash_mem_of_accepts (hscheme : "://".toList <:+: glob) (h : Accepts glob text) :
    '/' ∈ text := by
  by_cases hhead : glob.head? = some '/'
  · exact List.mem_of_head? (h.head?_eq hhead)
  · obtain ⟨s, q, rfl, hfits⟩ := h.exists_fits_front hhead hscheme
    have hslash : '/' ∈ glob := hscheme.subset (by decide)
    exact List.mem_append_left q (hfits.mem (by decide) hslash)

/-- A glob that says nothing of a query or a fragment: it holds neither of their signs, and a
star only at its end. -/
structure IsPlain (glob : List Char) : Prop where
  query : '?' ∉ glob
  fragment : '#' ∉ glob
  star : '*' ∉ glob.dropLast

private theorem IsPlain.isPathEnd (h : IsPlain glob) : ∀ c ∈ glob, Url.isPathEnd c = false :=
  Url.isPathEnd_eq_false_of_not_mem h.query h.fragment

private theorem IsTail.isPathEnd_head? {q : List Char} (h : IsTail q) :
    ∀ c ∈ q.head?, Url.isPathEnd c = true := by
  rcases h with rfl | ⟨d, r, rfl, hd, -⟩
  · simp
  · intro c hc
    cases hc
    exact Url.isPathEnd_iff.2 hd

private theorem IsPlain.star_not_mem (h : IsPlain glob) (hlast : glob.getLast? ≠ some '*') :
    '*' ∉ glob := by
  intro hmem
  obtain ⟨front, last, hglob⟩ : ∃ front last, glob = front ++ [last] :=
    ⟨_, _, (List.dropLast_concat_getLast (List.ne_nil_of_mem hmem)).symm⟩
  subst hglob
  rw [List.getLast?_concat] at hlast
  have hfront := h.star
  rw [List.dropLast_concat] at hfront
  rcases List.mem_append.1 hmem with hmem | hmem
  · exact hfront hmem
  · exact hlast (by rw [List.mem_singleton.1 hmem])

/-- A plain glob that fits a text with a query or a fragment fits what precedes them. -/
theorem IsPlain.accepts_front (hplain : IsPlain glob) (hscheme : "://".toList <:+: glob)
    (hhead : glob.head? ≠ some '/') (hfront : ∀ c ∈ front, Url.isPathEnd c = false)
    (hnewline : '\n' ∉ front) (htail : ∀ c ∈ tail.head?, Url.isPathEnd c = true)
    (h : Accepts glob (front ++ tail)) : Accepts glob front := by
  by_cases hlast : glob.getLast? = some '*'
  · obtain ⟨stem, rfl⟩ := List.getLast?_eq_some_iff.1 hlast
    have hstar : '*' ∉ stem := by simpa using hplain.star
    have hstem : ∀ c ∈ stem, Url.isPathEnd c = false :=
      (List.forall_mem_append.1 hplain.isPathEnd).1
    simp only [Accepts, shape_of_whole hhead hlast] at h ⊢
    obtain ⟨s, r, htext, hfits, -⟩ := fits_append_iff.1 h
    rw [hfits.eq_of_not_mem hstar] at htext
    have hcut : ∃ more, front = stem ++ more := by
      rcases List.append_eq_append_iff.1 htext with ⟨more, rfl, rfl⟩ | ⟨more, rfl, -⟩
      · cases more with
        | nil => exact ⟨[], by simp⟩
        | cons c more =>
            have hfalse := hstem c (List.mem_append_right front List.mem_cons_self)
            rw [htail c rfl] at hfalse
            cases hfalse
      · exact ⟨more, rfl⟩
    obtain ⟨more, rfl⟩ := hcut
    have hmore : '\n' ∉ more := fun hmem => hnewline (List.mem_append_right stem hmem)
    have hrun : Fits ['*'] more := fits_star_iff.2 ⟨more, [], by simp, hmore, .nil⟩
    exact fits_append_iff.2 ⟨stem, more, rfl, fits_self stem, hrun⟩
  · simp only [Accepts, shape_of_address hscheme hhead hlast] at h ⊢
    obtain ⟨s, q, htext, hfits, hq⟩ := h
    rw [hfits.eq_of_not_mem (hplain.star_not_mem hlast)] at htext
    obtain ⟨rfl, -⟩ :=
      Url.append_tail_inj htext hfront hplain.isPathEnd htail hq.isPathEnd_head?
    exact ⟨front, [], by simp, fits_self front, Or.inl rfl⟩

end Pattern.Glob

/-! ## Addresses of the web without credentials -/

namespace Url

variable {text : String} {u : Url}

/-- The origin of an address of the web is its scheme, host and port. -/
theorem originText_of_web (hweb : (defaultPort? u.scheme).isSome = true) :
    u.originText = u.scheme ++ "://" ++ u.hostText ++ u.portText := by
  have horigin : ∀ fuel,
      originOf fuel u = some (u.scheme ++ "://" ++ u.hostText ++ u.portText) := by
    intro fuel
    cases fuel <;> simp only [originOf, hweb, if_true]
  rw [originText, origin?, horigin, Option.getD_some]

/-- The text of such an address is its origin and its path, and then the query and the fragment. -/
theorem toList_text_of_web (hread : IsRead u) (hweb : (defaultPort? u.scheme).isSome = true)
    (hcredentials : u.credentials = "") :
    u.text.toList = (u.originText ++ u.path).toList ++ (u.queryText ++ u.fragmentText) := by
  rw [toList_text, originText_of_web hweb]
  simp [authorityText, endpoint, hread.hasAuthority_of_web hweb, hcredentials]

theorem isPathEnd_of_mem_originPath (hread : IsRead u) (hdelimited : IsDelimited u)
    (hweb : (defaultPort? u.scheme).isSome = true) :
    ∀ c ∈ (u.originText ++ u.path).toList, isPathEnd c = false := by
  have hscheme : ∀ c ∈ u.scheme.toList, isPathEnd c = false := by
    intro c hc
    have hchar := hread.scheme c hc
    apply isPathEnd_eq_false <;>
      · rintro rfl
        exact absurd hchar (by decide)
  have hhost : ∀ c ∈ u.endpoint, isPathEnd c = false :=
    fun c hc => (plain_of_mem_endpoint hdelimited c hc).1
  rw [endpoint, List.forall_mem_append] at hhost
  rw [originText_of_web hweb]
  simp only [String.toList_append, List.forall_mem_append]
  have hslashes : ∀ c ∈ "://".toList, isPathEnd c = false :=
    List.all_iff_forall_prop.1 (by decide)
  exact ⟨⟨⟨⟨hscheme, hslashes⟩, hhost.1⟩, hhost.2⟩, hdelimited.path⟩

end Url

/-! ## What the blocks match -/

def AnyMatches (patterns : List String) (t : String) : Prop :=
  ∃ p ∈ patterns, (Matcher.compile p).isMatch t = true

/-- Whether some pattern of a list matches an address however it is spelled. -/
def MatchesParts (patterns : List String) (u : Url) : Prop :=
  AnyMatches patterns (u.originText ++ u.path) ∨ AnyMatches patterns u.path ∨
    AnyMatches patterns (u.path ++ u.search)

section Blocks

variable {block : List String} {text text' : String} {u v : Url}

private theorem IsSchemePattern.slash_mem {p t : String} (h : IsSchemePattern p)
    (hmatch : (Matcher.compile p).isMatch t = true) : '/' ∈ t.toList := by
  have hcore : "://".toList <:+: Matcher.core p :=
    isInfix_core_of_scheme h.scheme
  exact Glob.slash_mem_of_accepts hcore ((Matcher.isMatch_iff_accepts h.isGlob t).1 hmatch)

/-- Patterns that name a scheme see the spelling of an address, its origin with its path, its path
and its path with its query; they match no host. -/
theorem Matchers.blocks_iff_of_parse (allow : List String) (hblock : ∀ p ∈ block, IsSchemePattern p)
    (hu : Url.parse text = .ok u) :
    (compile allow block).blocks text = true ↔ AnyMatches block text ∨ MatchesParts block u := by
  have hhost : ∀ {p}, p ∈ block → (Matcher.compile p).isMatch u.hostText ≠ true :=
    fun hp hmatch => (Url.isRead_of_parse hu).host.slash ((hblock _ hp).slash_mem hmatch)
  rw [blocks_iff]
  constructor
  · rintro ⟨b, hb, t, ht, hmatch⟩
    obtain ⟨p, hp, rfl⟩ := List.mem_map.1 hb
    have hany : AnyMatches block t := ⟨p, hp, hmatch⟩
    rcases mem_targets hu ht with rfl | ht
    · exact Or.inl hany
    · simp only [Url.projections, List.mem_cons, List.not_mem_nil, or_false] at ht
      rcases ht with rfl | rfl | rfl | rfl
      · exact Or.inr (Or.inl hany)
      · exact Or.inr (Or.inr (Or.inl hany))
      · exact Or.inr (Or.inr (Or.inr hany))
      · exact absurd hmatch (hhost hp)
  · have htarget : ∀ t, t = text ∨ t ∈ u.projections → AnyMatches block t →
        ∃ b ∈ (compile allow block).block, ∃ t ∈ targets text, b.isMatch t = true := by
      rintro t ht ⟨p, hp, hmatch⟩
      have hne : t ≠ "" := by
        rintro rfl
        exact List.not_mem_nil ((hblock p hp).slash_mem hmatch)
      have hmem : t ∈ targets text := (mem_targets_iff hu).2 (ht.imp_right fun h => ⟨h, hne⟩)
      exact ⟨_, List.mem_map.2 ⟨p, hp, rfl⟩, t, hmem, hmatch⟩
    rintro (h | h | h | h)
    · exact htarget _ (Or.inl rfl) h
    · exact htarget _ (Or.inr (by simp [Url.projections])) h
    · exact htarget _ (Or.inr (by simp [Url.projections])) h
    · exact htarget _ (Or.inr (by simp [Url.projections])) h

private theorem matchesParts_congr (h : Url.SameParts u v) :
    MatchesParts block u ↔ MatchesParts block v := by
  have hsearch : u.search = v.search := by
    rw [Url.search, Url.search, h.query]
  rw [MatchesParts, MatchesParts, h.originText_eq, h.path, hsearch]

/-- What the blocks say of an address that is spelled as it is written from its parts.  Where they
match the spelling, they match what precedes the query and the fragment, if there is nothing else
or if they say nothing of it. -/
theorem matchesParts_of_anyMatches (hblock : ∀ p ∈ block, IsSchemePattern p)
    (hu : Url.parse text = .ok u) (hspelled : u.text = text)
    (hweb : (Url.defaultPort? u.scheme).isSome = true) (hcredentials : u.credentials = "")
    (hplain : (u.query = none ∧ u.fragment = none) ∨
      ∀ p ∈ block, Glob.IsPlain (Matcher.core p)) (h : AnyMatches block text) :
    MatchesParts block u := by
  have hread : Url.IsRead u := Url.isRead_of_parse hu
  have hdelimited : Url.IsDelimited u := Url.isDelimited_of_parse hu
  have htext := Url.toList_text_of_web hread hweb hcredentials
  rw [hspelled] at htext
  left
  rcases hplain with ⟨hquery, hfragment⟩ | hplain
  · have horigin : text = u.originText ++ u.path := by
      apply String.toList_injective
      rw [htext, Url.queryText, Url.fragmentText, hquery, hfragment]
      simp
    rwa [← horigin]
  · obtain ⟨p, hp, hmatch⟩ := h
    have hglob := (hblock p hp).isGlob
    have haccepts := (Matcher.isMatch_iff_accepts hglob text).1 hmatch
    have hhead : (Matcher.core p).head? ≠ some '/' := fun hhead =>
      Url.head?_ne_slash_of_parse hu (haccepts.head?_eq hhead)
    have hscheme : "://".toList <:+: Matcher.core p :=
      isInfix_core_of_scheme (hblock p hp).scheme
    have hnewline : '\n' ∉ (u.originText ++ u.path).toList :=
      newline_not_mem_projections hread List.mem_cons_self
    rw [htext] at haccepts
    refine ⟨p, hp, (Matcher.isMatch_iff_accepts hglob _).2 ?_⟩
    exact (hplain p hp).accepts_front hscheme hhead
      (Url.isPathEnd_of_mem_originPath hread hdelimited hweb) hnewline (Url.head?_queryText u)
      haccepts

/-- How two spellings of an address fare under the same rules. -/
structure Matchers.TreatsSpellings (m : Matchers) (block : List String) (text text' : String)
    (u : Url) : Prop where
  blocks : m.blocks text = true ↔ AnyMatches block text ∨ MatchesParts block u
  blocks' : m.blocks text' = true ↔ AnyMatches block text' ∨ MatchesParts block u
  /-- The verdicts agree unless just one spelling is matched as it is written, and nothing else
  is matched. -/
  alike : m.blocks text = m.blocks text' ↔
    MatchesParts block u ∨ (AnyMatches block text ↔ AnyMatches block text')
  resource : m.allowsResource text = m.allowsResource text' ↔ m.blocks text = m.blocks text'
  /-- The block of an address of the web that is spelled from its parts is not evaded, if there is
  nothing behind the path or the patterns say nothing of it. -/
  noEvasion : u.text = text → (Url.defaultPort? u.scheme).isSome = true → u.credentials = "" →
    ((u.query = none ∧ u.fragment = none) ∨ ∀ p ∈ block, Glob.IsPlain (Matcher.core p)) →
    m.blocks text = true → m.blocks text' = true

/-- Under blocks that name a scheme, two spellings of one address differ by the spelling alone. -/
theorem Matchers.treatsSpellings (allow : List String) (hblock : ∀ p ∈ block, IsSchemePattern p)
    (hu : Url.parse text = .ok u) (hv : Url.parse text' = .ok v) (hsame : u.text = v.text) :
    (compile allow block).TreatsSpellings block text text' u := by
  have hparts : MatchesParts block u ↔ MatchesParts block v :=
    matchesParts_congr (Url.sameParts_of_text_eq hu hv hsame)
  have hblocks := blocks_iff_of_parse allow hblock hu
  have hblocks' := blocks_iff_of_parse allow hblock hv
  rw [← hparts] at hblocks'
  exact {
    blocks := hblocks
    blocks' := hblocks'
    alike := by
      rw [Bool.eq_iff_iff, hblocks, hblocks']
      by_cases hmatched : MatchesParts block u
      · simp only [hmatched, or_true, true_or]
      · simp only [hmatched, or_false, false_or]
    resource := by
      rw [allowsResource, allowsResource, Bool.not_inj_iff]
    noEvasion := by
      intro hspelled hweb hcredentials hplain hblocked
      apply hblocks'.2
      right
      rcases hblocks.1 hblocked with h | h
      · exact matchesParts_of_anyMatches hblock hu hspelled hweb hcredentials hplain h
      · exact h }

end Blocks

/-! ## A block that is evaded and one that is not -/

def adsPage : Url where
  scheme := "https"
  hasAuthority := true
  host := some (.name "example.com")
  path := "/"
  query := some "page=ads"

theorem isSchemePattern_adsPage : IsSchemePattern "https://example.com/?page=ads" where
  isGlob := Matcher.kind_eq_glob (by decide) (by decide) (by decide)
  scheme := ⟨"https".toList, "example.com/?page=ads".toList, by decide⟩

private theorem parse_adsPage : Url.parse "https://example.com/?page=ads" = .ok adsPage := by
  decide +kernel

theorem parse_adsPage_capitals : Url.parse "HTTPS://example.com/?page=ads" = .ok adsPage := by
  decide +kernel

/-- A block that names a query matches an address only as it is written. -/
theorem isPrefix_of_isMatch_adsPage {t : String}
    (h : (Matcher.compile "https://example.com/?page=ads").isMatch t = true) :
    "https://example.com/?page=ads".toList <+: t.toList := by
  have haccepts := (Matcher.isMatch_iff_accepts isSchemePattern_adsPage.isGlob t).1 h
  have hcore : Matcher.core "https://example.com/?page=ads" =
      "https://example.com/?page=ads".toList := by decide
  rw [hcore] at haccepts
  obtain ⟨s, q, htext, hfits⟩ := haccepts.exists_fits_front (by decide)
    isSchemePattern_adsPage.scheme
  rw [hfits.eq_of_not_mem (by decide)] at htext
  exact ⟨q, htext.symm⟩

/-- Writing the scheme in capitals evades a block that names a query. -/
theorem Matchers.adsPage_evaded :
    (∀ p ∈ ["https://example.com/?page=ads"],
      IsSchemePattern p ∧ p.toList.head? ≠ some '/') ∧
    Url.parse "https://example.com/?page=ads" = .ok adsPage ∧
    Url.parse "HTTPS://example.com/?page=ads" = .ok adsPage ∧
    (compile [] ["https://example.com/?page=ads"]).blocks "https://example.com/?page=ads" = true ∧
    (compile [] ["https://example.com/?page=ads"]).blocks "HTTPS://example.com/?page=ads" = false ∧
    (compile [] ["https://example.com/?page=ads"]).allowsResource
      "https://example.com/?page=ads" = false ∧
    (compile [] ["https://example.com/?page=ads"]).allowsResource
      "HTTPS://example.com/?page=ads" = true := by
  have hpattern : ∀ p ∈ ["https://example.com/?page=ads"], IsSchemePattern p := by
    simpa using isSchemePattern_adsPage
  have hmatch : (Matcher.compile "https://example.com/?page=ads").isMatch
      "https://example.com/?page=ads" = true := by
    apply (Matcher.isMatch_iff_accepts isSchemePattern_adsPage.isGlob _).2
    have hshape : Glob.shape (Matcher.core "https://example.com/?page=ads") = .address := by
      decide
    simp only [Glob.Accepts, hshape]
    exact ⟨_, [], (List.append_nil _).symm, Glob.fits_self _, Or.inl rfl⟩
  have hblocked : (compile [] ["https://example.com/?page=ads"]).blocks
      "https://example.com/?page=ads" = true :=
    (blocks_iff_of_parse [] hpattern parse_adsPage).2 (Or.inl ⟨_, List.mem_singleton.2 rfl, hmatch⟩)
  have hevaded : (compile [] ["https://example.com/?page=ads"]).blocks
      "HTTPS://example.com/?page=ads" = false := by
    have hno : ∀ t : String, ¬"https://example.com/?page=ads".toList <+: t.toList →
        ¬AnyMatches ["https://example.com/?page=ads"] t := by
      rintro t ht ⟨p, hp, hmatch⟩
      cases List.mem_singleton.1 hp
      exact ht (isPrefix_of_isMatch_adsPage hmatch)
    rw [Bool.eq_false_iff, ne_eq, blocks_iff_of_parse [] hpattern parse_adsPage_capitals]
    rintro (h | h | h | h)
    · exact hno _ (by decide) h
    · exact hno _ (by decide) h
    · exact hno _ (by decide) h
    · exact hno _ (by decide) h
  refine ⟨?_, parse_adsPage, parse_adsPage_capitals, hblocked, hevaded, ?_, ?_⟩
  · simpa using isSchemePattern_adsPage
  · rw [allowsResource, hblocked, Bool.not_true]
  · rw [allowsResource, hevaded, Bool.not_false]

def adsItem : Url where
  scheme := "https"
  hasAuthority := true
  host := some (.name "example.com")
  path := "/ads/1"
  query := some "ref=a"
  fragment := some "top"

/-- A plain block holds for every spelling of an address with a query and a fragment. -/
theorem Matchers.adsItem_treatsSpellings :
    IsSchemePattern "https://example.com/ads/*" ∧
      Url.parse "https://example.com/ads/1?ref=a#top" = .ok adsItem ∧
      Url.parse "HTTPS:Example.COM:443\\ads/./1?ref=a#top" = .ok adsItem ∧
      (compile [] ["https://example.com/ads/*"]).TreatsSpellings ["https://example.com/ads/*"]
        "https://example.com/ads/1?ref=a#top" "HTTPS:Example.COM:443\\ads/./1?ref=a#top" adsItem ∧
      (compile [] ["https://example.com/ads/*"]).blocks
        "HTTPS:Example.COM:443\\ads/./1?ref=a#top" = true := by
  have hpattern : IsSchemePattern "https://example.com/ads/*" :=
    ⟨Matcher.kind_eq_glob (by decide) (by decide) (by decide),
      "https".toList, "example.com/ads/*".toList, by decide⟩
  have hparse : Url.parse "https://example.com/ads/1?ref=a#top" = .ok adsItem := by
    decide +kernel
  have hparse' : Url.parse "HTTPS:Example.COM:443\\ads/./1?ref=a#top" = .ok adsItem := by
    decide +kernel
  have hplain : Glob.IsPlain (Matcher.core "https://example.com/ads/*") :=
    ⟨by decide, by decide, by decide⟩
  have hmatch : (Matcher.compile "https://example.com/ads/*").isMatch
      "https://example.com/ads/1?ref=a#top" = true := by
    apply (Matcher.isMatch_iff_accepts hpattern.isGlob _).2
    change Glob.Fits ("https://example.com/ads/".toList ++ ['*'])
      ("https://example.com/ads/".toList ++ ("1?ref=a#top".toList ++ []))
    exact Glob.fits_append_iff.2 ⟨_, _, rfl, Glob.fits_self _, .run (by decide) .nil⟩
  have htreats : (compile [] ["https://example.com/ads/*"]).TreatsSpellings
      ["https://example.com/ads/*"] "https://example.com/ads/1?ref=a#top"
      "HTTPS:Example.COM:443\\ads/./1?ref=a#top" adsItem :=
    treatsSpellings [] (by simpa using hpattern) hparse hparse' rfl
  refine ⟨hpattern, hparse, hparse', htreats, htreats.noEvasion ?_ rfl rfl ?_ ?_⟩
  · decide
  · right
    simpa using hplain
  · exact htreats.blocks.2 (Or.inl ⟨_, List.mem_singleton.2 rfl, hmatch⟩)

end NavPolicy
