import Mathlib
import NavPolicy.Proofs.Artifact.FilterModes
import NavPolicy.Proofs.Artifact.RequestFilters
import NavPolicy.Proofs.Decision.PathGlobs
import NavPolicy.Proofs.Pattern.Surroundings
import NavPolicy.Proofs.Url.Prefix

/-!
# Filters of plain paths

A plain path becomes two rules for the desktop browser: a wildcard behind the origin of the start,
for the text of the address, and a matcher for the path and the query.  Whatever the wildcard
stands for is hit by the matcher, so the filter refuses nothing that the matchers let through on
the other platforms.  Two things set them apart: a star in the origin itself, and a path that is
too large for a matcher.
-/

namespace NavPolicy

open NavPolicy.Artifact NavPolicy.Pattern NavPolicy.Wildcard

/-! ## Wildcards and globs -/

section Globs

variable {w glob s : List Char}

/-- A text that begins with a sign is no part of what precedes the sign. -/
theorem not_isInfix_append {c : Char} {more front : List Char} (hfront : c ∉ front)
    (h : ¬c :: more <:+: w) : ¬c :: more <:+: front ++ w := by
  induction front with
  | nil => exact h
  | cons d front ih =>
      rw [List.mem_cons, not_or] at hfront
      rw [List.cons_append, List.infix_cons_iff, not_or]
      refine ⟨fun hprefix => hfront.1 ?_, ih hfront.2⟩
      exact (List.cons_prefix_cons.1 hprefix).1

/-- A wildcard without question marks stands for texts that it fits as a glob. -/
theorem Wildcard.Stands.globFits (h : Stands w s) (hquestion : '?' ∉ w) (hline : '\n' ∉ s) :
    Glob.Fits w s := by
  induction h with
  | nil => exact .nil
  | star _ ih =>
      rw [List.mem_append, not_or] at hline
      exact .run hline.1 (ih (List.not_mem_of_not_mem_cons hquestion) hline.2)
  | question _ _ => exact absurd List.mem_cons_self hquestion
  | char hstar _ _ ih =>
      exact .char hstar (ih (List.not_mem_of_not_mem_cons hquestion)
        (List.not_mem_of_not_mem_cons hline))

/-- A character at the end that a glob does not hold is taken in by a star, which may as well
leave it. -/
theorem Pattern.Glob.Fits.of_concat {c : Char} (h : Glob.Fits glob (s ++ [c])) (hc : c ∉ glob) :
    Glob.Fits glob s := by
  induction glob generalizing s with
  | nil =>
      have hnil := Glob.fits_nil_iff.1 h
      simp at hnil
  | cons d glob ih =>
      rw [List.mem_cons, not_or] at hc
      by_cases hd : d = '*'
      · subst hd
        obtain ⟨r, rest, hcut, hr, hrest⟩ := Glob.fits_star_iff.1 h
        rcases List.eq_nil_or_concat rest with rfl | ⟨rest, d, rfl⟩
        · rw [List.append_nil] at hcut
          refine Glob.fits_star_iff.2 ⟨s, [], by simp, fun hmem => hr ?_, hrest⟩
          rw [← hcut]
          exact List.mem_append_left _ hmem
        · rw [List.concat_eq_append, ← List.append_assoc] at hcut
          obtain ⟨rfl, hlast⟩ := List.append_inj' hcut rfl
          cases hlast
          rw [List.concat_eq_append] at hrest
          exact Glob.fits_star_iff.2 ⟨r, rest, rfl, hr, ih hrest hc.2⟩
      · obtain ⟨more, hcut, hmore⟩ := (Glob.fits_char_iff hd).1 h
        cases s with
        | nil =>
            cases hcut
            exact absurd rfl hc.1
        | cons e s =>
            cases hcut
            exact .char hd (ih hmore hc.2)

/-- A path glob accepts what it fits. -/
theorem Pattern.Glob.Fits.accepts_of_path (h : Glob.Fits glob s) (hhead : glob.head? = some '/') :
    Glob.Accepts glob s := by
  by_cases hlast : glob.getLast? = some '*'
  · have hshape : Glob.shape glob = .openPath := by simp [Glob.shape, hhead, hlast]
    simp only [Glob.Accepts, hshape]
    exact ⟨s, [], by simp, h, Glob.isTail_nil⟩
  · have hshape : Glob.shape glob = .path := by simp [Glob.shape, hhead, hlast]
    simp only [Glob.Accepts, hshape]
    rcases Glob.append_stem glob with hstem | hstem
    · rw [hstem]
      exact ⟨s, [], [], by simp, h, Or.inl rfl, Glob.isTail_nil⟩
    · rw [hstem] at h
      obtain ⟨front, rest, rfl, hfront, hrest⟩ := Glob.fits_append_iff.1 h
      have hslash : rest = ['/'] := hrest.eq_of_not_mem (by decide)
      exact ⟨front, ['/'], [], by simp [hslash], hfront, Or.inr rfl, Glob.isTail_nil⟩

end Globs

/-! ## Plain paths -/

/-- A block pattern that is a path with no sign that means anything but the star. -/
@[mk_iff]
structure IsPlainPath (pattern : String) : Prop where
  rooted : IsRooted pattern
  trimmed : Matcher.core pattern = pattern.toList
  question : '?' ∉ pattern.toList
  signs : pattern.toList.any isRegexSign = false
  stars : ¬"**".toList <:+: pattern.toList
  dots : ¬".*".toList <:+: pattern.toList
  scheme : ¬"://".toList <:+: pattern.toList
  dollar : pattern.toList.getLast? ≠ some '$'

instance : DecidablePred IsPlainPath := fun pattern =>
  decidable_of_iff _ (isPlainPath_iff pattern).symm

section PlainPaths

variable {pattern text page : String} {u start : Url} {type : ResourceType}

theorem IsPlainPath.head?_eq (h : IsPlainPath pattern) : pattern.toList.head? = some '/' := by
  obtain ⟨rest, hrest⟩ := h.rooted.slash
  rw [← hrest]
  rfl

theorem IsPlainPath.hasRegexLook_eq (h : IsPlainPath pattern) :
    hasRegexLook pattern.toList = false := by
  have hdots : Glob.containsText ['.', '*'] pattern.toList = false :=
    Bool.eq_false_iff.2 fun hmem => h.dots (Glob.containsText_iff.1 hmem)
  rw [hasRegexLook, h.head?_eq, h.signs, hdots]
  simpa using h.dollar

/-- A plain path is read as a glob unless it is too large. -/
theorem IsPlainPath.isPathGlob (h : IsPlainPath pattern) (hsmall : Glob.IsSmall pattern.toList) :
    IsPathGlob pattern where
  isGlob := by
    have hne : Matcher.core pattern ≠ [] := by
      intro hnil
      have hhead := h.head?_eq
      rw [← h.trimmed, hnil] at hhead
      cases hhead
    have hregex : Matcher.ofRegex? (Matcher.core pattern) = none := by
      rw [h.trimmed, Matcher.ofRegex?, h.hasRegexLook_eq]
      rfl
    exact Matcher.kind_eq_glob_of_isSmall hne hregex (h.trimmed ▸ hsmall)
  slash := by rw [h.trimmed, h.head?_eq]

/-- The wildcard of a plain path covers an address only if the path with the query fits. -/
theorem IsPlainPath.fits_of_covers (h : IsPlainPath pattern) (hstart : Url.parse page = .ok start)
    (hstar : '*' ∉ start.originText.toList) (hparse : Url.parse text = .ok u)
    (htext : u.text = text) (hfragment : u.fragment = none)
    (hcovers : RequestFilter.covers ⟨[resolveBlock pattern start], ResourceType.filtered⟩ text
      type = true) :
    Glob.Fits pattern.toList (u.path.toList ++ u.queryText) := by
  obtain ⟨-, w, hw, hfits⟩ := RequestFilter.covers_iff_fits.1 hcovers
  rw [List.mem_singleton] at hw
  subst hw
  rw [h.rooted.resolveBlock_eq h.scheme, String.toList_append] at hfits
  have hstands : Stands (start.originText.toList ++ pattern.toList) text.toList :=
    (RequestFilter.exists_fits_iff_stands (not_isInfix_append hstar h.stars)).1 hfits
  obtain ⟨s, hcut, hs⟩ :=
    (stands_append_iff (ne_sign_of_mem_originText hstart hstar)).1 hstands
  have hhead : s.head? = some '/' := by
    obtain ⟨rest, hrest⟩ := List.head?_eq_some_iff.1 h.head?_eq
    rw [hrest] at hs
    obtain ⟨more, rfl, -⟩ := (stands_char_iff (by decide) (by decide)).1 hs
    rfl
  have hline : '\n' ∉ s := by
    have htext' := (Url.isRead_of_parse hparse).newline_not_mem_text
    rw [htext, hcut, List.mem_append, not_or] at htext'
    exact htext'.2
  rw [← Url.eq_path_of_originText hstart hparse htext hfragment hcut hhead]
  exact hs.globFits h.question hline

/-- Where the path with the query fits, the matcher hits.  A question mark without a query behind
it is no part of a target, but then a star has taken it in. -/
theorem IsPlainPath.hits_of_fits (h : IsPlainPath pattern) (hsmall : Glob.IsSmall pattern.toList)
    (hparse : Url.parse text = .ok u)
    (hfits : Glob.Fits pattern.toList (u.path.toList ++ u.queryText)) :
    (Matcher.compile pattern).Hits (targets text) := by
  have hglob : IsPathGlob pattern := h.isPathGlob hsmall
  have hmatch : ∀ candidate : String, Glob.Fits pattern.toList candidate.toList →
      (Matcher.compile pattern).isMatch candidate = true := by
    intro candidate hcandidate
    rw [Matcher.isMatch_iff_accepts hglob.isGlob, h.trimmed]
    exact hcandidate.accepts_of_path h.head?_eq
  apply (hglob.hits_targets_iff hparse).2
  cases hquery : u.query with
  | none =>
      left
      apply hmatch
      simpa [Url.queryText, hquery] using hfits
  | some q =>
      by_cases hempty : q = ""
      · left
        apply hmatch
        subst hempty
        have hmark : Glob.Fits pattern.toList (u.path.toList ++ ['?']) := by
          simpa [Url.queryText, hquery] using hfits
        exact hmark.of_concat h.question
      · right
        apply hmatch
        simpa [Url.queryText, Url.search, hquery, hempty] using hfits

end PlainPaths

/-! ## Desktop requests -/

section Requests

variable {d : Destination} {mode : Option String} {start u : Url} {text : String} {a : Artifact}

/-- What a filter of a plain path covers is blocked by a matcher. -/
theorem blocks_of_isFiltered (hstart : Url.parse d.start = .ok start)
    (hstar : '*' ∉ start.originText.toList)
    (hplain : ∀ p ∈ d.effectiveBlock mode, IsPlainPath p ∧ Glob.IsSmall p.toList)
    (hnative : a.native = d.nativeRules .desktop mode start)
    (hmatchers : a.matchers = d.matchers mode) (hparse : Url.parse text = .ok u)
    (htext : u.text = text) (hfragment : u.fragment = none) {type : ResourceType}
    (hfiltered : a.isFiltered text type = true) : a.blocks text = true := by
  rw [Artifact.isFiltered, hnative] at hfiltered
  obtain ⟨f, hf, hcovers⟩ := List.any_eq_true.1 hfiltered
  obtain ⟨p, hp, rfl⟩ := List.mem_map.1 hf
  obtain ⟨hpath, hsmall⟩ := hplain p hp
  have hfits := hpath.fits_of_covers hstart hstar hparse htext hfragment hcovers
  obtain ⟨t, ht, hmatch⟩ := hpath.hits_of_fits hsmall hparse hfits
  rw [Artifact.blocks, hmatchers, d.matchers_eq]
  exact Matchers.blocks_iff.2 ⟨_, List.mem_map_of_mem hp, t, ht, hmatch⟩

/-- The filters of plain paths refuse nothing of their own.  If no star stands in the origin of
the start and every block pattern in effect is a plain path that is not too large, the desktop
browser refuses exactly the requests to addresses whose resources the matchers refuse, on every
platform. -/
theorem requests_agree_on_plain_paths (hstart : Url.parse d.start = .ok start)
    (hstar : '*' ∉ start.originText.toList)
    (hplain : ∀ p ∈ d.effectiveBlock mode, IsPlainPath p ∧ Glob.IsSmall p.toList) (o : Options) :
    ∃ a, d.compile .desktop mode o = .ok a ∧
      ∀ text u, Url.parse text = .ok u → u.text = text → u.fragment = none → ∀ type,
        a.allowsRequest text type = a.allowsResource text ∧
        ∀ platform o' b, d.compile platform mode o' = .ok b →
          a.allowsRequest text type = b.allowsResource text := by
  refine ⟨_, Destination.compile_eq_ok.2 ⟨start, hstart, rfl⟩, ?_⟩
  intro text u hparse htext hfragment type
  refine (and_iff_left_of_imp ?_).2 ?_
  · intro hsame platform o' b hb
    obtain ⟨_, -, rfl⟩ := Destination.compile_eq_ok.1 hb
    exact hsame
  · rw [Bool.eq_iff_iff, Artifact.allowsRequest_iff]
    apply and_iff_left_of_imp
    intro hallowed _
    rw [Bool.eq_false_iff]
    intro hfiltered
    have hblocks :=
      blocks_of_isFiltered hstart hstar hplain rfl rfl hparse htext hfragment hfiltered
    rw [Artifact.allowsResource, Matchers.allowsResource, Bool.not_eq_true'] at hallowed
    rw [Artifact.blocks, hallowed] at hblocks
    cases hblocks

end Requests

def videoFeed : Url where
  scheme := "https"
  hasAuthority := true
  host := some (.name "video.example.com")
  path := "/feed"

def shortClip : Url where
  scheme := "https"
  hasAuthority := true
  host := some (.name "video.example.com")
  path := "/shorts/clip.mp4"
  query := some "t=1"

/-- A path that both read alike, on an address that it covers. -/
theorem requests_agree_on_short_clip :
    ∃ a b, videos.compile .desktop none {} = .ok a ∧ videos.compile .ios none {} = .ok b ∧
      a.allowsRequest "https://video.example.com/shorts/clip.mp4?t=1" .media =
        b.allowsResource "https://video.example.com/shorts/clip.mp4?t=1" := by
  have hstart : Url.parse videos.start = .ok videoFeed := by
    decide +kernel
  have hplain : ∀ p ∈ videos.effectiveBlock none, IsPlainPath p ∧ Glob.IsSmall p.toList :=
    List.forall_mem_singleton.2 ⟨by decide +kernel, Glob.isSmall_of_length_le (by decide)⟩
  have hcompile : ∃ b, videos.compile .ios none {} = .ok b :=
    Destination.exists_compile_iff.2 ⟨_, hstart⟩
  obtain ⟨b, hb⟩ := hcompile
  obtain ⟨a, ha, hagree⟩ :=
    requests_agree_on_plain_paths hstart (by decide +kernel) hplain {}
  have hclip : Url.parse "https://video.example.com/shorts/clip.mp4?t=1" = .ok shortClip := by
    decide +kernel
  exact ⟨a, b, ha, hb, (hagree _ _ hclip (by decide +kernel) rfl .media).2 .ios {} b hb⟩

/-! ## Where the filters refuse more -/

/-- An image that only the filter of a plain path refuses, of a page whose host has no star. -/
def IsOverblocked (d : Destination) (text : String) : Prop :=
  ∃ start u a, Url.parse d.start = .ok start ∧ '*' ∉ start.hostText.toList ∧
    (∀ p ∈ d.effectiveBlock none, IsPlainPath p) ∧ d.compile .desktop none {} = .ok a ∧
    Url.parse text = .ok u ∧ u.text = text ∧ u.fragment = none ∧
    a.allowsRequest text .image = false ∧ a.allowsResource text = true

section Overblocking

variable {d : Destination} {p text : String} {start u : Url} {n : Nat}

theorem isOverblocked_of_covers (hstart : Url.parse d.start = .ok start)
    (hstar : '*' ∉ start.hostText.toList) (hblock : d.effectiveBlock none = [p])
    (hplain : IsPlainPath p) (hparse : Url.parse text = .ok u) (htext : u.text = text)
    (hfragment : u.fragment = none)
    (hcovers : RequestFilter.covers ⟨[resolveBlock p start], ResourceType.filtered⟩ text .image =
      true)
    (hmisses : ¬(Matcher.compile p).Hits (targets text)) : IsOverblocked d text := by
  refine ⟨start, u, _, hstart, hstar, ?_, Destination.compile_eq_ok.2 ⟨start, hstart, rfl⟩, hparse,
    htext, hfragment, ?_, ?_⟩
  · rw [hblock]
    exact List.forall_mem_singleton.2 hplain
  · rw [Bool.eq_false_iff]
    intro hallowed
    have hfiltered := (Artifact.allowsRequest_iff.1 hallowed).2 rfl
    rw [Artifact.isFiltered, Destination.nativeRules, hblock] at hfiltered
    simp [hcovers] at hfiltered
  · rw [Artifact.allowsResource, Matchers.allowsResource, Bool.not_eq_true', Bool.eq_false_iff]
    intro hblocks
    rw [d.matchers_eq, Matchers.compile, hblock] at hblocks
    obtain ⟨m, hm, hhits⟩ := Matchers.blocks_iff.1 hblocks
    rw [List.map_singleton, List.mem_singleton] at hm
    exact hmisses (hm ▸ hhits)

/-- A destination that starts at a page without a host, but with an origin. -/
def wildHome : Destination where
  start := "blob:https://*/x"
  allow := []
  block := ["/ads"]

/-- The address of the page. -/
def wildPage : Url where
  scheme := "blob"
  path := "https://*/x"

def nestedImage : Url where
  scheme := "https"
  hasAuthority := true
  host := some (.name "any.example")
  path := "/x/ads"

theorem parse_wildHome : Url.parse wildHome.start = .ok wildPage := by
  decide

/-- The star of the origin stands for any host in the wildcard. -/
theorem resolveBlock_wildPage : resolveBlock "/ads" wildPage = "https://*/ads" := by
  have hrooted : IsRooted "/ads" := by
    decide
  rw [hrooted.resolveBlock_eq (by decide)]
  decide +kernel

/-- A wildcard in the host of a start reaches other hosts. -/
theorem wildHome_overblocks : IsOverblocked wildHome "https://any.example/x/ads" := by
  have hplain : IsPlainPath "/ads" := by
    decide
  have hparse : Url.parse "https://any.example/x/ads" = .ok nestedImage := by
    decide +kernel
  apply isOverblocked_of_covers parse_wildHome (by decide) rfl hplain hparse (by decide) rfl
  · rw [resolveBlock_wildPage]
    decide +kernel
  · have hglob := hplain.isPathGlob (Glob.isSmall_of_length_le (by decide))
    have hmisses : ¬Glob.Accepts "/ads".toList "/x/ads".toList := by
      intro haccepts
      obtain ⟨before, after, hcut, hadmits⟩ := haccepts.holds (by decide) (by decide)
      have hbefore : before = [] := hadmits.1
      subst hbefore
      have hsecond := congrArg (fun s : List Char => s[1]?) hcut
      simp at hsecond
    have hcore : Matcher.core "/ads" = "/ads".toList := hplain.trimmed
    rw [hglob.hits_targets_iff hparse, Matcher.isMatch_iff_accepts hglob.isGlob,
      Matcher.isMatch_iff_accepts hglob.isGlob, hcore]
    exact not_or.2 ⟨hmisses, hmisses⟩

/-- A path that takes a state for each of its characters. -/
def largePath (n : Nat) : String := String.ofList ('/' :: '*' :: List.replicate n 'a')

theorem mem_largePath {c : Char} (hc : c ∈ (largePath n).toList) : c = '/' ∨ c = '*' ∨ c = 'a' := by
  rw [largePath, String.toList_ofList, List.mem_cons, List.mem_cons] at hc
  exact hc.imp_right (Or.imp_right List.eq_of_mem_replicate)

theorem isPlainPath_largePath (n : Nat) : IsPlainPath (largePath n) := by
  have hshape : (largePath n).toList = '/' :: '*' :: List.replicate n 'a' := String.toList_ofList
  have hplain : ∀ {c : Char}, c ≠ '/' → c ≠ '*' → c ≠ 'a' → c ∉ (largePath n).toList := by
    intro c hslash hstar ha hc
    rcases mem_largePath hc with h | h | h
    · exact hslash h
    · exact hstar h
    · exact ha h
  have hsingle : ¬['/', '/'] <+: (largePath n).toList := by
    rw [hshape, List.cons_prefix_cons, List.cons_prefix_cons]
    exact fun h => absurd h.2.1 (by decide)
  have hstars : ¬"**".toList <:+: (largePath n).toList := by
    have hstar : '*' ∉ List.replicate n 'a' := fun hmem => by
      cases List.eq_of_mem_replicate hmem
    have hslash : '*' ∉ ['/'] := by decide
    rw [hshape]
    apply not_isInfix_append hslash
    rw [List.infix_cons_iff, List.cons_prefix_cons, not_or]
    exact ⟨fun h => hstar (h.2.subset List.mem_cons_self),
      fun h => hstar (h.subset List.mem_cons_self)⟩
  exact {
    rooted := ⟨⟨_, hshape.symm⟩, hsingle⟩
    trimmed := by
      apply Url.dropEnds_eq_self
      intro c hc
      rcases mem_largePath hc with rfl | rfl | rfl <;> rfl
    question := hplain (by decide) (by decide) (by decide)
    signs := by
      rw [List.any_eq_false]
      intro c hc
      rcases mem_largePath hc with rfl | rfl | rfl <;> decide
    stars := hstars
    dots := fun h => hplain (by decide) (by decide) (by decide) (h.subset (a := '.') (by decide))
    scheme := fun h => hplain (by decide) (by decide) (by decide) (h.subset (a := ':') (by decide))
    dollar := fun h => hplain (by decide) (by decide) (by decide) (List.mem_of_getLast? h) }

/-- A destination that blocks such a path. -/
def largeHome (n : Nat) : Destination where
  start := "https://www.example.com/"
  allow := []
  block := [largePath n]

theorem isOuterBlank_of_query {c : Char} (hcontrol : Url.isControl c = false)
    (hnamed : c ∉ Url.specialQuerySet) : Url.isOuterBlank c = false := by
  rw [Url.isControl, Bool.or_eq_false_iff, decide_eq_false_iff_not] at hcontrol
  rw [Url.isOuterBlank, decide_eq_false_iff_not]
  intro hle
  have hspace : c.toNat = ' '.toNat := by
    have hvalue : ' '.toNat = 32 := rfl
    omega
  rw [Char.toNat_inj.1 hspace] at hnamed
  exact hnamed (by decide)

private theorem isKeptName_homePage : Url.IsKeptName "www.example.com" := by
  have htext : "https://" ++ "www.example.com" ++ "/" = "https://www.example.com/" := by
    decide
  refine ⟨List.all_iff_forall_prop.1 (by decide), homePage, ?_, rfl⟩
  rw [htext]
  exact parse_homePage

private theorem withAuthority_homePage (cs : List Char) :
    Url.withAuthority .web "https" ("www.example.com".toList ++ '/' :: '?' :: cs) =
      .ok { homePage with
        query := (Url.readTail .web ('?' :: cs)).1
        fragment := (Url.readTail .web ('?' :: cs)).2 } := by
  have hname := isKeptName_homePage.isPlainName
  have hat : "www.example.com".toList.contains '@' = false := by
    decide
  have hsplit := Url.splitHost_plainName hname.allowed .web [] ('?' :: cs)
  obtain ⟨htake, hdrop⟩ := Url.takeWhile_plainName hname .web ('?' :: cs)
  rw [Url.withAuthority]
  simp only [htake, hdrop, Url.splitCredentials?, hat, Bool.false_eq_true, if_false,
    Option.getD_none, hsplit, Bool.false_and, List.reverse_nil, List.nil_append,
    isKeptName_homePage.readHost_eq]
  rfl

/-- The home page with a text behind its question mark. -/
theorem parseChars_homePage {cs : List Char} (hcs : ∀ c ∈ cs, Url.isOuterBlank c = false) :
    Url.parseChars ("https://www.example.com/?".toList ++ cs) = .ok { homePage with
      query := (Url.readTail .web ('?' :: cs)).1
      fragment := (Url.readTail .web ('?' :: cs)).2 } := by
  have hkept : ∀ c ∈ "https://www.example.com/?".toList ++ cs, Url.isOuterBlank c = false :=
    List.forall_mem_append.2 ⟨List.all_iff_forall_prop.1 (by decide), hcs⟩
  have hsplit : Url.splitScheme? ("https://www.example.com/?".toList ++ cs) =
      some ("https".toList, "//www.example.com/?".toList ++ cs) := by
    cbv
  have hkind : Url.schemeKind (String.ofList "https".toList) = .web := by
    decide
  have hdrop : ("//www.example.com/?".toList ++ cs).dropWhile (fun c => c == '/' || c == '\\') =
      "www.example.com".toList ++ '/' :: '?' :: cs := by
    cbv
  rw [Url.parseChars, Url.significant_eq_self hkept, hsplit]
  simp only [hkind, hdrop]
  exact withAuthority_homePage cs

/-- A query that needs no encoding is read as it is. -/
theorem parse_homePage_query {q : String}
    (hq : ∀ c ∈ q.toList, Url.isControl c = false ∧ c ∉ Url.specialQuerySet) :
    Url.parse ("https://www.example.com/?" ++ q) = .ok { homePage with query := some q } := by
  have hsign : ∀ c ∈ '?' :: q.toList, (c != '#') = true := by
    rw [List.forall_mem_cons]
    refine ⟨rfl, fun c hc => bne_iff_ne.2 ?_⟩
    rintro rfl
    exact (hq _ hc).2 (by decide)
  have hencoded : Url.percentEncode Url.specialQuerySet q.toList = q.toList :=
    Url.percentEncode_eq_self hq
  have htail : Url.readTail .web ('?' :: q.toList) = (some q, none) := by
    simp only [Url.readTail, List.takeWhile_eq_self_iff.2 hsign, List.dropWhile_eq_nil_iff.2 hsign]
    rw [if_pos (by decide), hencoded, String.ofList_toList]
  rw [Url.parse, String.toList_append,
    parseChars_homePage fun c hc => isOuterBlank_of_query (hq c hc).1 (hq c hc).2, htail]
  rfl

private theorem text_homePage_query (q : String) :
    Url.text { homePage with query := some q } = "https://www.example.com/?" ++ q := by
  have hfront : Url.front { homePage with query := some q } = "https://www.example.com" :=
    (by decide : homePage.front = "https://www.example.com")
  have hpath : "https://www.example.com/?" = "https://www.example.com" ++ ("/" ++ "?") := by
    decide
  calc
    Url.text { homePage with query := some q } =
        "https://www.example.com" ++ "/" ++ ("?" ++ q) ++ "" := by
      rw [Url.text, hfront]
      rfl
    _ = "https://www.example.com/?" ++ q := by
      rw [hpath, String.append_empty, String.append_assoc, String.append_assoc, String.append_assoc]

private theorem stands_largePath (n : Nat) :
    Stands ("https://www.example.com".toList ++ (largePath n).toList)
      ("https://www.example.com/?" ++ String.ofList (List.replicate n 'a')).toList := by
  have hself : Stands (List.replicate n 'a') (List.replicate n 'a') := by
    induction n with
    | zero => exact .nil
    | succ n ih => exact .char (by decide) (by decide) ih
  have horigin : ∀ c ∈ "https://www.example.com".toList, c ≠ '*' ∧ c ≠ '?' :=
    List.all_iff_forall_prop.1 (by decide)
  have hfront : "https://www.example.com/?".toList =
      "https://www.example.com".toList ++ ['/', '?'] := by
    decide
  have hpath : Stands ('/' :: '*' :: List.replicate n 'a')
      ('/' :: (['?'] ++ List.replicate n 'a')) :=
    .char (by decide) (by decide) (.star hself)
  rw [largePath, String.toList_append, String.toList_ofList, String.toList_ofList, hfront,
    List.append_assoc]
  simp only [String.toList_ofList]
  exact (stands_append_iff horigin).2 ⟨_, rfl, hpath⟩

private theorem largeHome_overblocks (hn : Regex.Piece.costLimit < Regex.Piece.stateSize * n) :
    IsOverblocked (largeHome n)
      ("https://www.example.com/?" ++ String.ofList (List.replicate n 'a')) := by
  have hplain := isPlainPath_largePath n
  have hquery : ∀ c ∈ (String.ofList (List.replicate n 'a')).toList,
      Url.isControl c = false ∧ c ∉ Url.specialQuerySet := by
    intro c hc
    rw [String.toList_ofList] at hc
    rw [List.eq_of_mem_replicate hc]
    decide
  have horigin : homePage.originText = "https://www.example.com" := by
    decide
  have hblock : (largeHome n).effectiveBlock none = [largePath n] := rfl
  have hstart : Url.parse (largeHome n).start = .ok homePage := parse_homePage
  refine isOverblocked_of_covers hstart (by decide) hblock hplain
    (parse_homePage_query hquery) (text_homePage_query _) rfl ?_ ?_
  · rw [RequestFilter.covers_iff_fits]
    have htype : ResourceType.image ∈ ResourceType.filtered := by
      decide
    refine ⟨htype, _, List.mem_singleton.2 rfl, ?_⟩
    rw [hplain.rooted.resolveBlock_eq hplain.scheme, horigin, String.toList_append]
    have hstars : ¬"**".toList <:+: "https://www.example.com".toList ++ (largePath n).toList :=
      not_isInfix_append (by decide) hplain.stars
    exact (RequestFilter.exists_fits_iff_stands hstars).2 (stands_largePath n)
  · have hlarge : ¬Glob.IsSmall (Matcher.core (largePath n)) := by
      apply Glob.not_isSmall_of_lt_length
      rw [hplain.trimmed, largePath, String.toList_ofList, List.length_cons, List.length_cons,
        List.length_replicate]
      exact hn.trans_le (Nat.mul_le_mul_left _ (by omega))
    have hregex : Matcher.ofRegex? (Matcher.core (largePath n)) = none := by
      rw [hplain.trimmed, Matcher.ofRegex?, hplain.hasRegexLook_eq]
      rfl
    rintro ⟨t, -, hmatch⟩
    rw [Matcher.isMatch_of_not_isSmall hregex hlarge] at hmatch
    cases hmatch

end Overblocking

/-- Plain paths alone are not enough: a star in an origin stands for any host, and a path that is
too large for a matcher is still a filter. -/
theorem plain_paths_overblock :
    IsOverblocked wildHome "https://any.example/x/ads" ∧
      IsOverblocked (largeHome 600000)
        ("https://www.example.com/?" ++ String.ofList (List.replicate 600000 'a')) :=
  ⟨wildHome_overblocks, largeHome_overblocks (by decide)⟩

end NavPolicy
