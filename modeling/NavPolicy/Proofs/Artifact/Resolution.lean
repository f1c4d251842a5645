import Mathlib.Data.List.Infix
import Mathlib.Tactic.MkIffOfInductiveProp
import NavPolicy.Artifact.RequestFilter
import NavPolicy.Pattern.Matcher
import NavPolicy.Proofs.Url.Serialization

/-!
# Block patterns as wildcards for whole addresses

A pattern that begins like the scheme of the web, or has the signs behind a scheme anywhere, is
taken for an address and kept.  All others are put behind the scheme or the origin of the page
where the destination starts, and so become absolute.  A path whose query holds an address is
kept as well, and remains a path.
-/

namespace NavPolicy.Artifact

open NavPolicy.Url

/-- A wildcard with a scheme in front, which ends before the path, the query and the fragment. -/
def IsAbsolute (wildcard : List Char) : Prop :=
  ∃ scheme rest, wildcard = scheme ++ ("://".toList ++ rest) ∧ scheme ≠ [] ∧
    ∀ c ∈ scheme, c ≠ '/' ∧ isPathEnd c = false

/-- A pattern that is taken for an address. -/
def HasScheme (pattern : String) : Prop :=
  "http".toList <+: pattern.toList ∨ "://".toList <:+: pattern.toList

instance : DecidablePred HasScheme := fun pattern =>
  inferInstanceAs (Decidable ("http".toList <+: pattern.toList ∨ "://".toList <:+: pattern.toList))

theorem IsAbsolute.append {w : List Char} (h : IsAbsolute w) (more : List Char) :
    IsAbsolute (w ++ more) := by
  obtain ⟨scheme, rest, rfl, hne, hplain⟩ := h
  exact ⟨scheme, rest ++ more, by simp, hne, hplain⟩

theorem IsAbsolute.head?_ne {w : List Char} (h : IsAbsolute w) : w.head? ≠ some '/' := by
  obtain ⟨scheme, rest, rfl, hne, hplain⟩ := h
  cases scheme with
  | nil => exact absurd rfl hne
  | cons c scheme =>
      rw [List.cons_append, List.head?_cons, Ne, Option.some.injEq]
      exact (hplain c List.mem_cons_self).1

section Resolution

variable {pattern text origin : String} {start : Url}

/-! ## The cases of the resolution -/

theorem resolveBlock_of_hasScheme (h : HasScheme pattern) (start : Url) :
    resolveBlock pattern start = pattern := by
  have htaken : (pattern.startsWith "http" || pattern.contains "://") = true := by
    rwa [Bool.or_eq_true, String.startsWith_string_iff, String.contains_string_iff]
  rw [resolveBlock, if_pos htaken]

/-- What is not taken for an address is put behind the scheme or the origin of the start. -/
theorem resolveBlock_of_not_hasScheme (h : ¬HasScheme pattern) (start : Url) :
    resolveBlock pattern start =
      if ['/', '/'] <+: pattern.toList then start.scheme ++ ":" ++ pattern
      else if ['/'] <+: pattern.toList then start.originText ++ pattern
      else start.originText ++ "/" ++ pattern := by
  have hkept : ¬(pattern.startsWith "http" || pattern.contains "://") = true := by
    rwa [Bool.or_eq_true, String.startsWith_string_iff, String.contains_string_iff]
  rw [resolveBlock, if_neg hkept]
  simp only [String.startsWith_string_iff]
  rfl

/-- An origin without a star is plain text in a wildcard. -/
theorem ne_sign_of_mem_originText (hstart : Url.parse text = .ok start)
    (hstar : '*' ∉ start.originText.toList) :
    ∀ c ∈ start.originText.toList, c ≠ '*' ∧ c ≠ '?' := by
  refine fun c hc => ⟨fun heq => hstar (heq ▸ hc), ?_⟩
  rintro rfl
  exact absurd (isPathEnd_of_mem_originText hstart _ hc) (by decide)

/-- The pattern stands at the end of its wildcard. -/
theorem isSuffix_resolveBlock (pattern : String) (start : Url) :
    pattern.toList <:+ (resolveBlock pattern start).toList := by
  have hbehind : ∀ front : String, pattern.toList <:+ (front ++ pattern).toList := by
    intro front
    rw [String.toList_append]
    exact List.suffix_append _ _
  by_cases h : HasScheme pattern
  · rw [resolveBlock_of_hasScheme h]
  · rw [resolveBlock_of_not_hasScheme h]
    split
    · exact hbehind _
    · split
      · exact hbehind _
      · exact hbehind _

/-- A pattern that names neither a scheme nor a host. -/
@[mk_iff]
structure IsRelative (pattern : String) : Prop where
  scheme : ¬HasScheme pattern
  host : ¬['/', '/'] <+: pattern.toList

instance : DecidablePred IsRelative := fun pattern =>
  decidable_of_iff _ (isRelative_iff pattern).symm

/-- Such a pattern is put behind the origin and a slash. -/
theorem IsRelative.isPrefix_resolveBlock (h : IsRelative pattern) (start : Url) :
    start.originText.toList ++ ['/'] <+: (resolveBlock pattern start).toList := by
  rw [resolveBlock_of_not_hasScheme h.scheme, if_neg h.host]
  split
  · rename_i hslash
    rw [String.toList_append]
    exact (List.prefix_append_right_inj _).2 hslash
  · rw [String.toList_append, String.toList_append]
    exact List.prefix_append _ _

/-- A pattern that begins with a single slash. -/
@[mk_iff]
structure IsRooted (pattern : String) : Prop where
  slash : ['/'] <+: pattern.toList
  single : ¬['/', '/'] <+: pattern.toList

instance : DecidablePred IsRooted := fun pattern =>
  decidable_of_iff _ (isRooted_iff pattern).symm

theorem IsRooted.hasScheme_iff (h : IsRooted pattern) :
    HasScheme pattern ↔ "://".toList <:+: pattern.toList := by
  have hhttp : ¬"http".toList <+: pattern.toList := by
    obtain ⟨rest, hrest⟩ := h.slash
    rw [← hrest]
    simp
  rw [HasScheme, or_iff_right hhttp]

/-- A path goes behind the origin, unless it is taken for an address. -/
theorem IsRooted.resolveBlock_eq (h : IsRooted pattern)
    (hscheme : ¬"://".toList <:+: pattern.toList) (start : Url) :
    resolveBlock pattern start = start.originText ++ pattern := by
  rw [resolveBlock_of_not_hasScheme (h.hasScheme_iff.not.2 hscheme), if_neg h.single,
    if_pos h.slash]

/-! ## Absolute wildcards -/

theorem isAbsolute_scheme {u : Url} (hread : IsRead u) (hne : u.scheme ≠ "") (rest : List Char) :
    IsAbsolute (u.scheme.toList ++ ("://".toList ++ rest)) := by
  refine ⟨_, _, rfl, by simpa using hne, fun c hc => ⟨?_, ?_⟩⟩
  · rintro rfl
    exact hread.scheme_isHostText.slash hc
  · exact isPathEnd_of_isSchemeChar (hread.scheme c hc)

/-- An origin is absolute. -/
theorem isAbsolute_origin (hstart : Url.parse text = .ok start)
    (horigin : start.origin? = some origin) : IsAbsolute origin.toList := by
  obtain ⟨v, hread, -, hweb, htext⟩ := exists_web_of_origin? hstart horigin
  have hne : v.scheme ≠ "" := by
    intro hnil
    rw [hnil] at hweb
    cases hweb
  rw [htext]
  exact isAbsolute_scheme hread hne _

theorem scheme_ne_of_origin? (horigin : start.origin? = some origin) : start.scheme ≠ "" := by
  intro hnil
  have hnone : ∀ fuel, originOf fuel start = none := by
    intro fuel
    cases fuel <;> simp [originOf, hnil, defaultPort?]
  rw [origin?, hnone] at horigin
  cases horigin

private theorem isAbsolute_resolveBlock (hstart : Url.parse text = .ok start)
    (horigin : start.origin? = some origin) (h : ¬HasScheme pattern) :
    IsAbsolute (resolveBlock pattern start).toList := by
  have habsolute : ∀ rest, IsAbsolute (start.originText.toList ++ rest) := by
    intro rest
    rw [originText, horigin]
    exact (isAbsolute_origin hstart horigin).append rest
  rw [resolveBlock_of_not_hasScheme h]
  split
  · rename_i hslashes
    obtain ⟨rest, hrest⟩ := hslashes
    have htext : (start.scheme ++ ":" ++ pattern).toList =
        start.scheme.toList ++ ("://".toList ++ rest) := by
      simp [← hrest]
    rw [htext]
    exact isAbsolute_scheme (isRead_of_parse hstart) (scheme_ne_of_origin? horigin) rest
  · split
    · rw [String.toList_append]
      exact habsolute _
    · rw [String.toList_append, String.toList_append, List.append_assoc]
      exact habsolute _

/-- Where the page of the start has an origin, a block pattern becomes absolute exactly if it is
absolute as it stands or is not taken for an address; and a path is put behind the origin
exactly if the signs behind a scheme stand nowhere in it. -/
theorem resolveBlock_isAbsolute_iff (hstart : Url.parse text = .ok start)
    (horigin : start.origin? = some origin) (pattern : String) :
    (IsAbsolute (resolveBlock pattern start).toList ↔
        IsAbsolute pattern.toList ∨ ¬HasScheme pattern) ∧
      (IsRooted pattern →
        (resolveBlock pattern start = origin ++ pattern ↔ ¬"://".toList <:+: pattern.toList)) := by
  have horiginText : start.originText = origin := by
    rw [originText, horigin, Option.getD_some]
  constructor
  · by_cases h : HasScheme pattern
    · rw [resolveBlock_of_hasScheme h, or_iff_left (not_not.2 h)]
    · exact iff_of_true (isAbsolute_resolveBlock hstart horigin h) (Or.inr h)
  · intro hrooted
    constructor
    · intro hresolved hscheme
      rw [resolveBlock_of_hasScheme (hrooted.hasScheme_iff.2 hscheme)] at hresolved
      obtain ⟨scheme, rest, hcut, -, -⟩ := isAbsolute_origin hstart horigin
      have hlength := congrArg (fun s : String => s.toList.length) hresolved
      simp only [String.toList_append, List.length_append, hcut] at hlength
      have hsigns : "://".toList.length = 3 := rfl
      omega
    · intro hscheme
      rw [hrooted.resolveBlock_eq hscheme, horiginText]

end Resolution

def homePage : Url where
  scheme := "https"
  hasAuthority := true
  host := some (.name "www.example.com")
  path := "/"

theorem parse_homePage : Url.parse "https://www.example.com/" = .ok homePage := by
  decide +kernel

/-- A path whose query holds an address is no expression, yet it is kept as it is. -/
theorem login_kept :
    Url.parse "https://www.example.com/" = .ok homePage ∧
      homePage.origin? = some "https://www.example.com" ∧
      Pattern.looksLikeRegex "/login?next=https://id.example/" = false ∧
      resolveBlock "/login?next=https://id.example/" homePage ≠
        "https://www.example.com" ++ "/login?next=https://id.example/" ∧
      ¬IsAbsolute (resolveBlock "/login?next=https://id.example/" homePage).toList := by
  have horigin : homePage.origin? = some "https://www.example.com" := by
    decide +kernel
  have hscheme : "://".toList <:+: "/login?next=https://id.example/".toList := by
    decide +kernel
  have hrooted : IsRooted "/login?next=https://id.example/" :=
    by
    decide +kernel
  obtain ⟨habsolute, hprefixed⟩ :=
    resolveBlock_isAbsolute_iff parse_homePage horigin "/login?next=https://id.example/"
  refine ⟨parse_homePage, horigin, by decide +kernel, ?_, ?_⟩
  · exact fun h => (hprefixed hrooted).1 h hscheme
  · intro h
    rcases habsolute.1 h with h | h
    · exact h.head?_ne rfl
    · exact h (Or.inr hscheme)

end NavPolicy.Artifact
