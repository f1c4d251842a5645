import NavPolicy.Proofs.Pattern.GlobExpression

/-!
# What glob matchers accept

The language of a glob as it is documented, said by how the glob begins and ends and whether it
names a scheme, and without a word about expressions: a path is anchored, tolerates a slash, a
query or a fragment behind it, and reaches deeper only if it ends in a star; an address is
anchored and tolerates a query or a fragment; any other glob may stand anywhere in a candidate,
unless it ends in a star and has to fill it.
-/

namespace NavPolicy.Pattern

open NavPolicy.Regex

namespace Glob

/-- The path that a path glob names: the glob without the slash at its end, unless the slash is
all there is. -/
def Names (glob path : List Char) : Prop :=
  (glob = path ++ ['/'] ∧ path ≠ []) ∨
    (glob = path ∧ (path = ['/'] ∨ path.getLast? ≠ some '/'))

/-- Whether the candidates that are matched are those that a glob stands for. -/
structure Describes (glob : List Char) (matched : String → Prop) : Prop where
  /-- A path that ends in a star. -/
  openPath : glob.head? = some '/' → glob.getLast? = some '*' →
    ∀ c, matched c ↔ ∃ s q, c.toList = s ++ q ∧ Fits glob s ∧ IsTail q
  /-- Any other path. -/
  path : glob.head? = some '/' → glob.getLast? ≠ some '*' → ∀ p, Names glob p →
    ∀ c, matched c ↔
      ∃ s z q, c.toList = s ++ (z ++ q) ∧ Fits p s ∧ (z = [] ∨ z = ['/']) ∧ IsTail q
  /-- An address that does not end in a star. -/
  address : "://".toList <:+: glob → glob.head? ≠ some '/' → glob.getLast? ≠ some '*' →
    ∀ c, matched c ↔ ∃ s q, c.toList = s ++ q ∧ Fits glob s ∧ IsTail q
  /-- Any other glob that ends in a star. -/
  whole : glob.head? ≠ some '/' → glob.getLast? = some '*' →
    ∀ c, matched c ↔ Fits glob c.toList
  /-- Anything else. -/
  part : ¬"://".toList <:+: glob → glob.head? ≠ some '/' → glob.getLast? ≠ some '*' →
    ∀ c, matched c ↔ ∃ s, s <:+: c.toList ∧ Fits glob s

variable {glob : List Char}

/-- Every glob names exactly one path. -/
theorem names_iff {path : List Char} : Names glob path ↔ path = stem glob := by
  constructor
  · rintro (⟨rfl, hpath⟩ | ⟨rfl, rfl | hlast⟩)
    · simp [stem, hpath]
    · rfl
    · simp [stem, hlast]
  · rintro rfl
    rw [stem]
    split
    · rename_i h
      simp only [Bool.and_eq_true, beq_iff_eq, bne_iff_ne, ne_eq] at h
      obtain ⟨path, rfl⟩ := List.getLast?_eq_some_iff.1 h.1
      refine Or.inl ⟨by simp, fun hnil => h.2 ?_⟩
      rw [List.dropLast_concat] at hnil
      rw [hnil]
      rfl
    · rename_i h
      refine Or.inr ⟨rfl, ?_⟩
      by_cases hlast : glob.getLast? = some '/'
      · obtain ⟨path, rfl⟩ := List.getLast?_eq_some_iff.1 hlast
        have hnil : path = [] := by simpa using h
        exact Or.inl (by rw [hnil, List.nil_append])
      · exact Or.inr hlast

/-- The shapes of globs, told apart as the documentation does. -/
theorem describes_accepts (glob : List Char) : Describes glob fun c => Accepts glob c.toList where
  openPath hhead hlast c := by
    have hshape : shape glob = .openPath := by simp [shape, hhead, hlast]
    simp only [Accepts, hshape]
  path hhead hlast p hp c := by
    have hshape : shape glob = .path := by simp [shape, hhead, hlast]
    simp only [Accepts, hshape, names_iff.1 hp]
  address hscheme hhead hlast c := by
    simp only [Accepts, shape_of_address hscheme hhead hlast]
  whole hhead hlast c := by
    simp only [Accepts, shape_of_whole hhead hlast]
  part hscheme hhead hlast c := by
    have hcontains : containsText [':', '/', '/'] glob = false :=
      Bool.eq_false_iff.2 fun h => hscheme (containsText_iff.1 h)
    have hshape : shape glob = .part := by simp [shape, hhead, hlast, hcontains]
    simp only [Accepts, hshape]
    constructor
    · rintro ⟨a, s, b, hc, hs⟩
      exact ⟨s, ⟨a, b, by rw [hc, List.append_assoc]⟩, hs⟩
    · rintro ⟨s, ⟨a, b, hc⟩, hs⟩
      exact ⟨a, s, b, by rw [← hc, List.append_assoc], hs⟩

private theorem Describes.congr {matched matched' : String → Prop} (h : Describes glob matched)
    (hiff : ∀ c, matched' c ↔ matched c) : Describes glob matched' := by
  have heq : matched' = matched := funext fun c => propext (hiff c)
  rwa [heq]

end Glob

namespace Matcher

private theorem ofRegex?_eq_none {pattern : String}
    (h : looksLikeRegex pattern = false ∨ Regex.parse (core pattern) = none)
    (hne : core pattern ≠ []) : ofRegex? (core pattern) = none := by
  rcases h with hlook | hparse
  · have hempty : (core pattern).isEmpty = false := by simpa using hne
    have hnolook : hasRegexLook (core pattern) = false := by
      simp only [core] at hempty ⊢
      simpa [looksLikeRegex, hempty] using hlook
    simp [ofRegex?, hnolook]
  · simp [ofRegex?, hparse]

/-- A pattern that is not blank, is not an expression and is not too large is read as a glob, and
its matcher accepts exactly the candidates that the glob stands for. -/
theorem glob_describes {pattern : String} (hne : core pattern ≠ [])
    (hglob : looksLikeRegex pattern = false ∨ Regex.parse (core pattern) = none)
    (hsmall : Glob.IsSmall (core pattern)) :
    (compile pattern).kind = .glob ∧
      Glob.Describes (core pattern) fun c => (compile pattern).isMatch c = true := by
  have hkind := kind_eq_glob_of_isSmall hne (ofRegex?_eq_none hglob hne) hsmall
  exact ⟨hkind, (Glob.describes_accepts _).congr (isMatch_iff_accepts hkind)⟩

/-- A pattern that looks like an expression and is none. -/
theorem glob_describes_unclosed_group :
    looksLikeRegex " /clip(*/end/ " = true ∧
      Regex.parse (core " /clip(*/end/ ") = none ∧
      (compile " /clip(*/end/ ").kind = .glob ∧
      (compile " /clip(*/end/ ").isMatch "/clip(7/end?t=1" = true := by
  have hparse : Regex.parse (core " /clip(*/end/ ") = none := by decide
  have hne : core " /clip(*/end/ " ≠ [] := by decide
  obtain ⟨hkind, hdescribes⟩ :=
    glob_describes hne (Or.inr hparse) (Glob.isSmall_of_length_le (by decide))
  refine ⟨by decide, hparse, hkind, ?_⟩
  have hnames : Glob.Names (core " /clip(*/end/ ") "/clip(*/end".toList :=
    Or.inl ⟨by decide, by decide⟩
  refine (hdescribes.path (by decide) (by decide) _ hnames _).2
    ⟨"/clip(7/end".toList, [], "?t=1".toList, by decide, ?_, Or.inl rfl, ?_⟩
  · have hfront := Glob.fits_self "/clip(".toList
    have hbehind := Glob.fits_self "/end".toList
    exact Glob.fits_append_iff.2 ⟨_, "7/end".toList, rfl, hfront,
      Glob.fits_star_iff.2 ⟨['7'], _, rfl, by decide, hbehind⟩⟩
  · exact Or.inr ⟨'?', "t=1".toList, by decide, Or.inl rfl, by decide⟩

end Matcher

end NavPolicy.Pattern
