import NavPolicy.Pattern.Matcher
import NavPolicy.Proofs.Regex.Literal

/-!
# The language of globs

What a glob matches, said without expressions: `Glob.Fits` puts a run without line feeds in
the place of each star and keeps every other character, and `Glob.Accepts` says what may
stand around a fitting text for each shape.  A pattern that was read as a glob accepts
exactly these candidates.
-/

namespace NavPolicy.Pattern.Glob

open NavPolicy.Regex

/-- A text in which each star of a glob is replaced by a run without line feeds. -/
inductive Fits : List Char → List Char → Prop where
  | nil : Fits [] []
  | char {c glob s} (hc : c ≠ '*') (h : Fits glob s) : Fits (c :: glob) (c :: s)
  | run {r glob s} (hr : '\n' ∉ r) (h : Fits glob s) : Fits ('*' :: glob) (r ++ s)

/-- A query or a fragment behind a glob, or nothing. -/
def IsTail (q : List Char) : Prop :=
  q = [] ∨ ∃ c r, q = c :: r ∧ (c = '?' ∨ c = '#') ∧ '\n' ∉ r

/-- A candidate that a glob accepts. -/
def Accepts (glob text : List Char) : Prop :=
  match shape glob with
  | .openPath => ∃ s q, text = s ++ q ∧ Fits glob s ∧ IsTail q
  | .path =>
      ∃ s z q, text = s ++ (z ++ q) ∧ Fits (stem glob) s ∧ (z = [] ∨ z = ['/']) ∧ IsTail q
  | .whole => Fits glob text
  | .address => ∃ s q, text = s ++ q ∧ Fits glob s ∧ IsTail q
  | .part => ∃ a s b, text = a ++ (s ++ b) ∧ Fits glob s

theorem fits_nil_iff {s : List Char} : Fits [] s ↔ s = [] := by
  constructor
  · intro h
    cases h
    rfl
  · rintro rfl
    exact .nil

theorem fits_char_iff {c : Char} (hc : c ≠ '*') {glob s : List Char} :
    Fits (c :: glob) s ↔ ∃ s', s = c :: s' ∧ Fits glob s' := by
  constructor
  · intro h
    cases h with
    | char _ h => exact ⟨_, rfl, h⟩
    | run _ _ => exact absurd rfl hc
  · rintro ⟨s', rfl, h⟩
    exact .char hc h

/-- A star stands for any run without line feeds. -/
theorem fits_star_iff {glob s : List Char} :
    Fits ('*' :: glob) s ↔ ∃ r s', s = r ++ s' ∧ '\n' ∉ r ∧ Fits glob s' := by
  constructor
  · intro h
    cases h with
    | char hc _ => exact absurd rfl hc
    | run hr h => exact ⟨_, _, rfl, hr, h⟩
  · rintro ⟨r, s', rfl, hr, h⟩
    exact .run hr h

/-- A glob fits its own text: each star stands for itself. -/
theorem fits_self (glob : List Char) : Fits glob glob := by
  induction glob with
  | nil => exact .nil
  | cons c glob ih =>
      by_cases hc : c = '*'
      · subst hc
        exact .run (r := ['*']) (by decide) ih
      · exact .char hc ih

/-- A glob without stars fits its own text only. -/
theorem Fits.eq_of_not_mem {glob s : List Char} (h : Fits glob s) (hstar : '*' ∉ glob) :
    s = glob := by
  induction h with
  | nil => rfl
  | char hc h ih => rw [ih fun hmem => hstar (List.mem_cons_of_mem _ hmem)]
  | run hr h ih => exact absurd List.mem_cons_self hstar

/-- What two globs stand for one after the other is cut where the second begins. -/
theorem fits_append_iff {glob glob' s : List Char} :
    Fits (glob ++ glob') s ↔ ∃ s₁ s₂, s = s₁ ++ s₂ ∧ Fits glob s₁ ∧ Fits glob' s₂ := by
  induction glob generalizing s with
  | nil =>
      simp only [List.nil_append, fits_nil_iff]
      constructor
      · intro h
        exact ⟨[], s, rfl, rfl, h⟩
      · rintro ⟨_, s₂, rfl, rfl, h⟩
        exact h
  | cons c glob ih =>
      by_cases hc : c = '*'
      · subst hc
        simp only [List.cons_append, fits_star_iff, ih]
        constructor
        · rintro ⟨r, _, rfl, hr, s₁, s₂, rfl, h₁, h₂⟩
          exact ⟨r ++ s₁, s₂, by simp, ⟨r, s₁, rfl, hr, h₁⟩, h₂⟩
        · rintro ⟨_, s₂, rfl, ⟨r, s₁, rfl, hr, h₁⟩, h₂⟩
          exact ⟨r, s₁ ++ s₂, by simp, hr, s₁, s₂, rfl, h₁, h₂⟩
      · simp only [List.cons_append, fits_char_iff hc, ih]
        constructor
        · rintro ⟨_, rfl, s₁, s₂, rfl, h₁, h₂⟩
          exact ⟨c :: s₁, s₂, rfl, ⟨s₁, rfl, h₁⟩, h₂⟩
        · rintro ⟨_, s₂, rfl, ⟨s₁, rfl, h₁⟩, h₂⟩
          exact ⟨s₁ ++ s₂, rfl, s₁, s₂, rfl, h₁, h₂⟩

theorem containsText_iff {part text : List Char} :
    containsText part text = true ↔ part <:+: text := by
  induction text with
  | nil => simp [containsText]
  | cons c text ih =>
      rw [containsText, Bool.or_eq_true, List.isPrefixOf_iff_prefix, ih, List.infix_cons_iff]

/-- A glob that is no path and ends in a star is matched as a whole. -/
theorem shape_of_whole {glob : List Char} (hhead : glob.head? ≠ some '/')
    (hlast : glob.getLast? = some '*') : shape glob = .whole := by
  simp [shape, hhead, hlast]

/-- A glob with a scheme that does not end in a star is anchored, a query or a fragment aside. -/
theorem shape_of_address {glob : List Char} (hscheme : "://".toList <:+: glob)
    (hhead : glob.head? ≠ some '/') (hlast : glob.getLast? ≠ some '*') :
    shape glob = .address := by
  have hcontains : containsText [':', '/', '/'] glob = true := containsText_iff.2 hscheme
  simp [shape, hhead, hlast, hcontains]

/-- A glob that names a scheme begins to fit where the candidate begins. -/
theorem Accepts.exists_fits_front {glob text : List Char} (h : Accepts glob text)
    (hhead : glob.head? ≠ some '/') (hscheme : "://".toList <:+: glob) :
    ∃ s q, text = s ++ q ∧ Fits glob s := by
  by_cases hlast : glob.getLast? = some '*'
  · simp only [Accepts, shape_of_whole hhead hlast] at h
    exact ⟨text, [], by simp, h⟩
  · simp only [Accepts, shape_of_address hscheme hhead hlast] at h
    obtain ⟨s, q, htext, hfits, -⟩ := h
    exact ⟨s, q, htext, hfits⟩

/-! ## What the parts of the expression match -/

def anyRun : Expr := .star (.chars .notLineFeed)

def charExpr (c : Char) : Expr :=
  if c = '*' then anyRun else .chars (.single c)

def tailSet : CharSet := (CharSet.union ⟨[]⟩ (.single '?')).union (.single '#')

def tailExpr : Expr := .alt .empty (.concat [.chars tailSet, anyRun])

def slashExpr : Expr := .alt .empty (.chars (.single '/'))

variable {left m right : List Char}

theorem matches_anyRun_iff : Matches anyRun left m right ↔ '\n' ∉ m := by
  have hround : ∀ c, CharSet.notLineFeed.contains c = true ↔ c ≠ '\n' := by
    simp [CharSet.contains_notLineFeed]
  rw [anyRun]
  induction m generalizing left with
  | nil => simpa using Matches.star Repeats.zero
  | cons c m ih =>
      rw [matches_star_cons_iff]
      constructor
      · rintro ⟨m₁, m₂, rfl, hc, hrest⟩
        obtain ⟨d, hd, hd'⟩ := matches_chars_iff.1 hc
        obtain ⟨rfl, rfl⟩ := List.cons_eq_cons.1 hd
        have hm : '\n' ∉ m₂ := ih.1 (by simpa using hrest)
        rw [List.nil_append, List.mem_cons, not_or]
        exact ⟨((hround c).1 hd').symm, hm⟩
      · intro hmem
        rw [List.mem_cons, not_or] at hmem
        refine ⟨[], m, rfl, matches_chars_iff.2 ⟨c, rfl, (hround c).2 (Ne.symm hmem.1)⟩, ?_⟩
        exact ih.2 hmem.2

/-- The characters of a glob, one after the other, match what the glob stands for. -/
theorem matchesAll_chars_iff (glob : List Char) :
    MatchesAll (glob.map charExpr) left m right ↔ Fits glob m := by
  induction glob generalizing left m with
  | nil => exact fits_nil_iff.symm
  | cons c glob ih =>
      rw [List.map_cons, matchesAll_cons_iff]
      by_cases hc : c = '*'
      · subst hc
        simp only [charExpr, if_pos, matches_anyRun_iff, ih, fits_star_iff]
      · simp only [charExpr, if_neg hc, matches_chars_iff, CharSet.contains_single,
          decide_eq_true_eq, ih, fits_char_iff hc]
        constructor
        · rintro ⟨_, m₂, rfl, ⟨d, rfl, rfl⟩, h⟩
          exact ⟨m₂, rfl, h⟩
        · rintro ⟨m₂, rfl, h⟩
          exact ⟨[c], m₂, rfl, ⟨c, rfl, rfl⟩, h⟩

theorem matches_tailExpr_iff : Matches tailExpr left m right ↔ IsTail m := by
  simp only [tailExpr, IsTail, matches_alt_iff, matches_empty_iff, matches_concat_iff,
    matchesAll_cons_iff, matches_chars_iff, matches_anyRun_iff, matchesAll_nil_iff]
  apply or_congr Iff.rfl
  constructor
  · rintro ⟨_, _, rfl, ⟨c, rfl, hc⟩, r, _, rfl, hr, rfl⟩
    refine ⟨c, r, by simp, ?_, hr⟩
    have hempty : (CharSet.mk []).contains c = false := rfl
    simpa [tailSet, hempty] using hc
  · rintro ⟨c, r, rfl, hc, hr⟩
    refine ⟨[c], r, rfl, ⟨c, rfl, ?_⟩, r, [], by simp, hr, rfl⟩
    rcases hc with rfl | rfl <;> decide

theorem matches_slashExpr_iff :
    Matches slashExpr left m right ↔ m = [] ∨ m = ['/'] := by
  simp [slashExpr, matches_alt_iff, matches_empty_iff, matches_chars_iff]

theorem matches_textStart_iff :
    Matches (.look .textStart) left m right ↔ m = [] ∧ left = [] := by
  rw [matches_look_iff]
  cases left <;> simp [Look.holds, Place.between]

theorem matches_textEnd_iff :
    Matches (.look .textEnd) left m right ↔ m = [] ∧ right = [] := by
  rw [matches_look_iff]
  cases right <;> simp [Look.holds, Place.between]

end NavPolicy.Pattern.Glob
