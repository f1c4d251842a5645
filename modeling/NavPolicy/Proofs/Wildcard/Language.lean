import NavPolicy.Proofs.Wildcard.Matching

/-!
# The language of wildcards

`Stands` says what a wildcard stands for, character by character: a star for any run, a question
mark for one character, and everything else for itself, brackets and what they hold included.  A
wildcard without two stars in a row is never refused and matches exactly these texts.
-/

namespace NavPolicy.Wildcard

/-- A text in which each star of a wildcard is replaced by a run and each question mark by a
character. -/
inductive Stands : List Char → List Char → Prop where
  | nil : Stands [] []
  | star {r w text} (h : Stands w text) : Stands ('*' :: w) (r ++ text)
  | question {c w text} (h : Stands w text) : Stands ('?' :: w) (c :: text)
  | char {c w text} (hstar : c ≠ '*') (hquestion : c ≠ '?') (h : Stands w text) :
      Stands (c :: w) (c :: text)

section Stands

variable {c : Char} {w text : List Char}

theorem stands_nil_iff : Stands [] text ↔ text = [] := by
  constructor
  · intro h
    cases h
    rfl
  · rintro rfl
    exact .nil

/-- A star stands for any run. -/
theorem stands_star_iff :
    Stands ('*' :: w) text ↔ ∃ rest, rest <:+ text ∧ Stands w rest := by
  constructor
  · intro h
    cases h with
    | star h => exact ⟨_, List.suffix_append _ _, h⟩
    | char hstar _ _ => exact absurd rfl hstar
  · rintro ⟨rest, ⟨r, rfl⟩, h⟩
    exact .star h

/-- A question mark stands for one character. -/
theorem stands_question_iff :
    Stands ('?' :: w) text ↔ ∃ c rest, text = c :: rest ∧ Stands w rest := by
  constructor
  · intro h
    cases h with
    | question h => exact ⟨_, _, rfl, h⟩
    | char _ hquestion _ => exact absurd rfl hquestion
  · rintro ⟨c, rest, rfl, h⟩
    exact .question h

theorem stands_char_iff (hstar : c ≠ '*') (hquestion : c ≠ '?') :
    Stands (c :: w) text ↔ ∃ rest, text = c :: rest ∧ Stands w rest := by
  constructor
  · intro h
    cases h with
    | star _ => exact absurd rfl hstar
    | question _ => exact absurd rfl hquestion
    | char _ _ h => exact ⟨_, rfl, h⟩
  · rintro ⟨rest, rfl, h⟩
    exact .char hstar hquestion h

/-- A text without stars and question marks in front of a wildcard stands for itself. -/
theorem stands_append_iff {front : List Char} (hfront : ∀ c ∈ front, c ≠ '*' ∧ c ≠ '?') :
    Stands (front ++ w) text ↔ ∃ rest, text = front ++ rest ∧ Stands w rest := by
  induction front generalizing text with
  | nil => simp
  | cons c front ih =>
      rw [List.forall_mem_cons] at hfront
      rw [List.cons_append, stands_char_iff hfront.1.1 hfront.1.2]
      constructor
      · rintro ⟨more, rfl, hmore⟩
        obtain ⟨rest, rfl, hrest⟩ := (ih hfront.2).1 hmore
        exact ⟨rest, rfl, hrest⟩
      · rintro ⟨rest, rfl, h⟩
        exact ⟨front ++ rest, rfl, (ih hfront.2).2 ⟨rest, rfl, h⟩⟩

end Stands

/-- A wildcard without two stars in a row is not refused. -/
theorem starsFill_of_not_isInfix {begins : Bool} {w : List Char} (h : ¬['*', '*'] <:+: w) :
    StarsFill begins w := by
  intro before after hw
  exact absurd ⟨before, after, by simp [hw]⟩ h

/-- Without two stars in a row, the tokens of a wildcard stand for what the wildcard does. -/
theorem Reads.fits_iff_stands {begins : Bool} {w : List Char} {ts : List Token}
    (h : Reads begins w ts) (hstars : ¬['*', '*'] <:+: w) (text : List Char) :
    Fits ts text ↔ Stands w text := by
  have htail : ∀ {c : Char} {w : List Char}, ¬['*', '*'] <:+: c :: w → ¬['*', '*'] <:+: w :=
    fun h hmem => h (hmem.trans (List.suffix_cons _ _).isInfix)
  induction h generalizing text with
  | nil => exact fits_nil_iff.trans stands_nil_iff.symm
  | last => exact absurd List.infix_rfl hstars
  | components _ _ => exact absurd ⟨[], _, rfl⟩ hstars
  | run _ _ ih =>
      simp only [fits_run_iff, stands_star_iff, leaves_anywhere_iff, ih (htail hstars)]
  | any _ ih =>
      simp only [fits_one_iff, stands_question_iff, ih (htail hstars), Sign.reads, true_and]
  | char hstar hquestion _ ih =>
      simp only [fits_one_iff, stands_char_iff hstar hquestion, ih (htail hstars), reads_signOf,
        beq_iff_eq]
      constructor
      · rintro ⟨d, rest, rfl, rfl, h⟩
        exact ⟨rest, rfl, h⟩
      · rintro ⟨rest, rfl, h⟩
        exact ⟨_, rest, rfl, rfl, h⟩

/-- The tokens of a wildcard stand for its own text. -/
theorem Reads.fits_self {begins : Bool} {w : List Char} {ts : List Token}
    (h : Reads begins w ts) : Fits ts w := by
  induction h with
  | nil => exact .nil
  | last => exact .components (Or.inr (.later (.later .finish))) .nil
  | components _ ih => exact .components (Or.inr (.later (.later (.here rfl)))) ih
  | run _ _ ih => exact .run (Or.inr (.here rfl)) ih
  | any _ ih => exact .one rfl ih
  | char _ _ _ ih => exact .one (by simp) ih

end NavPolicy.Wildcard
