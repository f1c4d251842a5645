import NavPolicy.Proofs.Wildcard.Reading

/-!
# Matching wildcards

`Fits` says which texts some tokens stand for, without a word about the order in which they are
tried.  The matcher gives up a text as soon as it ends too early for some tokens.  That loses no
match: had the tokens before taken more, even less text would be left.  For tokens that stand for
components it also needs that a component begins where they are tried.
-/

namespace NavPolicy.Wildcard

/-- The texts behind a character where a token may stop, and the end. -/
inductive Behind (stops : Char → Bool) : List Char → List Char → Prop where
  | finish : Behind stops [] []
  | here {c rest} (hc : stops c = true) : Behind stops (c :: rest) rest
  | later {c rest far} (h : Behind stops rest far) : Behind stops (c :: rest) far

/-- What a token that stops at some characters may leave of a text. -/
def Leaves (stops : Char → Bool) (text rest : List Char) : Prop :=
  rest = text ∨ Behind stops text rest

/-- A text that some tokens stand for. -/
inductive Fits : List Token → List Char → Prop where
  | nil : Fits [] []
  | one {sign c ts text} (hc : sign.reads c = true) (h : Fits ts text) :
      Fits (.one sign :: ts) (c :: text)
  | run {ts text rest} (hrest : Leaves anywhere text rest) (h : Fits ts rest) :
      Fits (.run :: ts) text
  | components {ts text rest} (hrest : Leaves atSlash text rest) (h : Fits ts rest) :
      Fits (.components :: ts) text

section Leaves

variable {stops : Char → Bool} {a b c text rest : List Char}

theorem Behind.trans (hab : Behind stops a b) (hbc : Behind stops b c) : Behind stops a c := by
  induction hab with
  | finish => exact hbc
  | here _ => exact .later hbc
  | later _ ih => exact .later (ih hbc)

theorem Leaves.trans (hab : Leaves stops a b) (hbc : Leaves stops b c) : Leaves stops a c := by
  rcases hab with rfl | hab
  · exact hbc
  · rcases hbc with rfl | hbc
    · exact Or.inr hab
    · exact Or.inr (hab.trans hbc)

private theorem Behind.widen (h : Behind stops text rest) : Behind anywhere text rest := by
  induction h with
  | finish => exact .finish
  | here _ => exact .here rfl
  | later _ ih => exact .later ih

/-- A token that may stop anywhere leaves what any other leaves. -/
theorem Leaves.widen (h : Leaves stops text rest) : Leaves anywhere text rest :=
  h.imp_right Behind.widen

/-- Behind a character that is left, where a token may stop, is a text that it may leave. -/
theorem Behind.tail {d : Char} {more : List Char} (hd : stops d = true)
    (h : Behind anywhere text (d :: more)) : Behind stops text more := by
  generalize hrest : d :: more = rest at h
  induction h with
  | finish => cases hrest
  | here _ =>
      subst hrest
      exact .later (.here hd)
  | later _ ih => exact .later (ih hrest)

private theorem Behind.isSuffix (h : Behind stops text rest) : rest <:+ text := by
  induction h with
  | finish => exact List.suffix_rfl
  | here _ => exact List.suffix_cons _ _
  | later _ ih => exact ih.trans (List.suffix_cons _ _)

/-- A token that may stop anywhere leaves any end of a text. -/
theorem leaves_anywhere_iff : Leaves anywhere text rest ↔ rest <:+ text := by
  constructor
  · rintro (rfl | h)
    · exact List.suffix_rfl
    · exact h.isSuffix
  · intro h
    induction text with
    | nil => exact Or.inl (List.suffix_nil.1 h)
    | cons c text ih =>
        rcases List.suffix_cons_iff.1 h with rfl | h
        · exact Or.inl rfl
        · right
          rcases ih h with rfl | h
          · exact .here rfl
          · exact .later h

end Leaves

/-! ## Attempts -/

/-- An attempt that finds a match exactly if there is one.  When the text ends too early, nothing
that a token in front of the attempt may leave of it matches either. -/
structure Exact (stops : Char → Bool) (attempt : List Char → Outcome) (fits : List Char → Prop) :
    Prop where
  matched : ∀ text, attempt text = .matched ↔ fits text
  ends : ∀ text, attempt text = .ends → ∀ rest, Leaves stops text rest → ¬fits rest

section Exact

variable {stops : Char → Bool} {next : List Char → Outcome} {fits : List Char → Prop}
  {text : List Char}

theorem Exact.of_anywhere (h : Exact anywhere next fits) : Exact stops next fits where
  matched := h.matched
  ends text hends rest hrest := h.ends text hends rest hrest.widen

theorem Exact.congr {fits' : List Char → Prop} (h : Exact stops next fits)
    (hiff : ∀ text, fits' text ↔ fits text) : Exact stops next fits' := by
  have heq : fits' = fits := funext fun text => propext (hiff text)
  rwa [heq]

theorem Exact.not_fits (h : Exact stops next fits) (hdiffers : next text = .differs) :
    ¬fits text := by
  intro hfits
  rw [(h.matched text).2 hfits] at hdiffers
  cases hdiffers

theorem exact_atEnd : Exact anywhere atEnd (Fits []) where
  matched text := by
    cases text with
    | nil => exact iff_of_true rfl .nil
    | cons c rest => exact iff_of_false (by simp [atEnd]) (by intro h; cases h)
  ends text hends := by
    cases text with
    | nil => cases hends
    | cons c rest => cases hends

/-- Behind a token a match is found exactly if there is one. -/
theorem Exact.tryBehind_eq_matched (h : Exact stops next fits) (text : List Char) :
    tryBehind stops next text = .matched ↔ ∃ rest, Behind stops text rest ∧ fits rest := by
  induction text with
  | nil =>
      rw [tryBehind, h.matched]
      constructor
      · intro hfits
        exact ⟨[], .finish, hfits⟩
      · rintro ⟨rest, hrest, hfits⟩
        cases hrest
        exact hfits
  | cons c rest ih =>
      rw [tryBehind]
      constructor
      · intro hmatched
        split at hmatched
        · rename_i hc
          cases hnext : next rest with
          | matched => exact ⟨rest, .here hc, (h.matched rest).1 hnext⟩
          | differs =>
              simp only [hnext] at hmatched
              obtain ⟨far, hfar, hfits⟩ := ih.1 hmatched
              exact ⟨far, .later hfar, hfits⟩
          | ends => simp [hnext] at hmatched
        · obtain ⟨far, hfar, hfits⟩ := ih.1 hmatched
          exact ⟨far, .later hfar, hfits⟩
      · rintro ⟨far, hfar, hfits⟩
        cases hfar with
        | here hc => simp [hc, (h.matched rest).2 hfits]
        | later hfar =>
            have hlater : tryBehind stops next rest = .matched := ih.2 ⟨far, hfar, hfits⟩
            split
            · cases hnext : next rest with
              | matched => rfl
              | differs => exact hlater
              | ends => exact absurd hfits (h.ends rest hnext far (Or.inr hfar))
            · exact hlater

/-- Where the text ends too early, no match was left out. -/
theorem Exact.not_fits_of_tryBehind (h : Exact stops next fits)
    (hends : tryBehind stops next text = .ends) {far : List Char} (hfar : Behind stops text far) :
    ¬fits far := by
  induction hfar with
  | finish => exact h.ends [] hends [] (Or.inl rfl)
  | @here c rest hc =>
      simp only [tryBehind, hc, if_true] at hends
      cases hnext : next rest with
      | matched => simp [hnext] at hends
      | differs => exact h.not_fits hnext
      | ends => exact h.ends rest hnext rest (Or.inl rfl)
  | @later c rest far hfar ih =>
      rw [tryBehind] at hends
      split at hends
      · cases hnext : next rest with
        | matched => simp [hnext] at hends
        | differs =>
            simp only [hnext] at hends
            exact ih hends
        | ends => exact h.ends rest hnext far (Or.inr hfar)
      · exact ih hends

/-- A token that may take more or less is exact if what follows it is. -/
theorem Exact.tryFrom (h : Exact stops next fits) :
    Exact stops (tryFrom stops next) fun text => ∃ rest, Leaves stops text rest ∧ fits rest where
  matched text := by
    rw [Wildcard.tryFrom]
    constructor
    · intro hmatched
      cases hnext : next text with
      | matched => exact ⟨text, Or.inl rfl, (h.matched text).1 hnext⟩
      | differs =>
          simp only [hnext] at hmatched
          obtain ⟨rest, hrest, hfits⟩ := (h.tryBehind_eq_matched text).1 hmatched
          exact ⟨rest, Or.inr hrest, hfits⟩
      | ends => simp [hnext] at hmatched
    · rintro ⟨rest, hrest, hfits⟩
      cases hnext : next text with
      | matched => rfl
      | differs =>
          rcases hrest with rfl | hrest
          · exact absurd hfits (h.not_fits hnext)
          · exact (h.tryBehind_eq_matched text).2 ⟨rest, hrest, hfits⟩
      | ends => exact absurd hfits (h.ends text hnext rest hrest)
  ends text hends := by
    have hnone : ∀ rest, Leaves stops text rest → ¬fits rest := by
      intro rest hrest
      rw [Wildcard.tryFrom] at hends
      cases hnext : next text with
      | matched => simp [hnext] at hends
      | differs =>
          simp only [hnext] at hends
          rcases hrest with rfl | hrest
          · exact h.not_fits hnext
          · exact h.not_fits_of_tryBehind hends hrest
      | ends => exact h.ends text hnext rest hrest
    rintro rest hrest ⟨far, hfar, hfits⟩
    exact hnone far (hrest.trans hfar) hfits

/-- A token for one character is exact, wherever it is tried, if what follows it is exact where
such a character stops a token. -/
theorem Exact.one (h : Exact stops next fits) {sign : Sign}
    (hstops : ∀ c, sign.reads c = true → stops c = true) :
    Exact anywhere (Token.attempt next (.one sign)) fun text =>
      ∃ c rest, text = c :: rest ∧ sign.reads c = true ∧ fits rest where
  matched text := by
    cases text with
    | nil => simp [Token.attempt]
    | cons c rest =>
        rw [Token.attempt]
        constructor
        · intro hmatched
          split at hmatched
          · rename_i hc
            exact ⟨c, rest, rfl, hc, (h.matched rest).1 hmatched⟩
          · cases hmatched
        · rintro ⟨_, _, htext, hc, hfits⟩
          cases htext
          rw [if_pos hc]
          exact (h.matched rest).2 hfits
  ends text hends := by
    rintro _ hleaves ⟨d, rest, rfl, hd, hfits⟩
    cases text with
    | nil =>
        rcases hleaves with hnil | hnil
        · cases hnil
        · cases hnil
    | cons c more =>
        rw [Token.attempt] at hends
        split at hends
        · have hrest : Leaves stops more rest := by
            rcases hleaves with hsame | hbehind
            · cases hsame
              exact Or.inl rfl
            · cases hbehind with
              | here _ => exact Or.inr (.here (hstops d hd))
              | later hlater => exact Or.inr (hlater.tail (hstops d hd))
          exact h.ends more hends rest hrest hfits
        · cases hends

end Exact

/-! ## The tokens of a wildcard -/

section Tokens

variable {ts : List Token} {text : List Char}

theorem fits_nil_iff : Fits [] text ↔ text = [] := by
  constructor
  · intro h
    cases h
    rfl
  · rintro rfl
    exact .nil

/-- A sign stands for one character. -/
theorem fits_one_iff {sign : Sign} : Fits (.one sign :: ts) text ↔
    ∃ c rest, text = c :: rest ∧ sign.reads c = true ∧ Fits ts rest := by
  constructor
  · intro h
    cases h with
    | one hc h => exact ⟨_, _, rfl, hc, h⟩
  · rintro ⟨c, rest, rfl, hc, h⟩
    exact .one hc h

/-- A run may end behind any character. -/
theorem fits_run_iff : Fits (.run :: ts) text ↔
    ∃ rest, Leaves anywhere text rest ∧ Fits ts rest := by
  constructor
  · intro h
    cases h with
    | run hrest h => exact ⟨_, hrest, h⟩
  · rintro ⟨rest, hrest, h⟩
    exact .run hrest h

/-- Two stars take whole components, up to a slash. -/
theorem fits_components_iff : Fits (.components :: ts) text ↔
    ∃ rest, Leaves atSlash text rest ∧ Fits ts rest := by
  constructor
  · intro h
    cases h with
    | components hrest h => exact ⟨_, hrest, h⟩
  · rintro ⟨rest, hrest, h⟩
    exact .components hrest h

/-- Where a token in front of a place may stop: only at a slash where a component begins. -/
def stopsBefore (begins : Bool) : Char → Bool :=
  if begins then atSlash else anywhere

/-- The tokens of a wildcard are matched exactly. -/
theorem Reads.exact {begins : Bool} {w : List Char} (h : Reads begins w ts) :
    Exact (stopsBefore begins) (outcome ts) (Fits ts) := by
  induction h with
  | nil => exact exact_atEnd.of_anywhere
  | last => exact exact_atEnd.of_anywhere.tryFrom.congr fun _ => fits_components_iff
  | components _ ih => exact ih.tryFrom.congr fun _ => fits_components_iff
  | run _ _ ih => exact (ih.tryFrom.congr fun _ => fits_run_iff).of_anywhere
  | any _ ih =>
      have hstops : ∀ c, Sign.any.reads c = true → stopsBefore false c = true := fun _ _ => rfl
      exact ((ih.one hstops).congr fun _ => fits_one_iff).of_anywhere
  | @char _ c _ _ _ _ _ ih =>
      have hstops : ∀ d, (signOf c).reads d = true → stopsBefore (c == '/') d = true := by
        intro d hd
        rw [reads_signOf, beq_iff_eq] at hd
        subst hd
        cases hslash : d == '/' with
        | false => rfl
        | true => exact hslash
      exact ((ih.one hstops).congr fun _ => fits_one_iff).of_anywhere

/-- A wildcard matches the texts that its tokens stand for. -/
theorem Reads.isMatch_iff {w : List Char} (h : Reads true w ts) :
    isMatch ts text = true ↔ Fits ts text := by
  rw [isMatch, beq_iff_eq]
  exact h.exact.matched text

end Tokens

end NavPolicy.Wildcard
