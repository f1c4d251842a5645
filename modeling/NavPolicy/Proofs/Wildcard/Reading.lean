import NavPolicy.Wildcard

/-!
# Reading wildcards

`Reads` says how a wildcard falls into tokens, with brackets like any other character.  This is
what the reader of globs makes of a wildcard whose brackets are escaped.  It refuses nothing but
two stars in a row that do not fill a component.
-/

namespace NavPolicy.Wildcard

/-- The sign of a character that stands for itself; a bracket stands in a class. -/
def signOf (c : Char) : Sign :=
  if c = '[' ∨ c = ']' then .listed [.char c] else .char c

/-- A plain sign stands for the one character only. -/
@[simp]
theorem reads_signOf (c d : Char) : (signOf c).reads d = (d == c) := by
  rw [signOf]
  split
  · simp [Sign.reads, ClassItem.lists]
  · rfl

/-- How a wildcard falls into tokens; the flag says whether a component begins in front of it. -/
inductive Reads : Bool → List Char → List Token → Prop where
  | nil {begins} : Reads begins [] []
  | last : Reads true ['*', '*'] [.components]
  | components {w ts} (h : Reads true w ts) :
      Reads true ('*' :: '*' :: '/' :: w) (.components :: ts)
  | run {begins w ts} (hw : w.head? ≠ some '*') (h : Reads false w ts) :
      Reads begins ('*' :: w) (.run :: ts)
  | any {begins w ts} (h : Reads false w ts) : Reads begins ('?' :: w) (.one .any :: ts)
  | char {begins c w ts} (hstar : c ≠ '*') (hquestion : c ≠ '?') (h : Reads (c == '/') w ts) :
      Reads begins (c :: w) (.one (signOf c) :: ts)

/-- Wildcards by how they begin. -/
theorem beginning_induction {motive : List Char → Prop} (nil : motive [])
    (last : motive ['*', '*'])
    (components : ∀ w, motive w → motive ('*' :: '*' :: '/' :: w))
    (refused : ∀ d w, d ≠ '/' → motive ('*' :: '*' :: d :: w))
    (run : ∀ w, w.head? ≠ some '*' → motive w → motive ('*' :: w))
    (any : ∀ w, motive w → motive ('?' :: w))
    (char : ∀ c w, c ≠ '*' → c ≠ '?' → motive w → motive (c :: w)) (w : List Char) :
    motive w := by
  induction hlength : w.length using Nat.strongRecOn generalizing w with
  | ind n ih =>
      subst hlength
      match w with
      | [] => exact nil
      | c :: w =>
          have hw : motive w := ih w.length (by simp) w rfl
          by_cases hstar : c = '*'
          · subst hstar
            match w with
            | [] => exact run [] (by simp) nil
            | d :: w =>
                by_cases hd : d = '*'
                · subst hd
                  match w with
                  | [] => exact last
                  | e :: w =>
                      by_cases he : e = '/'
                      · subst he
                        exact components w (ih w.length (by simp; omega) w rfl)
                      · exact refused e w he
                · exact run (d :: w) (by simpa using hd) hw
          · by_cases hquestion : c = '?'
            · subst hquestion
              exact any w hw
            · exact char c w hstar hquestion hw

/-! ## Escaped wildcards -/

section Tokens

variable {begins : Bool} {c : Char} {w rest : List Char} {ts : List Token}

/-- Escaping puts no sign but a bracket in front of a wildcard. -/
theorem exists_escape_eq (c : Char) (w : List Char) :
    ∃ d more, escape (c :: w) = d :: more ∧ (d = c ∨ d = '[') := by
  rw [escape_cons, escapeChar]
  split
  · exact ⟨'[', _, rfl, Or.inr rfl⟩
  · exact ⟨c, _, rfl, Or.inl rfl⟩

private theorem tokens?_run (hw : w.head? ≠ some '*') :
    tokens? (.outside begins) (escape ('*' :: w)) =
      (tokens? (.outside false) (escape w)).map (.run :: ·) := by
  have hstar : escape ('*' :: w) = '*' :: escape w := rfl
  have hhead : ∀ more, escape w ≠ '*' :: more := by
    intro more hmore
    cases w with
    | nil => cases hmore
    | cons c w =>
        obtain ⟨d, rest, hescape, hd⟩ := exists_escape_eq c w
        rw [hescape] at hmore
        cases hmore
        rcases hd with rfl | hd
        · exact hw rfl
        · cases hd
  rw [hstar, tokens?]
  · exact fun h => hhead _ h
  · exact fun more h => hhead _ h
  · exact fun more h => hhead _ h

private theorem tokens?_refused (hc : c ≠ '/') :
    tokens? (.outside begins) (escape ('*' :: '*' :: c :: w)) = none := by
  obtain ⟨d, rest, hescape, hd⟩ := exists_escape_eq c w
  have hstars : escape ('*' :: '*' :: c :: w) = '*' :: '*' :: d :: rest := by
    rw [← hescape]
    rfl
  have hslash : d ≠ '/' := by
    rcases hd with rfl | rfl
    · exact hc
    · decide
  rw [hstars, tokens?]
  · exact List.cons_ne_nil d rest
  · intro more h
    cases h
    exact hslash rfl

private theorem tokens?_char (hstar : c ≠ '*') (hquestion : c ≠ '?') :
    tokens? (.outside begins) (escape (c :: w)) =
      (tokens? (.outside (c == '/')) (escape w)).map (.one (signOf c) :: ·) := by
  by_cases hopen : c = '['
  · subst hopen
    rfl
  · by_cases hclose : c = ']'
    · subst hclose
      rfl
    · have hescape : escape (c :: w) = c :: escape w := by
        simp [escapeChar, hopen, hclose]
      have hsign : signOf c = .char c := by
        simp [signOf, hopen, hclose]
      rw [hescape, hsign, tokens?]
      all_goals simp [hstar, hquestion, hopen]

/-- The reader of globs takes an escaped wildcard apart as it falls into tokens. -/
theorem tokens?_escape_iff :
    tokens? (.outside begins) (escape w) = some ts ↔ Reads begins w ts := by
  constructor
  · intro h
    induction w using beginning_induction generalizing begins ts with
    | nil =>
        cases h
        exact .nil
    | last =>
        cases begins
        · cases h
        · cases h
          exact .last
    | components w ih =>
        cases begins
        · cases h
        · obtain ⟨more, hmore, rfl⟩ := Option.map_eq_some_iff.1 h
          exact .components (ih hmore)
    | refused d w hd =>
        rw [tokens?_refused hd] at h
        cases h
    | run w hw ih =>
        rw [tokens?_run hw] at h
        obtain ⟨more, hmore, rfl⟩ := Option.map_eq_some_iff.1 h
        exact .run hw (ih hmore)
    | any w ih =>
        obtain ⟨more, hmore, rfl⟩ := Option.map_eq_some_iff.1 h
        exact .any (ih hmore)
    | char c w hstar hquestion ih =>
        rw [tokens?_char hstar hquestion] at h
        obtain ⟨more, hmore, rfl⟩ := Option.map_eq_some_iff.1 h
        exact .char hstar hquestion (ih hmore)
  · intro h
    induction h with
    | nil => rfl
    | last => rfl
    | components _ ih => exact Option.map_eq_some_iff.2 ⟨_, ih, rfl⟩
    | run hw _ ih =>
        rw [tokens?_run hw]
        exact Option.map_eq_some_iff.2 ⟨_, ih, rfl⟩
    | any _ ih => exact Option.map_eq_some_iff.2 ⟨_, ih, rfl⟩
    | char hstar hquestion _ ih =>
        rw [tokens?_char hstar hquestion]
        exact Option.map_eq_some_iff.2 ⟨_, ih, rfl⟩

/-- The tokens of a wildcard are what the notation reads in it. -/
theorem ofText?_eq_some_iff {text : String} :
    ofText? text = some ts ↔ Reads true text.toList ts :=
  tokens?_escape_iff

end Tokens

/-! ## Refused wildcards -/

/-- Whether every two stars in a row fill a component of a wildcard. -/
def StarsFill (begins : Bool) (w : List Char) : Prop :=
  ∀ before after, w = before ++ '*' :: '*' :: after →
    ((before = [] ∧ begins = true) ∨ before.getLast? = some '/') ∧
      (after = [] ∨ after.head? = some '/')

section Stars

variable {begins : Bool} {c : Char} {w : List Char} {ts : List Token}

private theorem starsFill_cons (hc : c ≠ '*' ∨ w.head? ≠ some '*') :
    StarsFill begins (c :: w) ↔ StarsFill (c == '/') w := by
  constructor
  · intro h before after hw
    obtain ⟨hbefore, hafter⟩ := h (c :: before) after (by rw [hw, List.cons_append])
    refine ⟨?_, hafter⟩
    cases before with
    | nil => simpa using hbefore
    | cons d before => simpa using hbefore
  · intro h before after hw
    cases before with
    | nil =>
        cases hw
        simp at hc
    | cons d before =>
        cases hw
        obtain ⟨hbefore, hafter⟩ := h before after rfl
        refine ⟨?_, hafter⟩
        cases before with
        | nil => simpa using hbefore
        | cons e before => simpa using hbefore

private theorem starsFill_pair : StarsFill begins ('*' :: '*' :: w) ↔
    begins = true ∧ (w = [] ∨ ∃ more, w = '/' :: more ∧ StarsFill true more) := by
  constructor
  · intro h
    obtain ⟨hbefore, hafter⟩ := h [] w rfl
    refine ⟨by simpa using hbefore, ?_⟩
    apply hafter.imp_right
    intro hhead
    obtain ⟨more, rfl⟩ := List.head?_eq_some_iff.1 hhead
    refine ⟨more, rfl, fun before after hmore => ?_⟩
    obtain ⟨hslash, hafter⟩ := h ('*' :: '*' :: '/' :: before) after (by rw [hmore]; rfl)
    refine ⟨?_, hafter⟩
    cases before with
    | nil => exact Or.inl ⟨rfl, rfl⟩
    | cons d before => simpa using hslash
  · rintro ⟨hbegins, hw⟩ before after h
    match before, h with
    | [], h =>
        cases h
        refine ⟨Or.inl ⟨rfl, hbegins⟩, ?_⟩
        rcases hw with hw | ⟨more, hw, -⟩
        · exact Or.inl hw
        · exact Or.inr (by rw [hw]; rfl)
    | [_], h =>
        cases h
        simp at hw
    | _ :: _ :: before, h =>
        cases h
        rcases hw with hw | ⟨more, hw, hfill⟩
        · simp at hw
        · cases before with
          | nil => cases hw
          | cons d before =>
              cases hw
              obtain ⟨hslash, hafter⟩ := hfill before after rfl
              refine ⟨?_, hafter⟩
              cases before with
              | nil => exact Or.inr rfl
              | cons e before => simpa using hslash

/-- A wildcard falls into tokens exactly if no two stars in a row stand elsewhere. -/
theorem exists_reads_iff : (∃ ts, Reads begins w ts) ↔ StarsFill begins w := by
  constructor
  · rintro ⟨ts, h⟩
    induction h with
    | nil =>
        intro before after hw
        simp at hw
    | last => exact starsFill_pair.2 ⟨rfl, Or.inl rfl⟩
    | components _ ih => exact starsFill_pair.2 ⟨rfl, Or.inr ⟨_, rfl, ih⟩⟩
    | run hw _ ih => exact (starsFill_cons (Or.inr hw)).2 ih
    | any _ ih => exact (starsFill_cons (Or.inl (by decide))).2 ih
    | char hstar _ _ ih => exact (starsFill_cons (Or.inl hstar)).2 ih
  · intro h
    induction w using beginning_induction generalizing begins with
    | nil => exact ⟨_, .nil⟩
    | last =>
        obtain ⟨rfl, -⟩ := starsFill_pair.1 h
        exact ⟨_, .last⟩
    | components w ih =>
        obtain ⟨rfl, hnil | ⟨more, hmore, hfill⟩⟩ := starsFill_pair.1 h
        · cases hnil
        · cases hmore
          obtain ⟨ts, hts⟩ := ih hfill
          exact ⟨_, .components hts⟩
    | refused d w hd =>
        obtain ⟨-, hnil | ⟨more, hmore, -⟩⟩ := starsFill_pair.1 h
        · cases hnil
        · cases hmore
          exact absurd rfl hd
    | run w hw ih =>
        obtain ⟨ts, hts⟩ := ih ((starsFill_cons (Or.inr hw)).1 h)
        exact ⟨_, .run hw hts⟩
    | any w ih =>
        obtain ⟨ts, hts⟩ := ih ((starsFill_cons (Or.inl (by decide))).1 h)
        exact ⟨_, .any hts⟩
    | char c w hstar hquestion ih =>
        obtain ⟨ts, hts⟩ := ih ((starsFill_cons (Or.inl hstar)).1 h)
        exact ⟨_, .char hstar hquestion hts⟩

end Stars

/-- A wildcard is refused exactly if two stars in a row stand elsewhere than in a component of
their own. -/
theorem isSome_ofText?_iff {text : String} :
    (ofText? text).isSome = true ↔ StarsFill true text.toList := by
  simp only [Option.isSome_iff_exists, ofText?_eq_some_iff, exists_reads_iff]

end NavPolicy.Wildcard
