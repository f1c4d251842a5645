import NavPolicy.Regex.Search

/-!
# The meaning of expressions

`Matches` is given by rules.  This module turns each rule into an equivalence, so that a
match of a composed expression can be taken apart and put together again, and gives the
meaning of a list of expressions that stand one after another.
-/

namespace NavPolicy.Regex

variable {a b : Expr} {left m right : List Char}

theorem matches_empty_iff : Matches .empty left m right ↔ m = [] := by
  constructor
  · intro h
    cases h
    rfl
  · rintro rfl
    exact .empty

theorem matches_chars_iff {s : CharSet} :
    Matches (.chars s) left m right ↔ ∃ c, m = [c] ∧ s.contains c = true := by
  constructor
  · intro h
    cases h with
    | chars hc => exact ⟨_, rfl, hc⟩
  · rintro ⟨c, rfl, hc⟩
    exact .chars hc

/-- An assertion takes nothing and holds of the place where it stands. -/
theorem matches_look_iff {l : Look} :
    Matches (.look l) left m right ↔
      m = [] ∧ l.holds (Place.between left right) = true := by
  constructor
  · intro h
    cases h with
    | look hl => exact ⟨rfl, hl⟩
  · rintro ⟨rfl, hl⟩
    exact .look hl

/-- The second expression matches where the first one stops. -/
theorem matches_seq_iff :
    Matches (.seq a b) left m right ↔
      ∃ m₁ m₂, m = m₁ ++ m₂ ∧ Matches a left m₁ (m₂ ++ right) ∧
        Matches b (m₁.reverse ++ left) m₂ right := by
  constructor
  · intro h
    cases h with
    | seq ha hb => exact ⟨_, _, rfl, ha, hb⟩
  · rintro ⟨m₁, m₂, rfl, ha, hb⟩
    exact .seq ha hb

theorem matches_alt_iff :
    Matches (.alt a b) left m right ↔
      Matches a left m right ∨ Matches b left m right := by
  constructor
  · intro h
    cases h with
    | altLeft ha => exact Or.inl ha
    | altRight hb => exact Or.inr hb
  · rintro (ha | hb)
    · exact .altLeft ha
    · exact .altRight hb

theorem repeats_zero_iff : Repeats a 0 left m right ↔ m = [] := by
  constructor
  · intro h
    cases h
    rfl
  · rintro rfl
    exact .zero

/-- One more round is a match and the rounds behind it. -/
theorem repeats_succ_iff {k : Nat} :
    Repeats a (k + 1) left m right ↔
      ∃ m₁ m₂, m = m₁ ++ m₂ ∧ Matches a left m₁ (m₂ ++ right) ∧
        Repeats a k (m₁.reverse ++ left) m₂ right := by
  constructor
  · intro h
    cases h with
    | succ ha hk => exact ⟨_, _, rfl, ha, hk⟩
  · rintro ⟨m₁, m₂, rfl, ha, hk⟩
    exact .succ ha hk

/-- A repetition takes any number of rounds. -/
theorem matches_star_iff :
    Matches (.star a) left m right ↔ ∃ k, Repeats a k left m right := by
  constructor
  · intro h
    cases h with
    | star hk => exact ⟨_, hk⟩
  · rintro ⟨k, hk⟩
    exact .star hk

/-- A counted repetition takes a number of rounds within its bounds. -/
theorem matches_counted_iff {least : Nat} {most : Option Nat} :
    Matches (.counted a least most) left m right ↔
      ∃ k, least ≤ k ∧ (∀ n ∈ most, k ≤ n) ∧ Repeats a k left m right := by
  constructor
  · intro h
    cases h with
    | counted hleast hmost hk => exact ⟨_, hleast, hmost, hk⟩
  · rintro ⟨k, hleast, hmost, hk⟩
    exact .counted hleast hmost hk

/-- Rounds that read nothing may be left out, so a repetition that reads something
begins with a round that does. -/
theorem exists_round_of_repeats {k : Nat} {c : Char}
    (h : Repeats a k left (c :: m) right) :
    ∃ m₁ m₂, m = m₁ ++ m₂ ∧ Matches a left (c :: m₁) (m₂ ++ right) ∧
      Matches (.star a) (m₁.reverse ++ c :: left) m₂ right := by
  induction k with
  | zero =>
      rw [repeats_zero_iff] at h
      cases h
  | succ k ih =>
      obtain ⟨n₁, n₂, heq, hround, hrest⟩ := repeats_succ_iff.1 h
      rcases List.cons_eq_append_iff.1 heq with ⟨rfl, rfl⟩ | ⟨m₁, rfl, rfl⟩
      · exact ih hrest
      · refine ⟨m₁, n₂, rfl, hround, ?_⟩
        rw [matches_star_iff]
        exact ⟨k, by simpa using hrest⟩

/-- A repetition that reads something is one round that does and a repetition. -/
theorem matches_star_cons_iff {c : Char} :
    Matches (.star a) left (c :: m) right ↔
      ∃ m₁ m₂, m = m₁ ++ m₂ ∧ Matches a left (c :: m₁) (m₂ ++ right) ∧
        Matches (.star a) (m₁.reverse ++ c :: left) m₂ right := by
  constructor
  · intro h
    obtain ⟨k, hk⟩ := matches_star_iff.1 h
    exact exists_round_of_repeats hk
  · rintro ⟨m₁, m₂, rfl, hround, hrest⟩
    obtain ⟨k, hk⟩ := matches_star_iff.1 hrest
    refine matches_star_iff.2 ⟨k + 1, repeats_succ_iff.2 ⟨c :: m₁, m₂, rfl, hround, ?_⟩⟩
    simpa using hk

/-- For a text that is not empty, one round or more is any number of rounds. -/
theorem matches_counted_one_cons_iff {c : Char} :
    Matches (.counted a 1 none) left (c :: m) right ↔
      Matches (.star a) left (c :: m) right := by
  rw [matches_counted_iff, matches_star_iff]
  constructor
  · rintro ⟨k, -, -, hk⟩
    exact ⟨k, hk⟩
  · rintro ⟨k, hk⟩
    refine ⟨k, ?_, by simp, hk⟩
    cases k with
    | zero => cases repeats_zero_iff.1 hk
    | succ k => omega

/-- One round or more reads nothing exactly if a round can. -/
theorem matches_counted_one_nil_iff :
    Matches (.counted a 1 none) left [] right ↔ Matches a left [] right := by
  rw [matches_counted_iff]
  constructor
  · rintro ⟨k, hk, -, h⟩
    obtain ⟨k, rfl⟩ := Nat.exists_eq_add_of_le' hk
    obtain ⟨m₁, m₂, heq, hround, -⟩ := repeats_succ_iff.1 h
    obtain ⟨rfl, rfl⟩ := List.append_eq_nil_iff.1 heq.symm
    simpa using hround
  · intro h
    exact ⟨1, Nat.le_refl 1, by simp, repeats_succ_iff.2 ⟨[], [], rfl, by simpa using h, .zero⟩⟩

/-! ## Expressions one after another -/

def MatchesAll : List Expr → List Char → List Char → List Char → Prop
  | [], _, m, _ => m = []
  | e :: es, left, m, right =>
      ∃ m₁ m₂, m = m₁ ++ m₂ ∧ Matches e left m₁ (m₂ ++ right) ∧
        MatchesAll es (m₁.reverse ++ left) m₂ right

theorem matchesAll_nil_iff : MatchesAll [] left m right ↔ m = [] := Iff.rfl

/-- The first expression takes a front of the text and leaves the rest to the others. -/
theorem matchesAll_cons_iff {e : Expr} {es : List Expr} :
    MatchesAll (e :: es) left m right ↔
      ∃ m₁ m₂, m = m₁ ++ m₂ ∧ Matches e left m₁ (m₂ ++ right) ∧
        MatchesAll es (m₁.reverse ++ left) m₂ right := Iff.rfl

/-- Two lists of expressions share a text between them. -/
theorem matchesAll_append_iff {es fs : List Expr} :
    MatchesAll (es ++ fs) left m right ↔
      ∃ m₁ m₂, m = m₁ ++ m₂ ∧ MatchesAll es left m₁ (m₂ ++ right) ∧
        MatchesAll fs (m₁.reverse ++ left) m₂ right := by
  induction es generalizing left m with
  | nil =>
      simp only [List.nil_append, matchesAll_nil_iff]
      constructor
      · intro h
        exact ⟨[], m, rfl, rfl, h⟩
      · rintro ⟨_, m₂, rfl, rfl, h⟩
        exact h
  | cons e es ih =>
      simp only [List.cons_append, matchesAll_cons_iff, ih]
      constructor
      · rintro ⟨m₁, _, rfl, he, m₂, m₃, rfl, hes, hfs⟩
        refine ⟨m₁ ++ m₂, m₃, by simp, ⟨m₁, m₂, rfl, by simpa using he, hes⟩, ?_⟩
        simpa using hfs
      · rintro ⟨_, m₃, rfl, ⟨m₁, m₂, rfl, he, hes⟩, hfs⟩
        refine ⟨m₁, m₂ ++ m₃, by simp, by simpa using he, m₂, m₃, rfl, hes, ?_⟩
        simpa using hfs

theorem matchesAll_singleton_iff {e : Expr} :
    MatchesAll [e] left m right ↔ Matches e left m right := by
  simp [matchesAll_cons_iff, matchesAll_nil_iff]

/-- What holds of the members and survives joining holds of the joined list. -/
theorem joinHalves_induction {α : Type} {join : α → α → α} {unit : α} {motive : α → Prop}
    (hunit : motive unit) (hjoin : ∀ x y, motive x → motive y → motive (join x y))
    (steps : Nat) {es : List α} (h : ∀ e ∈ es, motive e) :
    motive (joinHalves join unit steps es) := by
  induction steps generalizing es with
  | zero =>
      match es with
      | [] => exact hunit
      | [e] => exact h e (by simp)
      | e :: f :: es =>
          have hfold : ∀ fs : List α, (∀ g ∈ fs, motive g) → motive (fs.foldr join unit) := by
            intro fs hfs
            induction fs with
            | nil => exact hunit
            | cons g fs ih =>
                rw [List.forall_mem_cons] at hfs
                exact hjoin g _ hfs.1 (ih hfs.2)
          exact hfold (e :: f :: es) h
  | succ steps ih =>
      match es with
      | [] => exact hunit
      | [e] => exact h e (by simp)
      | e :: f :: es =>
          rw [joinHalves.eq_4 _ _ _ _ (by simp) (by simp)]
          exact hjoin _ _ (ih fun g hg => h g (List.mem_of_mem_take hg))
            (ih fun g hg => h g (List.mem_of_mem_drop hg))

/-- How a list is halved does not matter for what is joined. -/
theorem matches_joinHalves_iff (steps : Nat) (es : List Expr) {left m right : List Char} :
    Matches (joinHalves .seq .empty steps es) left m right ↔
      MatchesAll es left m right := by
  induction steps generalizing es left m right with
  | zero =>
      match es with
      | [] => exact matches_empty_iff
      | [e] => exact matchesAll_singleton_iff.symm
      | e :: f :: es =>
          have hfold : ∀ (fs : List Expr) {left m : List Char},
              Matches (fs.foldr .seq .empty) left m right ↔ MatchesAll fs left m right := by
            intro fs
            induction fs with
            | nil => exact matches_empty_iff
            | cons f fs ih =>
                intro left m
                rw [List.foldr_cons, matches_seq_iff, matchesAll_cons_iff]
                simp only [ih]
          exact hfold (e :: f :: es)
  | succ steps ih =>
      match es with
      | [] => exact matches_empty_iff
      | [e] => exact matchesAll_singleton_iff.symm
      | e :: f :: es =>
          rw [joinHalves.eq_4 _ _ _ _ (by simp) (by simp), matches_seq_iff]
          simp only [ih]
          rw [← matchesAll_append_iff, List.take_append_drop]

/-- A repetition asks only what one round matches. -/
theorem repeats_congr {k : Nat}
    (h : ∀ left m right, Matches a left m right ↔ Matches b left m right) :
    Repeats a k left m right ↔ Repeats b k left m right := by
  induction k generalizing left m with
  | zero => rw [repeats_zero_iff, repeats_zero_iff]
  | succ k ih => simp only [repeats_succ_iff, h, ih]

theorem matchesAll_replicate_iff {k : Nat} :
    MatchesAll (List.replicate k a) left m right ↔ Repeats a k left m right := by
  induction k generalizing left m with
  | zero => exact repeats_zero_iff.symm
  | succ k ih =>
      rw [List.replicate_succ, matchesAll_cons_iff, repeats_succ_iff]
      simp only [ih]

theorem repeats_add_iff {j k : Nat} :
    Repeats a (j + k) left m right ↔
      ∃ m₁ m₂, m = m₁ ++ m₂ ∧ Repeats a j left m₁ (m₂ ++ right) ∧
        Repeats a k (m₁.reverse ++ left) m₂ right := by
  simp only [← matchesAll_replicate_iff, ← List.replicate_append_replicate, matchesAll_append_iff]

/-- Rounds each of which may be left out are any smaller number of rounds. -/
theorem matchesAll_replicate_optional_iff {n : Nat} :
    MatchesAll (List.replicate n (.alt .empty a)) left m right ↔
      ∃ k, k ≤ n ∧ Repeats a k left m right := by
  induction n generalizing left m with
  | zero => simp [matchesAll_nil_iff, repeats_zero_iff]
  | succ n ih =>
      rw [List.replicate_succ, matchesAll_cons_iff]
      simp only [matches_alt_iff, matches_empty_iff, ih]
      constructor
      · rintro ⟨_, m₂, rfl, rfl | hround, k, hk, hrest⟩
        · exact ⟨k, by omega, by simpa using hrest⟩
        · exact ⟨k + 1, by omega, repeats_succ_iff.2 ⟨_, m₂, rfl, hround, hrest⟩⟩
      · rintro ⟨k, hk, h⟩
        cases k with
        | zero =>
            exact ⟨[], m, rfl, Or.inl rfl, 0, Nat.zero_le n, by simpa using h⟩
        | succ k =>
            obtain ⟨m₁, m₂, rfl, hround, hrest⟩ := repeats_succ_iff.1 h
            exact ⟨m₁, m₂, rfl, Or.inr hround, k, by omega, hrest⟩

/-- Expressions joined in halves match like the list of them. -/
theorem matches_concat_iff {es : List Expr} :
    Matches (.concat es) left m right ↔ MatchesAll es left m right :=
  matches_joinHalves_iff 64 es

end NavPolicy.Regex
