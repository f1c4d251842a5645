import NavPolicy.Proofs.Regex.Meaning

/-!
# The search decides the meaning

`Expr.isFoundIn` moves marks through an expression and never looks back, while
`Expr.FoundIn` speaks of parts of the text.  The invariant that joins the two is
`Marked.Resumes`: what the partial matches that have just read a character still have to
read.  One character moves it as it moves the marks (`resumes_shift_iff`), and so the
search finds an expression exactly where it occurs.
-/

namespace NavPolicy.Regex

/-- A text that begins with `c` is split in front of `c` or behind it. -/
theorem exists_split_cons_iff {c : Char} {n : List Char} {P : List Char → List Char → Prop} :
    (∃ n₁ n₂, c :: n = n₁ ++ n₂ ∧ P n₁ n₂) ↔
      P [] (c :: n) ∨ ∃ n₁ n₂, n = n₁ ++ n₂ ∧ P (c :: n₁) n₂ := by
  constructor
  · rintro ⟨n₁, n₂, heq, h⟩
    rcases List.cons_eq_append_iff.1 heq with ⟨rfl, rfl⟩ | ⟨n₁, rfl, rfl⟩
    · exact Or.inl h
    · exact Or.inr ⟨n₁, n₂, rfl, h⟩
  · rintro (h | ⟨n₁, n₂, rfl, h⟩)
    · exact ⟨[], c :: n, rfl, h⟩
    · exact ⟨c :: n₁, n₂, rfl, h⟩

theorem exists_skip_cons_iff {c : Char} {n : List Char}
    {P : List Char → List Char → List Char → Prop} :
    (∃ skipped n₁ n₂, c :: n = skipped ++ (n₁ ++ n₂) ∧ P skipped n₁ n₂) ↔
      (∃ n₁ n₂, c :: n = n₁ ++ n₂ ∧ P [] n₁ n₂) ∨
        ∃ skipped n₁ n₂, n = skipped ++ (n₁ ++ n₂) ∧ P (c :: skipped) n₁ n₂ := by
  constructor
  · rintro ⟨skipped, n₁, n₂, heq, h⟩
    rcases List.cons_eq_append_iff.1 heq with ⟨rfl, hn⟩ | ⟨skipped, rfl, rfl⟩
    · exact Or.inl ⟨n₁, n₂, hn.symm, h⟩
    · exact Or.inr ⟨skipped, n₁, n₂, rfl, h⟩
  · rintro (⟨n₁, n₂, heq, h⟩ | ⟨skipped, n₁, n₂, rfl, h⟩)
    · exact ⟨[], n₁, n₂, heq, h⟩
    · exact ⟨c :: skipped, n₁, n₂, rfl, h⟩

namespace Marked

/-- The expression with its marks taken away. -/
def plain : Marked → Expr
  | empty => .empty
  | chars _ s => .chars s
  | look l => .look l
  | seq a b => .seq a.plain b.plain
  | alt a b => .alt a.plain b.plain
  | star a => .star a.plain
  | plus a => .counted a.plain 1 none

/-- Some marked partial match, which ends at the text on the left, becomes a match by
reading `n`. -/
def Resumes : Marked → List Char → List Char → List Char → Prop
  | empty, _, _, _ => False
  | chars mark _, _, n, _ => mark = true ∧ n = []
  | look _, _, _, _ => False
  | seq a b, left, n, right =>
      Resumes b left n right ∨
        ∃ n₁ n₂, n = n₁ ++ n₂ ∧ Resumes a left n₁ (n₂ ++ right) ∧
          Matches b.plain (n₁.reverse ++ left) n₂ right
  | alt a b, left, n, right => Resumes a left n right ∨ Resumes b left n right
  | star a, left, n, right =>
      ∃ n₁ n₂, n = n₁ ++ n₂ ∧ Resumes a left n₁ (n₂ ++ right) ∧
        Matches (.star a.plain) (n₁.reverse ++ left) n₂ right
  | plus a, left, n, right =>
      ∃ n₁ n₂, n = n₁ ++ n₂ ∧ Resumes a left n₁ (n₂ ++ right) ∧
        Matches (.star a.plain) (n₁.reverse ++ left) n₂ right

/-- Reading a character moves marks only. -/
@[simp]
theorem plain_shift (p : Place) (c : Char) (enter : Bool) (e : Marked) :
    (shift p c enter e).plain = e.plain := by
  induction e generalizing enter with
  | empty => rfl
  | chars mark s => rfl
  | look l => rfl
  | seq a b iha ihb => simp only [shift, plain, iha, ihb]
  | alt a b iha ihb => simp only [shift, plain, iha, ihb]
  | star a iha => simp only [shift, plain, iha]
  | plus a iha => simp only [shift, plain, iha]

/-- A marked expression is nullable at a place if its plain form matches the empty text there. -/
theorem nullable_iff (e : Marked) (left right : List Char) :
    nullable (Place.between left right) e = true ↔ Matches e.plain left [] right := by
  induction e with
  | empty => simp [nullable, plain, matches_empty_iff]
  | chars mark s => simp [nullable, plain, matches_chars_iff]
  | look l => simp [nullable, plain, matches_look_iff]
  | seq a b iha ihb => simp [nullable, plain, matches_seq_iff, iha, ihb, and_assoc]
  | alt a b iha ihb => simp [nullable, plain, matches_alt_iff, iha, ihb]
  | star a iha =>
      simp only [nullable, plain, true_iff]
      exact .star .zero
  | plus a iha => simp only [nullable, plain, matches_counted_one_nil_iff, iha]

/-- A partial match that is complete has nothing left to read. -/
theorem final_iff (e : Marked) (left right : List Char) :
    final (Place.between left right) e = true ↔ e.Resumes left [] right := by
  have hstar : ∀ a : Expr, Matches (.star a) left [] right := fun a => .star .zero
  induction e with
  | empty => simp [final, Resumes]
  | chars mark s => simp [final, Resumes]
  | look l => simp [final, Resumes]
  | seq a b iha ihb =>
      simp [final, Resumes, iha, ihb, nullable_iff, and_assoc]
  | alt a b iha ihb => simp [final, Resumes, iha, ihb]
  | star a iha => simp [final, Resumes, iha, hstar, and_assoc]
  | plus a iha => simp [final, Resumes, iha, hstar, and_assoc]

/-- What resumes inside a repetition after a character: a round that had begun, or a new
round.  Both kinds of repetition share it. -/
private theorem resumes_round_iff (a : Marked) (left n right : List Char) (c : Char)
    (enter : Bool)
    (ih : ∀ {n₁ n₂ : List Char},
      (shift (Place.between left (c :: (n ++ right))) c
          (enter || final (Place.between left (c :: (n ++ right))) a) a).Resumes
          (c :: left) n₁ (n₂ ++ right) ↔
        a.Resumes left (c :: n₁) (n₂ ++ right) ∨
          (enter || final (Place.between left (c :: (n ++ right))) a) = true ∧
            Matches a.plain left (c :: n₁) (n₂ ++ right)) :
    (∃ n₁ n₂, n = n₁ ++ n₂ ∧
        (shift (Place.between left (c :: (n ++ right))) c
          (enter || final (Place.between left (c :: (n ++ right))) a) a).Resumes
          (c :: left) n₁ (n₂ ++ right) ∧
        Matches (.star a.plain) (n₁.reverse ++ c :: left) n₂ right) ↔
      (∃ n₁ n₂, c :: n = n₁ ++ n₂ ∧ a.Resumes left n₁ (n₂ ++ right) ∧
        Matches (.star a.plain) (n₁.reverse ++ left) n₂ right) ∨
      enter = true ∧ Matches (.star a.plain) left (c :: n) right := by
  have hfinal := final_iff a left (c :: (n ++ right))
  simp only [ih, Bool.or_eq_true, hfinal, exists_split_cons_iff, List.cons_append,
    List.reverse_cons, List.reverse_nil, List.nil_append, List.append_assoc,
    matches_star_cons_iff]
  constructor
  · rintro ⟨n₁, n₂, hn, hr | ⟨he | hf, hm⟩, hstar⟩
    · exact Or.inl (Or.inr ⟨n₁, n₂, hn, hr, hstar⟩)
    · exact Or.inr ⟨he, n₁, n₂, hn, hm, hstar⟩
    · exact Or.inl (Or.inl ⟨hf, n₁, n₂, hn, hm, hstar⟩)
  · rintro ((⟨hf, n₁, n₂, hn, hm, hstar⟩ | ⟨n₁, n₂, hn, hr, hstar⟩) |
      ⟨he, n₁, n₂, hn, hm, hstar⟩)
    · exact ⟨n₁, n₂, hn, Or.inr ⟨Or.inr hf, hm⟩, hstar⟩
    · exact ⟨n₁, n₂, hn, Or.inl hr, hstar⟩
    · exact ⟨n₁, n₂, hn, Or.inr ⟨Or.inl he, hm⟩, hstar⟩

/-- Reading one character: what had begun goes on, and where `enter` says so a match may
begin with the character. -/
theorem resumes_shift_iff (e : Marked) (left n right : List Char) (c : Char) (enter : Bool) :
    (shift (Place.between left (c :: (n ++ right))) c enter e).Resumes (c :: left) n right ↔
      e.Resumes left (c :: n) right ∨
        enter = true ∧ Matches e.plain left (c :: n) right := by
  -- The place is the same for every part: it shows the character and what is left of it.
  have hplace : ∀ n right : List Char, Place.between left (c :: (n ++ right)) =
      ⟨left.head?, some c⟩ := fun _ _ => rfl
  induction e generalizing n right enter with
  | empty => simp [shift, Resumes, plain, matches_empty_iff]
  | chars mark s =>
      simp only [shift, Resumes, plain, matches_chars_iff, Bool.and_eq_true]
      constructor
      · rintro ⟨⟨he, hc⟩, rfl⟩
        exact Or.inr ⟨he, c, rfl, hc⟩
      · rintro (⟨-, hn⟩ | ⟨he, d, hd, hc⟩)
        · cases hn
        · cases hd
          exact ⟨⟨he, hc⟩, rfl⟩
  | look l => simp [shift, Resumes, plain, matches_look_iff]
  | seq a b iha ihb =>
      have hfinal := final_iff a left (c :: (n ++ right))
      have hnullable := nullable_iff a left (c :: (n ++ right))
      rw [hplace] at hfinal hnullable ⊢
      simp only [hplace] at iha ihb
      simp only [shift, Resumes, plain, plain_shift, iha, ihb, Bool.or_eq_true, Bool.and_eq_true,
        hfinal, hnullable, matches_seq_iff, exists_split_cons_iff, List.cons_append,
        List.reverse_cons, List.reverse_nil, List.nil_append, List.append_assoc]
      constructor
      · rintro ((hb | ⟨⟨he, ha⟩ | ha, hb⟩) | ⟨n₁, n₂, hn, ha | ⟨he, ha⟩, hb⟩)
        · exact Or.inl (Or.inl hb)
        · exact Or.inr ⟨he, Or.inl ⟨ha, hb⟩⟩
        · exact Or.inl (Or.inr (Or.inl ⟨ha, hb⟩))
        · exact Or.inl (Or.inr (Or.inr ⟨n₁, n₂, hn, ha, hb⟩))
        · exact Or.inr ⟨he, Or.inr ⟨n₁, n₂, hn, ha, hb⟩⟩
      · rintro ((hb | ⟨ha, hb⟩ | ⟨n₁, n₂, hn, ha, hb⟩) | ⟨he, ⟨ha, hb⟩ | ⟨n₁, n₂, hn, ha, hb⟩⟩)
        · exact Or.inl (Or.inl hb)
        · exact Or.inl (Or.inr ⟨Or.inr ha, hb⟩)
        · exact Or.inr ⟨n₁, n₂, hn, Or.inl ha, hb⟩
        · exact Or.inl (Or.inr ⟨Or.inl ⟨he, ha⟩, hb⟩)
        · exact Or.inr ⟨n₁, n₂, hn, Or.inr ⟨he, ha⟩, hb⟩
  | alt a b iha ihb =>
      simp only [hplace] at iha ihb ⊢
      simp only [shift, Resumes, plain, iha, ihb, matches_alt_iff, and_or_left]
      exact or_or_or_comm
  | star a iha =>
      simp only [shift, Resumes, plain, plain_shift]
      exact resumes_round_iff a left n right c enter fun {n₁ n₂} => iha n₁ (n₂ ++ right) _
  | plus a iha =>
      simp only [shift, Resumes, plain, plain_shift, matches_counted_one_cons_iff]
      exact resumes_round_iff a left n right c enter fun {n₁ n₂} => iha n₁ (n₂ ++ right) _

/-- The search succeeds if something that has begun can be finished, or if a match begins
later. -/
theorem scan_iff (e : Marked) (left right : List Char) :
    e.scan left.head? right = true ↔
      (∃ n r, right = n ++ r ∧ e.Resumes left n r) ∨
        ∃ skipped n r, right = skipped ++ (n ++ r) ∧
          Matches e.plain (skipped.reverse ++ left) n r := by
  induction right generalizing e left with
  | nil =>
      have hnullable := nullable_iff e left []
      have hfinal := final_iff e left []
      simp only [scan, Bool.or_eq_true]
      change nullable (Place.between left []) e = true ∨ final (Place.between left []) e = true ↔ _
      rw [hnullable, hfinal]
      constructor
      · rintro (h | h)
        · exact Or.inr ⟨[], [], [], rfl, h⟩
        · exact Or.inl ⟨[], [], rfl, h⟩
      · rintro (⟨n, r, heq, h⟩ | ⟨s, n, r, heq, h⟩)
        · obtain ⟨rfl, rfl⟩ := List.append_eq_nil_iff.1 heq.symm
          exact Or.inr h
        · obtain ⟨rfl, hnr⟩ := List.append_eq_nil_iff.1 heq.symm
          obtain ⟨rfl, rfl⟩ := List.append_eq_nil_iff.1 hnr
          exact Or.inl h
  | cons c rest ih =>
      have hnullable := nullable_iff e left (c :: rest)
      have hfinal := final_iff e left (c :: rest)
      have hnext := ih (shift (Place.between left (c :: rest)) c true e) (c :: left)
      have hshift : ∀ n r, rest = n ++ r →
          ((shift (Place.between left (c :: rest)) c true e).Resumes (c :: left) n r ↔
            e.Resumes left (c :: n) r ∨ Matches e.plain left (c :: n) r) := by
        rintro n r rfl
        simpa using resumes_shift_iff e left n r c true
      simp only [scan, Bool.or_eq_true]
      change (nullable (Place.between left (c :: rest)) e = true ∨
        final (Place.between left (c :: rest)) e = true) ∨
        (shift (Place.between left (c :: rest)) c true e).scan (c :: left).head? rest = true ↔ _
      rw [hnullable, hfinal, hnext]
      simp only [plain_shift, exists_skip_cons_iff, exists_split_cons_iff, List.reverse_cons,
        List.reverse_nil, List.nil_append, List.append_assoc, List.cons_append]
      constructor
      · rintro ((h | h) | ⟨n, r, heq, h⟩ | h)
        · exact Or.inr (Or.inl (Or.inl h))
        · exact Or.inl (Or.inl h)
        · rcases (hshift n r heq).1 h with h | h
          · exact Or.inl (Or.inr ⟨n, r, heq, h⟩)
          · exact Or.inr (Or.inl (Or.inr ⟨n, r, heq, h⟩))
        · exact Or.inr (Or.inr h)
      · rintro ((h | ⟨n, r, heq, h⟩) | (h | ⟨n, r, heq, h⟩) | h)
        · exact Or.inl (Or.inr h)
        · exact Or.inr (Or.inl ⟨n, r, heq, (hshift n r heq).2 (Or.inl h)⟩)
        · exact Or.inl (Or.inl h)
        · exact Or.inr (Or.inl ⟨n, r, heq, (hshift n r heq).2 (Or.inr h)⟩)
        · exact Or.inr (Or.inr h)

/-! ## Counted repetitions written out -/

private theorem plain_joinHalves (steps : Nat) (es : List Marked) :
    (joinHalves seq empty steps es).plain =
      joinHalves .seq .empty steps (es.map plain) := by
  induction steps generalizing es with
  | zero =>
      match es with
      | [] => rfl
      | [e] => rfl
      | e :: f :: es =>
          have hfold : ∀ fs : List Marked,
              (fs.foldr seq empty).plain = (fs.map plain).foldr .seq .empty := by
            intro fs
            induction fs with
            | nil => rfl
            | cons f fs ih => simp only [List.foldr_cons, List.map_cons, plain, ih]
          exact hfold (e :: f :: es)
  | succ steps ih =>
      match es with
      | [] => rfl
      | [e] => rfl
      | e :: f :: es =>
          rw [List.map_cons, List.map_cons, joinHalves.eq_4 _ _ _ _ (by simp) (by simp),
            joinHalves.eq_4 _ _ _ _ (by simp) (by simp), plain, ih, ih, List.map_take,
            List.map_drop]
          simp only [List.map_cons, List.length_cons, List.length_map]

theorem plain_concat (es : List Marked) :
    (concat es).plain = .concat (es.map plain) :=
  plain_joinHalves 64 es

/-- Nothing in the expression has been read yet. -/
def IsFresh (e : Marked) : Prop := ∀ left n right, ¬e.Resumes left n right

theorem IsFresh.seq {a b : Marked} (ha : a.IsFresh) (hb : b.IsFresh) : (seq a b).IsFresh := by
  rintro left n right (h | ⟨n₁, n₂, -, h, -⟩)
  · exact hb _ _ _ h
  · exact ha _ _ _ h

private theorem isFresh_concat {es : List Marked} (h : ∀ e ∈ es, e.IsFresh) : (concat es).IsFresh :=
  joinHalves_induction (fun _ _ _ h => h) (fun _ _ => IsFresh.seq) 64 h

theorem repeated_some (a : Marked) (least most : Nat) :
    repeated a least (some most) =
      concat (List.replicate least a ++ List.replicate (most - least) (alt empty a)) := by
  cases least <;> rfl

private theorem IsFresh.repeated {a : Marked} (ha : a.IsFresh) (least : Nat) (most : Option Nat) :
    (repeated a least most).IsFresh := by
  have hstar : (star a).IsFresh := by
    rintro left n right ⟨n₁, n₂, -, h, -⟩
    exact ha _ _ _ h
  have hplus : (plus a).IsFresh := by
    rintro left n right ⟨n₁, n₂, -, h, -⟩
    exact ha _ _ _ h
  have halt : (alt empty a).IsFresh := by
    rintro left n right (h | h)
    · exact h
    · exact ha _ _ _ h
  match least, most with
  | 0, none => exact hstar
  | least + 1, none =>
      apply isFresh_concat
      intro e he
      rcases List.mem_append.1 he with he | he
      · rw [List.eq_of_mem_replicate he]
        exact ha
      · rw [List.mem_singleton.1 he]
        exact hplus
  | least, some most =>
      rw [repeated_some]
      apply isFresh_concat
      intro e he
      rcases List.mem_append.1 he with he | he
      · rw [List.eq_of_mem_replicate he]
        exact ha
      · rw [List.eq_of_mem_replicate he]
        exact halt

theorem isFresh_unmarked (e : Expr) : e.unmarked.IsFresh := by
  induction e with
  | empty => exact fun _ _ _ h => h
  | chars s => exact fun _ _ _ h => Bool.false_ne_true h.1
  | look l => exact fun _ _ _ h => h
  | seq a b iha ihb => exact iha.seq ihb
  | alt a b iha ihb =>
      rintro left n right (h | h)
      · exact iha _ _ _ h
      · exact ihb _ _ _ h
  | star a iha =>
      rintro left n right ⟨n₁, n₂, -, h, -⟩
      exact iha _ _ _ h
  | counted a least most iha => exact iha.repeated least most

end Marked

def Expr.InOrder : Expr → Prop
  | empty => True
  | chars _ => True
  | look _ => True
  | seq a b => a.InOrder ∧ b.InOrder
  | alt a b => a.InOrder ∧ b.InOrder
  | star a => a.InOrder
  | counted a least most => a.InOrder ∧ ∀ n ∈ most, least ≤ n

theorem Expr.inOrder_concat {es : List Expr} (h : ∀ e ∈ es, e.InOrder) :
    (Expr.concat es).InOrder :=
  joinHalves_induction trivial (fun _ _ ha hb => ⟨ha, hb⟩) 64 h

/-- A counted repetition that is written out matches what it matched. -/
theorem matches_plain_repeated_iff (a : Marked) {least : Nat} {most : Option Nat}
    (horder : ∀ n ∈ most, least ≤ n) {left m right : List Char} :
    Matches (a.repeated least most).plain left m right ↔
      Matches (.counted a.plain least most) left m right := by
  rw [matches_counted_iff]
  match least, most with
  | 0, none =>
      change Matches (.star a.plain) left m right ↔ _
      simp [matches_star_iff]
  | least + 1, none =>
      change Matches (Marked.concat _).plain left m right ↔ _
      rw [Marked.plain_concat, matches_concat_iff, List.map_append, List.map_replicate,
        matchesAll_append_iff]
      simp only [List.map_cons, List.map_nil, Marked.plain, matchesAll_replicate_iff,
        matchesAll_singleton_iff, matches_counted_iff]
      constructor
      · rintro ⟨m₁, m₂, rfl, hj, k, hk, -, hrest⟩
        exact ⟨least + k, by omega, by simp, repeats_add_iff.2 ⟨m₁, m₂, rfl, hj, hrest⟩⟩
      · rintro ⟨k, hk, -, h⟩
        obtain ⟨j, rfl⟩ := Nat.exists_eq_add_of_le (show least ≤ k by omega)
        obtain ⟨m₁, m₂, rfl, hj, hrest⟩ := repeats_add_iff.1 h
        exact ⟨m₁, m₂, rfl, hj, j, by omega, by simp, hrest⟩
  | least, some most =>
      have hle : least ≤ most := horder most rfl
      rw [Marked.repeated_some, Marked.plain_concat, matches_concat_iff, List.map_append,
        List.map_replicate, List.map_replicate, matchesAll_append_iff]
      simp only [Marked.plain, matchesAll_replicate_optional_iff]
      simp only [matchesAll_replicate_iff]
      constructor
      · rintro ⟨m₁, m₂, rfl, hj, k, hk, hrest⟩
        refine ⟨least + k, by omega, ?_, repeats_add_iff.2 ⟨m₁, m₂, rfl, hj, hrest⟩⟩
        rintro n ⟨rfl⟩
        omega
      · rintro ⟨k, hk, hmost, h⟩
        have hkm : k ≤ most := hmost most rfl
        obtain ⟨j, rfl⟩ := Nat.exists_eq_add_of_le hk
        obtain ⟨m₁, m₂, rfl, hj, hrest⟩ := repeats_add_iff.1 h
        exact ⟨m₁, m₂, rfl, hj, j, by omega, hrest⟩

theorem matches_plain_unmarked_iff {e : Expr} (horder : e.InOrder) {left m right : List Char} :
    Matches e.unmarked.plain left m right ↔ Matches e left m right := by
  induction e generalizing left m right with
  | empty => rfl
  | chars s => rfl
  | look l => rfl
  | seq a b iha ihb =>
      simp only [Expr.unmarked, Marked.plain, matches_seq_iff, iha horder.1, ihb horder.2]
  | alt a b iha ihb =>
      simp only [Expr.unmarked, Marked.plain, matches_alt_iff, iha horder.1, ihb horder.2]
  | star a iha =>
      simp only [Expr.unmarked, Marked.plain, matches_star_iff]
      simp only [repeats_congr fun _ _ _ => iha horder]
  | counted a least most iha =>
      rw [Expr.unmarked, matches_plain_repeated_iff _ horder.2, matches_counted_iff,
        matches_counted_iff]
      simp only [repeats_congr fun _ _ _ => iha horder.1]

/-- The search finds an expression exactly in the texts that hold a match of it. -/
theorem isFoundIn_iff {e : Expr} (horder : e.InOrder) (text : List Char) :
    e.isFoundIn text = true ↔ e.FoundIn text := by
  have hscan := Marked.scan_iff e.unmarked [] text
  rw [Expr.isFoundIn, Expr.FoundIn]
  change e.unmarked.scan ([] : List Char).head? text = true ↔ _
  rw [hscan]
  constructor
  · rintro (⟨n, r, -, h⟩ | ⟨skipped, n, r, heq, h⟩)
    · exact absurd h (Marked.isFresh_unmarked e _ _ _)
    · refine ⟨skipped.reverse, n, r, by simpa using heq, ?_⟩
      rw [matches_plain_unmarked_iff horder] at h
      simpa using h
  · rintro ⟨left, m, right, rfl, h⟩
    refine Or.inr ⟨left.reverse, m, right, by simp, ?_⟩
    rw [matches_plain_unmarked_iff horder]
    simpa using h

end NavPolicy.Regex
