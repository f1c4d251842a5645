import NavPolicy.Proofs.Json.RoundTrip

/-!
# Reading written naturals

A natural number below the limit of a word is written with its decimal digits and read back as
itself, as long as what follows does not go on with the number.
-/

namespace NavPolicy.Json

/-- A number is over where a text goes on. -/
def EndsNumber (rest : List Char) : Prop :=
  ∀ c ∈ rest.head?, c.isDigit = false ∧ c ≠ '.' ∧ c ≠ 'e' ∧ c ≠ 'E'

/-- A text that does not go on with digits. -/
def EndsDigits (rest : List Char) : Prop := ∀ c ∈ rest.head?, c.isDigit = false

theorem EndsNumber.endsDigits {rest : List Char} (hrest : EndsNumber rest) : EndsDigits rest :=
  fun c hc => (hrest c hc).1

theorem endsNumber_nil : EndsNumber [] := by
  intro c hc
  cases hc

/-! ## Decimal digits -/

/-- Digits behind a number only make it larger. -/
theorem le_ofDigitChars (digits : List Char) (n : Nat) : n ≤ Nat.ofDigitChars 10 digits n := by
  induction digits generalizing n with
  | nil => exact Nat.le_refl n
  | cons c digits ih =>
      rw [Nat.ofDigitChars_cons]
      calc
        n ≤ 10 * n + (c.toNat - '0'.toNat) := by omega
        _ ≤ Nat.ofDigitChars 10 digits (10 * n + (c.toNat - '0'.toNat)) := ih _

/-- The first digit of a number is no zero, unless it is the only one. -/
theorem exists_toDigits_eq_cons {n : Nat} (hn : 0 < n) :
    ∃ c digits, Nat.toDigits 10 n = c :: digits ∧ c ≠ '0' := by
  induction n using Nat.strongRecOn with
  | ind n ih =>
      by_cases hlt : n < 10
      · have hfirst : ∀ m < 10, 0 < m → m.digitChar ≠ '0' := by decide
        exact ⟨n.digitChar, [], Nat.toDigits_of_lt_base hlt, hfirst n hlt hn⟩
      · have hle : 10 ≤ n := Nat.le_of_not_lt hlt
        obtain ⟨c, digits, hdigits, hc⟩ := ih (n / 10) (by omega) (by omega)
        refine ⟨c, digits ++ [(n % 10).digitChar], ?_, hc⟩
        rw [Nat.toDigits_of_base_le (by decide) hle, hdigits, List.cons_append]

namespace Cursor

variable {cur : Cursor} {c : Char} {rest : List Char}

theorem atDigit_eq_false (hrest : EndsDigits rest) (h : cur.rest = rest) :
    cur.atDigit = false := by
  rw [atDigit, peek, h]
  cases hhead : rest.head? with
  | none => rfl
  | some c => exact hrest c hhead

private theorem growDigits_stop (limit fuel value count : Nat) (hrest : EndsNumber cur.rest) :
    growDigits limit fuel value count cur = (value, count, cur) := by
  cases fuel with
  | zero => rfl
  | succ fuel =>
      rw [growDigits, peek]
      cases hhead : cur.rest.head? with
      | none => rfl
      | some c => simp [(hrest c hhead).1]

/-- Digits that stay below a limit are all taken. -/
theorem growDigits_written (limit count : Nat) {fuel value : Nat} {digits : List Char}
    (hdigits : ∀ c ∈ digits, c.isDigit = true) (hfuel : digits.length ≤ fuel)
    (hlimit : Nat.ofDigitChars 10 digits value < limit) (hrest : EndsNumber rest)
    (h : cur.rest = digits ++ rest) :
    ∃ after, growDigits limit fuel value count cur =
        (Nat.ofDigitChars 10 digits value, count + digits.length, after) ∧ after.rest = rest := by
  induction digits generalizing cur fuel value count with
  | nil =>
      rw [List.nil_append] at h
      exact ⟨cur, growDigits_stop limit fuel value count (h.symm ▸ hrest), h⟩
  | cons c digits ih =>
      obtain ⟨fuel, rfl⟩ := Nat.exists_eq_add_one.2 (Nat.zero_lt_of_lt hfuel)
      rw [List.forall_mem_cons] at hdigits
      rw [Nat.ofDigitChars_cons, Nat.mul_comm] at hlimit ⊢
      have hgrown : value * 10 + digitValue c < limit :=
        Nat.lt_of_le_of_lt (le_ofDigitChars digits _) hlimit
      obtain ⟨after, hgrow, hafter⟩ := ih (count + 1) hdigits.2
        (Nat.le_of_succ_le_succ hfuel) hlimit (rest_next_eq h)
      refine ⟨after, ?_, hafter⟩
      rw [growDigits, peek_eq h]
      simp only [hdigits.1, hgrown, decide_true, Bool.and_self, if_true]
      rw [List.length_cons, Nat.add_comm digits.length, ← Nat.add_assoc]
      exact hgrow

private theorem afterInteger_of_endsNumber (fuel : Nat) (positive : Bool) (n : Nat)
    (hrest : EndsNumber cur.rest) :
    afterInteger fuel positive n cur = .ok (signed positive n, cur) := by
  rw [afterInteger, atExponent, peek]
  cases hhead : cur.rest.head? with
  | none => rfl
  | some c =>
      obtain ⟨-, hpoint, hlower, hupper⟩ := hrest c hhead
      simp [hpoint, hlower, hupper]

/-- The digits of a natural are read as that natural. -/
theorem number_written {fuel n : Nat} (hn : n < wordLimit)
    (hfuel : (Nat.toDigits 10 n).length ≤ fuel) (hrest : EndsNumber rest)
    (h : cur.rest = Nat.toDigits 10 n ++ rest) :
    ReadsTo (number fuel true cur) (.natural n) rest := by
  rcases Nat.eq_zero_or_pos n with rfl | hpos
  · have hnext : cur.next.rest = rest := rest_next_eq h
    have hend : EndsNumber cur.next.rest := hnext.symm ▸ hrest
    refine ⟨cur.next, ?_, hnext⟩
    rw [number, peek_eq h]
    simp [atDigit_eq_false hend.endsDigits rfl, afterInteger_of_endsNumber fuel true 0 hend, signed]
  · obtain ⟨c, digits, hdigits, hc⟩ := exists_toDigits_eq_cons hpos
    have hall : ∀ d ∈ c :: digits, d.isDigit = true := fun d hd =>
      Nat.isDigit_of_mem_toDigits (by decide) (by decide) (hdigits.symm ▸ hd)
    have hvalue : Nat.ofDigitChars 10 digits (digitValue c) = n := by
      calc
        Nat.ofDigitChars 10 digits (digitValue c) = Nat.ofDigitChars 10 (c :: digits) 0 := by
          rw [Nat.ofDigitChars_cons, Nat.mul_zero, Nat.zero_add]
          rfl
        _ = n := by rw [← hdigits, Nat.ofDigitChars_toDigits (by decide) (by decide)]
    rw [List.forall_mem_cons] at hall
    rw [hdigits] at h hfuel
    obtain ⟨after, hgrow, hafter⟩ := growDigits_written wordLimit 1 hall.2
      (Nat.le_of_succ_le hfuel) (hvalue.symm ▸ hn) hrest (rest_next_eq h)
    have hend : EndsNumber after.rest := hafter.symm ▸ hrest
    refine ⟨after, ?_, hafter⟩
    rw [number, peek_eq h]
    simp [hc, hall.1, hgrow, hvalue, atDigit_eq_false hend.endsDigits rfl,
      afterInteger_of_endsNumber fuel true n hend, signed]

private theorem scalar_digit (fuel : Nat) (hc : c.isDigit = true) :
    scalar fuel cur c = (number fuel true cur).map fun (n, cur) => (.number n, cur) := by
  unfold scalar
  split
  iterate 5 cases hc
  rw [if_pos hc]

end Cursor

/-- A natural that fits a word is read back from its text. -/
theorem Value.ofText_compact_ofNat {n : Nat} (hn : n < Cursor.wordLimit) :
    ofText (ofNat n).compact = .ok (ofNat n) := by
  have htext : (ofNat n).compactText = Nat.toDigits 10 n := Nat.toList_repr
  obtain ⟨c, digits, hdigits⟩ : ∃ c digits, Nat.toDigits 10 n = c :: digits :=
    List.exists_cons_of_ne_nil Nat.toDigits_ne_nil
  have hc : c.isDigit = true :=
    Nat.isDigit_of_mem_toDigits (by decide) (by decide) (hdigits.symm ▸ List.mem_cons_self)
  have hcur : (Cursor.ofText (Nat.toDigits 10 n)).rest = Nat.toDigits 10 n ++ [] :=
    (List.append_nil _).symm
  obtain ⟨⟨line, column, text⟩, hread, rfl⟩ :=
    Cursor.number_written hn (Nat.le_succ _) endsNumber_nil hcur
  have hne : ∀ d : Char, d.isDigit = false → c ≠ d := by
    rintro d hd rfl
    exact Bool.eq_false_iff.1 hd hc
  have hspace : Cursor.isSpace c = false := by
    simp [Cursor.isSpace, hne]
  rw [ofText, compact, String.toList_ofList, htext, ofChars,
    Cursor.value_eq_scalar _ _ (Cursor.faces_of_rest hdigits) hspace (hne '[' rfl)
      (hne '\x7b' rfl),
    Cursor.skip_eq hdigits hspace, Cursor.scalar_digit _ hc, hread]
  rfl

end NavPolicy.Json
