import NavPolicy.Json.Parser

/-!
# Spellings of strings

A string has many spellings, for any of its characters may be escaped.  The reader of strings
reads each of them, and what is written for a string is one of them.  Where a text stands in a
longer one does not matter to its reader, so a reader is run on a text with anything behind it.
-/

namespace NavPolicy.Json

/-- A reader gives something and stops in front of a text. -/
def ReadsTo {α : Type} (read : Read α) (a : α) (rest : List Char) : Prop :=
  ∃ cur, read = .ok (a, cur) ∧ cur.rest = rest

open Cursor

/-- A text spells the characters of a string between its quotation marks. -/
inductive Spells : List Char → List Char → Prop where
  | nil : Spells [] []
  /-- A character that stands for itself. -/
  | plain {c : Char} {body cs : List Char} (hquote : c ≠ '"') (hslash : c ≠ '\\')
      (hcontrol : ¬c.toNat < 32) (hrest : Spells body cs) : Spells (c :: body) (c :: cs)
  /-- A character behind a backslash. -/
  | escape {sign c : Char} {body cs : List Char} (hsign : simpleEscape? sign = some c)
      (hrest : Spells body cs) : Spells ('\\' :: sign :: body) (c :: cs)
  /-- A character by its number. -/
  | unicode {a b c d : Char} {n : Nat} {body cs : List Char} (hhex : fourHex? a b c d = some n)
      (hleading : isLeading n = false) (htrailing : isTrailing n = false)
      (hrest : Spells body cs) :
      Spells ('\\' :: 'u' :: a :: b :: c :: d :: body) (Char.ofNat n :: cs)
  /-- A character by a pair of numbers. -/
  | pair {a b c d a' b' c' d' : Char} {first second : Nat} {body cs : List Char}
      (hfirst : fourHex? a b c d = some first) (hleading : isLeading first = true)
      (hsecond : fourHex? a' b' c' d' = some second) (htrailing : isTrailing second = true)
      (hrest : Spells body cs) :
      Spells ('\\' :: 'u' :: a :: b :: c :: d :: '\\' :: 'u' :: a' :: b' :: c' :: d' :: body)
        (pairChar first second :: cs)

/-! ## What is written -/

private theorem fourHex?_hexDigit : ∀ n < 32,
    fourHex? '0' '0' (hexDigit (n / 16)) (hexDigit (n % 16)) = some n := by
  decide

private theorem Spells.escapeChar_append {body cs : List Char} (c : Char) (h : Spells body cs) :
    Spells (escapeChar c ++ body) (c :: cs) := by
  unfold escapeChar
  split
  iterate 7 exact .escape rfl h
  · rename_i hquote hslash _ _ _ _ _
    split
    · rename_i hcontrol
      have hleading : isLeading c.toNat = false := by simp [isLeading]; omega
      have htrailing : isTrailing c.toNat = false := by simp [isTrailing]; omega
      have hspells := Spells.unicode (fourHex?_hexDigit c.toNat hcontrol) hleading htrailing h
      rwa [Char.ofNat_toNat] at hspells
    · exact .plain hquote hslash ‹_› h

/-- What is written for a string spells it. -/
theorem spells_escaped (cs : List Char) : Spells (cs.flatMap escapeChar) cs := by
  induction cs with
  | nil => exact .nil
  | cons c cs ih =>
      rw [List.flatMap_cons]
      exact ih.escapeChar_append c

/-- No escape is shorter than the character that it stands for. -/
theorem Spells.length_le {body cs : List Char} (h : Spells body cs) : cs.length ≤ body.length := by
  induction h with
  | nil => exact Nat.le_refl 0
  | _ => simp only [List.length_cons]; omega

/-! ## What is read -/

namespace Cursor

variable {cur : Cursor} {c : Char} {rest : List Char}

/-- One character fewer is left. -/
theorem rest_next (cur : Cursor) : cur.next.rest = cur.rest.tail := by
  unfold next
  split <;> simp_all

theorem rest_next_eq (h : cur.rest = c :: rest) : cur.next.rest = rest := by
  rw [rest_next, h, List.tail_cons]

/-- What is peeked at is the first character that is left. -/
theorem peek_eq (h : cur.rest = c :: rest) : cur.peek = some c := by
  rw [peek, h]
  rfl

theorem hexEscape_eq {a b c d : Char} {n : Nat} (hhex : fourHex? a b c d = some n)
    (h : cur.rest = a :: b :: c :: d :: rest) : ReadsTo cur.hexEscape n rest := by
  refine ⟨cur.next.next.next.next, ?_, ?_⟩
  · simp only [hexEscape, h, hhex]
  · simp only [rest_next, h, List.tail_cons]

theorem escape_simple {sign : Char} (hsign : simpleEscape? sign = some c)
    (h : cur.rest = sign :: rest) : ReadsTo cur.escape c rest := by
  refine ⟨cur.next, ?_, rest_next_eq h⟩
  unfold escape
  split
  · rename_i hpeek
    rw [peek_eq h] at hpeek
    cases hpeek
  · rename_i hpeek
    rw [peek_eq h] at hpeek
    cases hpeek
    cases hsign
  · rename_i hpeek
    rw [peek_eq h] at hpeek
    cases hpeek
    rw [hsign]

theorem escape_unicode {a b c d : Char} {n : Nat} (hhex : fourHex? a b c d = some n)
    (hleading : isLeading n = false) (htrailing : isTrailing n = false)
    (h : cur.rest = 'u' :: a :: b :: c :: d :: rest) :
    ReadsTo cur.escape (Char.ofNat n) rest := by
  obtain ⟨after, hread, hafter⟩ := hexEscape_eq hhex (rest_next_eq h)
  refine ⟨after, ?_, hafter⟩
  rw [escape, peek_eq h]
  simp [unicodeEscape, hread, hleading, htrailing]

theorem escape_pair {a b c d a' b' c' d' : Char} {first second : Nat}
    (hfirst : fourHex? a b c d = some first) (hleading : isLeading first = true)
    (hsecond : fourHex? a' b' c' d' = some second) (htrailing : isTrailing second = true)
    (h : cur.rest = 'u' :: a :: b :: c :: d :: '\\' :: 'u' :: a' :: b' :: c' :: d' :: rest) :
    ReadsTo cur.escape (pairChar first second) rest := by
  obtain ⟨between, hread, hbetween⟩ := hexEscape_eq hfirst (rest_next_eq h)
  obtain ⟨after, hread', hafter⟩ := hexEscape_eq hsecond (rest_next_eq (rest_next_eq hbetween))
  have hnot : isTrailing first = false := by
    simp only [isLeading, isTrailing, Bool.and_eq_true, Bool.and_eq_false_iff, decide_eq_true_eq,
      decide_eq_false_iff_not] at hleading ⊢
    omega
  refine ⟨after, ?_, hafter⟩
  rw [escape, peek_eq h]
  simp [unicodeEscape, hread, hleading, hnot, secondHalf, hbetween, hread', htrailing]

private theorem stringChars_escape (fuel : Nat) (found : List Char) {body : List Char}
    (h : cur.rest = '\\' :: body) (hescape : ReadsTo cur.next.escape c rest) :
    ∃ after, stringChars (fuel + 1) found cur = stringChars fuel (c :: found) after ∧
      after.rest = rest := by
  obtain ⟨after, hread, hafter⟩ := hescape
  refine ⟨after, ?_, hafter⟩
  rw [stringChars, peek_eq h]
  simp only [hread]

private theorem stringChars_plain (fuel : Nat) (found : List Char) (h : cur.rest = c :: rest)
    (hquote : c ≠ '"') (hslash : c ≠ '\\') (hcontrol : ¬c.toNat < 32) :
    stringChars (fuel + 1) found cur = stringChars fuel (c :: found) cur.next := by
  rw [stringChars, peek_eq h]
  simp [hcontrol]

private theorem stringChars_step {fuel : Nat} {found cs : List Char} {after : Cursor}
    (hstep : stringChars (fuel + 1) found cur = stringChars fuel (c :: found) after)
    (hread : ReadsTo (stringChars fuel (c :: found) after) ((c :: found).reverse ++ cs) rest) :
    ReadsTo (stringChars (fuel + 1) found cur) (found.reverse ++ c :: cs) rest := by
  rw [hstep]
  rwa [List.reverse_cons, List.append_assoc] at hread

/-- The reader takes one character of the string at a step, however that is spelled. -/
theorem stringChars_spelled {body cs : List Char} (hspells : Spells body cs) {fuel : Nat}
    (hfuel : cs.length < fuel) (found : List Char) (h : cur.rest = body ++ '"' :: rest) :
    ReadsTo (stringChars fuel found cur) (found.reverse ++ cs) rest := by
  obtain ⟨fuel, rfl⟩ := Nat.exists_eq_add_one.2 (Nat.zero_lt_of_lt hfuel)
  replace hfuel : cs.length ≤ fuel := Nat.le_of_lt_succ hfuel
  induction hspells generalizing cur fuel found with
  | nil =>
      refine ⟨cur.next, ?_, rest_next_eq h⟩
      rw [stringChars, peek_eq h, List.append_nil]
      rfl
  | plain hquote hslash hcontrol _ ih =>
      obtain ⟨fuel, rfl⟩ := Nat.exists_eq_add_one.2 (Nat.zero_lt_of_lt hfuel)
      have hstep := stringChars_plain (fuel + 1) found h hquote hslash hcontrol
      exact stringChars_step hstep (ih _ (rest_next_eq h) fuel (Nat.le_of_succ_le_succ hfuel))
  | escape hsign _ ih =>
      obtain ⟨fuel, rfl⟩ := Nat.exists_eq_add_one.2 (Nat.zero_lt_of_lt hfuel)
      obtain ⟨after, hstep, hafter⟩ :=
        stringChars_escape (fuel + 1) found h (escape_simple hsign (rest_next_eq h))
      exact stringChars_step hstep (ih _ hafter fuel (Nat.le_of_succ_le_succ hfuel))
  | unicode hhex hleading htrailing _ ih =>
      obtain ⟨fuel, rfl⟩ := Nat.exists_eq_add_one.2 (Nat.zero_lt_of_lt hfuel)
      obtain ⟨after, hstep, hafter⟩ := stringChars_escape (fuel + 1) found h
        (escape_unicode hhex hleading htrailing (rest_next_eq h))
      exact stringChars_step hstep (ih _ hafter fuel (Nat.le_of_succ_le_succ hfuel))
  | pair hfirst hleading hsecond htrailing _ ih =>
      obtain ⟨fuel, rfl⟩ := Nat.exists_eq_add_one.2 (Nat.zero_lt_of_lt hfuel)
      obtain ⟨after, hstep, hafter⟩ := stringChars_escape (fuel + 1) found h
        (escape_pair hfirst hleading hsecond htrailing (rest_next_eq h))
      exact stringChars_step hstep (ih _ hafter fuel (Nat.le_of_succ_le_succ hfuel))

/-- A string is read from each of its spellings, whatever is behind it. -/
theorem string_spelled {body : List Char} {s : String} (hspells : Spells body s.toList) {fuel : Nat}
    (hfuel : s.toList.length < fuel) (h : cur.rest = body ++ '"' :: rest) :
    ReadsTo (string fuel cur) s rest := by
  obtain ⟨after, hread, hafter⟩ := stringChars_spelled hspells hfuel [] h
  refine ⟨after, ?_, hafter⟩
  rw [string, hread]
  simp

end Cursor

end NavPolicy.Json
