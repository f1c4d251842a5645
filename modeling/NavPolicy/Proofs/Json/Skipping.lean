import NavPolicy.Proofs.Json.Numerals

/-!
# Skipping a value

Whatever the grammar gives as a value is skipped, however deep its brackets nest.  The loop that
skips it goes from one state to the next within a number of steps that the length of the text
bounds.
-/

namespace NavPolicy.Json

theorem IsExponent.endsDigits {exponent rest : List Char} (hexponent : IsExponent exponent)
    (hrest : EndsNumber rest) : EndsDigits (exponent ++ rest) := by
  rcases hexponent with rfl | ⟨letter, sign, digits, hletter, -, -, rfl⟩
  · exact hrest.endsDigits
  · simp only [List.mem_cons, List.not_mem_nil, or_false] at hletter
    rcases hletter with rfl | rfl <;> (rintro c ⟨⟩; rfl)

theorem IsFraction.endsDigits {fraction rest : List Char} (hfraction : IsFraction fraction)
    (hrest : EndsDigits rest) : EndsDigits (fraction ++ rest) := by
  rcases hfraction with rfl | ⟨digits, -, rfl⟩
  · exact hrest
  · rintro c ⟨⟩
    rfl

namespace Cursor

variable {cur : Cursor} {c : Char} {text rest : List Char}

/-! ## Strings -/

private theorem skipString_simple {sign : Char} (fuel : Nat)
    (hsign : sign ∈ ['"', '\\', '/', 'b', 'f', 'n', 'r', 't'])
    (h : cur.rest = '\\' :: sign :: rest) :
    skipString (fuel + 1) cur = skipString fuel cur.next.next := by
  have hnext := peek_eq (rest_next_eq h)
  simp only [List.mem_cons, List.not_mem_nil, or_false] at hsign
  rcases hsign with rfl | rfl | rfl | rfl | rfl | rfl | rfl | rfl <;>
    simp [skipString, peek_eq h, hnext, simpleEscape?]

private theorem exists_fourHex? {a b c d : Char}
    (hhex : ∀ digit ∈ [a, b, c, d], (Text.hexDigit? digit).isSome) :
    ∃ n, fourHex? a b c d = some n := by
  simp only [List.forall_mem_cons, List.not_mem_nil, false_implies, implies_true, and_true,
    Option.isSome_iff_exists] at hhex
  obtain ⟨⟨i, hi⟩, ⟨j, hj⟩, ⟨k, hk⟩, ⟨l, hl⟩⟩ := hhex
  exact ⟨_, by simp [fourHex?, hi, hj, hk, hl]; rfl⟩

private theorem skipString_unicode {a b c d : Char} (fuel : Nat)
    (hhex : ∀ digit ∈ [a, b, c, d], (Text.hexDigit? digit).isSome)
    (h : cur.rest = '\\' :: 'u' :: a :: b :: c :: d :: rest) :
    ∃ after, skipString (fuel + 1) cur = skipString fuel after ∧ after.rest = rest := by
  obtain ⟨n, hn⟩ := exists_fourHex? hhex
  obtain ⟨after, hread, hafter⟩ := hexEscape_eq hn (rest_next_eq (rest_next_eq h))
  refine ⟨after, ?_, hafter⟩
  simp [skipString, peek_eq h, peek_eq (rest_next_eq h), hread]

/-- The rest of a string is skipped up to its closing quotation mark. -/
theorem skipString_body {body : List Char} (hbody : IsStringBody body) {fuel : Nat}
    (hfuel : body.length < fuel) (h : cur.rest = body ++ '"' :: rest) :
    StopsAt (skipString fuel cur) rest := by
  obtain ⟨fuel, rfl⟩ := Nat.exists_eq_add_one.2 (Nat.zero_lt_of_lt hfuel)
  replace hfuel : body.length ≤ fuel := Nat.le_of_lt_succ hfuel
  induction hbody generalizing cur fuel with
  | nil =>
      refine ⟨cur.next, ?_, rest_next_eq h⟩
      rw [skipString, peek_eq h]
      rfl
  | plain hquote hslash hcontrol _ ih =>
      obtain ⟨fuel, rfl⟩ := Nat.exists_eq_add_one.2 (Nat.zero_lt_of_lt hfuel)
      have hstep : skipString (fuel + 1 + 1) cur = skipString (fuel + 1) cur.next := by
        rw [skipString, peek_eq h]
        simp [hcontrol]
      rw [hstep]
      exact ih (rest_next_eq h) fuel (Nat.le_of_succ_le_succ hfuel)
  | @escape sign body hsign _ ih =>
      rw [List.length_cons, List.length_cons] at hfuel
      obtain ⟨fuel, rfl⟩ := Nat.exists_eq_add_one.2 (Nat.zero_lt_of_lt hfuel)
      rw [skipString_simple (fuel + 1) hsign h]
      exact ih (rest_next_eq (rest_next_eq h)) fuel (by omega)
  | @unicode a b c d body hhex _ ih =>
      simp only [List.length_cons] at hfuel
      obtain ⟨fuel, rfl⟩ := Nat.exists_eq_add_one.2 (Nat.zero_lt_of_lt hfuel)
      obtain ⟨after, hstep, hafter⟩ := skipString_unicode (fuel + 1) hhex h
      rw [hstep]
      exact ih hafter fuel (by omega)

/-! ## Numbers -/

theorem atDigit_eq_true (hc : c.isDigit = true) (h : cur.rest = c :: rest) :
    cur.atDigit = true := by
  rw [atDigit, peek_eq h]
  exact hc

theorem skipDigits_eq {digits : List Char} (hdigits : ∀ c ∈ digits, c.isDigit = true)
    (hrest : EndsDigits rest) {fuel : Nat} (hfuel : digits.length ≤ fuel) (count : Nat)
    (h : cur.rest = digits ++ rest) :
    ∃ after, skipDigits fuel count cur = (count + digits.length, after) ∧ after.rest = rest := by
  induction digits generalizing cur fuel count with
  | nil =>
      refine ⟨cur, ?_, h⟩
      cases fuel with
      | zero => rfl
      | succ fuel => simp [skipDigits, atDigit_eq_false hrest h]
  | cons c digits ih =>
      obtain ⟨fuel, rfl⟩ := Nat.exists_eq_add_one.2 (Nat.zero_lt_of_lt hfuel)
      rw [List.forall_mem_cons] at hdigits
      obtain ⟨after, hskip, hafter⟩ := ih hdigits.2 (Nat.le_of_succ_le_succ hfuel) (count + 1)
        (rest_next_eq h)
      refine ⟨after, ?_, hafter⟩
      rw [skipDigits, atDigit_eq_true hdigits.1 h, if_pos rfl, hskip, List.length_cons]
      simp only [Nat.add_assoc, Nat.add_comm 1]

private theorem exponentSign_eq {sign digits : List Char} (hsign : sign ∈ [[], ['+'], ['-']])
    (hdigits : IsDigits digits) (h : cur.rest = sign ++ (digits ++ rest)) :
    (exponentSign cur).2.rest = digits ++ rest := by
  obtain ⟨c, more, rfl⟩ := List.exists_cons_of_ne_nil hdigits.1
  have hc : c.isDigit = true := hdigits.2 c List.mem_cons_self
  simp only [List.mem_cons, List.not_mem_nil, or_false] at hsign
  rcases hsign with rfl | rfl | rfl
  · rw [exponentSign, peek_eq h]
    split
    · rename_i heq
      cases heq
      cases hc
    · rename_i heq
      cases heq
      cases hc
    · exact h
  · rw [exponentSign, peek_eq h]
    exact rest_next_eq h
  · rw [exponentSign, peek_eq h]
    exact rest_next_eq h

theorem atDigit_of_isDigits {digits : List Char} (hdigits : IsDigits digits)
    (h : cur.rest = digits ++ rest) : cur.atDigit = true := by
  obtain ⟨c, more, rfl⟩ := List.exists_cons_of_ne_nil hdigits.1
  exact atDigit_eq_true (hdigits.2 c List.mem_cons_self) h

/-- An exponent is skipped where one begins. -/
theorem skip_exponent {exponent : List Char} (hexponent : IsExponent exponent)
    (hrest : EndsNumber rest) {fuel : Nat} (hfuel : exponent.length ≤ fuel)
    (h : cur.rest = exponent ++ rest) :
    StopsAt (if cur.atExponent then skipExponent fuel cur else .ok cur) rest := by
  rcases hexponent with rfl | ⟨letter, sign, digits, hletter, hsign, hdigits, rfl⟩
  · have hnone : cur.atExponent = false := by
      rw [atExponent, peek, h, List.nil_append]
      cases hhead : rest.head? with
      | none => rfl
      | some c => simp [(hrest c hhead).2.2]
    exact ⟨cur, by simp [hnone], h⟩
  · rw [List.length_cons, List.length_append] at hfuel
    rw [List.cons_append, List.append_assoc] at h
    have hletter : cur.atExponent = true := by
      rw [atExponent, peek_eq h]
      simp only [List.mem_cons, List.not_mem_nil, or_false] at hletter
      rcases hletter with rfl | rfl <;> rfl
    have hsigned := exponentSign_eq hsign hdigits (rest_next_eq h)
    have hlength : digits.length ≤ fuel := by omega
    obtain ⟨after, hskip, hafter⟩ :=
      skipDigits_eq hdigits.2 hrest.endsDigits hlength 0 hsigned
    refine ⟨after, ?_, hafter⟩
    have hexponent : skipExponent fuel cur =
        if (exponentSign cur.next).2.atDigit then
          .ok (skipDigits fuel 0 (exponentSign cur.next).2).2
        else (exponentSign cur.next).2.failAhead .invalidNumber := rfl
    rw [if_pos hletter, hexponent, if_pos (atDigit_of_isDigits hdigits hsigned), hskip]

/-- Skip what may follow the whole part of a number. -/
def skipDecimals (fuel : Nat) (cur : Cursor) : Except Error Cursor :=
  if cur.peek = some '.' then
    let (count, after) := skipDigits fuel 0 cur.next
    if count = 0 then after.failAhead .invalidNumber
    else if after.atExponent then skipExponent fuel after
    else .ok after
  else if cur.atExponent then skipExponent fuel cur
  else .ok cur

private theorem skipDecimals_eq {fraction exponent : List Char} (hfraction : IsFraction fraction)
    (hexponent : IsExponent exponent) (hrest : EndsNumber rest) {fuel : Nat}
    (hfuel : (fraction ++ exponent).length ≤ fuel)
    (h : cur.rest = fraction ++ (exponent ++ rest)) :
    StopsAt (skipDecimals fuel cur) rest := by
  rw [List.length_append] at hfuel
  rw [skipDecimals]
  rcases hfraction with rfl | ⟨digits, hdigits, rfl⟩
  · have hpoint : cur.peek ≠ some '.' := by
      rw [peek, h]
      rcases hexponent with rfl | ⟨letter, sign, digits, hletter, -, -, rfl⟩
      · intro hhead
        exact (hrest '.' hhead).2.1 rfl
      · simp only [List.mem_cons, List.not_mem_nil, or_false] at hletter
        rcases hletter with rfl | rfl <;> simp
    rw [if_neg hpoint]
    exact skip_exponent hexponent hrest (by omega) h
  · rw [List.length_cons] at hfuel
    have hlength : digits.length ≤ fuel := by omega
    obtain ⟨after, hskip, hafter⟩ :=
      skipDigits_eq hdigits.2 (hexponent.endsDigits hrest) hlength 0 (rest_next_eq h)
    have hcount : ¬0 + digits.length = 0 := by
      rw [Nat.zero_add, List.length_eq_zero_iff]
      exact hdigits.1
    rw [if_pos (peek_eq h), hskip]
    simp only [if_neg hcount]
    exact skip_exponent hexponent hrest (by omega) hafter

theorem skipNumber_whole {whole : List Char} (hwhole : IsWhole whole) (hrest : EndsDigits rest)
    {fuel : Nat} (hfuel : whole.length ≤ fuel) (h : cur.rest = whole ++ rest) :
    ∃ after, skipNumber fuel cur = skipDecimals fuel after ∧ after.rest = rest := by
  rcases hwhole with rfl | ⟨hdigits, hzero⟩
  · refine ⟨cur.next, ?_, rest_next_eq h⟩
    have hnext : cur.next.atDigit = false := atDigit_eq_false hrest (rest_next_eq h)
    rw [skipNumber, atDigit_eq_true rfl h, peek_eq h]
    simp [hnext, skipDecimals]
  · have hpeek : cur.peek ≠ some '0' := by
      obtain ⟨c, more, rfl⟩ := List.exists_cons_of_ne_nil hdigits.1
      rw [peek_eq h]
      exact hzero
    obtain ⟨after, hskip, hafter⟩ := skipDigits_eq hdigits.2 hrest hfuel 0 h
    refine ⟨after, ?_, hafter⟩
    rw [skipNumber, atDigit_of_isDigits hdigits h]
    simp [hpeek, hskip, skipDecimals]

/-- The rest of a number is skipped behind its sign. -/
theorem skipNumber_eq {whole fraction exponent : List Char} (hwhole : IsWhole whole)
    (hfraction : IsFraction fraction) (hexponent : IsExponent exponent) (hrest : EndsNumber rest)
    {fuel : Nat} (hfuel : (whole ++ (fraction ++ exponent)).length ≤ fuel)
    (h : cur.rest = whole ++ (fraction ++ (exponent ++ rest))) :
    StopsAt (skipNumber fuel cur) rest := by
  rw [List.length_append] at hfuel
  have hends := hfraction.endsDigits (hexponent.endsDigits hrest)
  have hlength : whole.length ≤ fuel := by omega
  obtain ⟨after, hskip, hafter⟩ := skipNumber_whole hwhole hends hlength h
  rw [hskip]
  exact skipDecimals_eq hfraction hexponent hrest (by omega) hafter

/-! ## The loop -/

variable {strings bound more : Nat} {pending next : Pending} {opens inner outer : List Bracket}
variable {bracket : Bracket} {after : Cursor}

/-- Within a number of steps a text is passed: the cursor then faces what is behind it. -/
def Passes (strings bound : Nat) (pending : Pending) (opens : List Bracket) (cur : Cursor)
    (outer : List Bracket) (rest : List Char) : Prop :=
  ∃ steps after, steps ≤ bound ∧ after.Faces rest ∧ ∀ fuel,
    skipValues strings (fuel + steps) pending opens cur =
      skipValues strings fuel .passed outer after

/-- More fuel does no harm. -/
theorem Passes.mono (h : Passes strings bound pending opens cur outer rest) (hle : bound ≤ more) :
    Passes strings more pending opens cur outer rest := by
  obtain ⟨steps, after, hsteps, hafter⟩ := h
  exact ⟨steps, after, Nat.le_trans hsteps hle, hafter⟩

theorem Passes.of_faces (h : cur.Faces rest) : Passes strings 0 .passed outer cur outer rest :=
  ⟨0, cur, Nat.le_refl 0, h, fun _ => rfl⟩

theorem Passes.step
    (hstep : ∀ fuel, skipValues strings (fuel + 1) pending opens cur =
      skipValues strings fuel next inner after)
    (h : Passes strings bound next inner after outer rest) :
    Passes strings (bound + 1) pending opens cur outer rest := by
  obtain ⟨steps, behind, hsteps, hfaces, hrun⟩ := h
  refine ⟨steps + 1, behind, Nat.succ_le_succ hsteps, hfaces, fun fuel => ?_⟩
  rw [← Nat.add_assoc, hstep, hrun]

/-- What is passed over in two stretches takes the fuel of both. -/
theorem Passes.trans (h : Passes strings bound pending opens cur inner text)
    (hmore : ∀ after : Cursor, after.Faces text →
      Passes strings more .passed inner after outer rest) :
    Passes strings (bound + more) pending opens cur outer rest := by
  obtain ⟨steps, between, hsteps, hfaces, hrun⟩ := h
  obtain ⟨steps', behind, hsteps', hfaces', hrun'⟩ := hmore between hfaces
  refine ⟨steps' + steps, behind, by omega, hfaces', fun fuel => ?_⟩
  rw [← Nat.add_assoc, hrun, hrun']

/-! ### Steps -/

theorem skipValues_first (fuel : Nat) (h : cur.Faces (bracket.first :: rest)) :
    skipValues strings (fuel + 1) .value opens cur =
      skipValues strings fuel .opened (bracket :: opens) cur.skip.next := by
  have hpeek := peek_eq (h.rest_eq (canBegin_first bracket).1)
  cases bracket <;> simp [skipValues, hpeek, Bracket.first]

theorem skipValues_scalar (fuel : Nat) (hpeek : cur.skip.peek = some c) (harray : c ≠ '[')
    (hobject : c ≠ '\x7b') (hskip : skipScalar strings cur.skip c = .ok after) :
    skipValues strings (fuel + 1) .value opens cur =
      skipValues strings fuel .passed opens after := by
  simp [skipValues, hpeek, hskip]

theorem isSpace_last (bracket : Bracket) : isSpace bracket.last = false := by
  cases bracket <;> rfl

theorem closes_last (bracket : Bracket) : closes bracket bracket.last = true := by
  cases bracket <;> rfl

theorem last_ne_comma (bracket : Bracket) : bracket.last ≠ ',' := by
  cases bracket <;> decide

theorem skipValues_empty (fuel : Nat) (h : cur.Faces (bracket.last :: rest)) :
    skipValues strings (fuel + 1) .opened (bracket :: outer) cur =
      skipValues strings fuel .passed outer cur.skip.next := by
  have hpeek := peek_eq (h.rest_eq (isSpace_last bracket))
  simp [skipValues, hpeek, closes_last]

theorem skipValues_enter (fuel : Nat) (hc : CanBegin c) (h : cur.Faces (c :: rest))
    (henter : enter strings bracket cur.skip = .ok after) :
    skipValues strings (fuel + 1) .opened (bracket :: outer) cur =
      skipValues strings fuel .value (bracket :: outer) after := by
  have hpeek := peek_eq (h.rest_eq hc.1)
  simp [skipValues, hpeek, hc.closes_eq_false, henter]

theorem skipValues_comma (fuel : Nat) (h : cur.Faces (',' :: rest))
    (henter : enter strings bracket cur.skip.next = .ok after) :
    skipValues strings (fuel + 1) .passed (bracket :: outer) cur =
      skipValues strings fuel .value (bracket :: outer) after := by
  have hpeek := peek_eq (h.rest_eq rfl)
  simp [skipValues, hpeek, henter]

theorem skipValues_last (fuel : Nat) (h : cur.Faces (bracket.last :: rest)) :
    skipValues strings (fuel + 1) .passed (bracket :: outer) cur =
      skipValues strings fuel .passed outer cur.skip.next := by
  have hpeek := peek_eq (h.rest_eq (isSpace_last bracket))
  simp [skipValues, hpeek, closes_last, last_ne_comma]

/-! ### What the grammar gives -/

/-- A text that goes on behind a part of an array or an object. -/
def IsDelimited (rest : List Char) : Prop := ∃ c more, rest = c :: more ∧ c ∈ [',', ']', '\x7d']

theorem isDelimited_last (bracket : Bracket) (rest : List Char) :
    IsDelimited (bracket.last :: rest) := by
  cases bracket <;> exact ⟨_, rest, rfl, by decide⟩

/-- A number is over where blanks and then a sign of the structure follow. -/
theorem endsNumber_gap_append {back : List Char} (hback : IsGap back) (hrest : IsDelimited rest) :
    EndsNumber (back ++ rest) := by
  obtain ⟨c, more, rfl, hc⟩ := hrest
  cases back with
  | nil =>
      simp only [List.mem_cons, List.not_mem_nil, or_false] at hc
      rcases hc with rfl | rfl | rfl <;> (rintro d ⟨⟩; decide)
  | cons b back =>
      rintro d ⟨⟩
      have hb := hback b List.mem_cons_self
      simp only [isSpace, Bool.or_eq_true, beq_iff_eq] at hb
      rcases hb with ((rfl | rfl) | rfl) | rfl <;> decide

theorem skipKey_eq {name between : List Char} (hname : IsStringBody name)
    (hbetween : IsGap between) (hlength : name.length < strings)
    (h : cur.Faces ('"' :: (name ++ '"' :: (between ++ ':' :: rest)))) :
    StopsAt (skipKey strings cur) rest := by
  have hrest := h.rest_eq rfl
  obtain ⟨atColon, hskip, hatColon⟩ := skipString_body hname hlength (rest_next_eq hrest)
  obtain ⟨after, hcolon, hafter⟩ := colon_eq ((faces_of_rest hatColon).of_gap hbetween)
  refine ⟨after, ?_, hafter⟩
  simp only [skipKey, peek_eq hrest, hskip, hcolon]

/-- What is skipped of a text that the grammar gives: a value whatever brackets are open, a part
between its delimiters, and all parts together with the bracket that closes behind them. -/
def Skips (strings : Nat) : Nonterminal → List Char → Prop
  | .value, text => ∀ {cur : Cursor} {rest : List Char} (opens : List Bracket), EndsNumber rest →
      cur.Faces (text ++ rest) → Passes strings (2 * text.length) .value opens cur opens rest
  | .part bracket, text => ∀ {cur : Cursor} {rest : List Char} (outer : List Bracket),
      IsDelimited rest → cur.Faces (text ++ rest) →
        ∃ inside, enter strings bracket cur = .ok inside ∧
          Passes strings (2 * text.length) .value (bracket :: outer) inside (bracket :: outer) rest
  | .parts bracket, text => ∀ {cur : Cursor} {rest : List Char} (outer : List Bracket),
      cur.Faces (text ++ bracket.last :: rest) →
        ∃ inside, enter strings bracket cur = .ok inside ∧
          Passes strings (2 * text.length + 1) .value (bracket :: outer) inside outer rest

theorem passes_scalar (hrest : cur.skip.rest = c :: text) (harray : c ≠ '[') (hobject : c ≠ '\x7b')
    (hskip : StopsAt (skipScalar strings cur.skip c) rest) :
    Passes strings 1 .value opens cur opens rest := by
  obtain ⟨after, hread, hafter⟩ := hskip
  refine .step (fun fuel => ?_) (.of_faces (faces_of_rest hafter))
  exact skipValues_scalar fuel (peek_eq hrest) harray hobject hread

theorem skips_word (hword : text ∈ [['n', 'u', 'l', 'l'], ['t', 'r', 'u', 'e'],
    ['f', 'a', 'l', 's', 'e']]) : Skips strings .value text := by
  intro cur rest opens _ hcur
  have hscalar : ∀ c word, text = c :: word → isSpace c = false → c ≠ '[' → c ≠ '\x7b' →
      skipScalar strings cur.skip c = Cursor.word word cur.skip.next →
      Passes strings (2 * text.length) .value opens cur opens rest := by
    rintro c word rfl hspace harray hobject hread
    have hrest := hcur.rest_eq hspace
    refine (passes_scalar hrest harray hobject ?_).mono (by rw [List.length_cons]; omega)
    rw [hread]
    exact word_written (rest_next_eq hrest)
  simp only [List.mem_cons, List.not_mem_nil, or_false] at hword
  rcases hword with rfl | rfl | rfl
  · exact hscalar 'n' _ rfl rfl (by decide) (by decide) rfl
  · exact hscalar 't' _ rfl rfl (by decide) (by decide) rfl
  · exact hscalar 'f' _ rfl rfl (by decide) (by decide) rfl

private theorem skipScalar_digit (hc : c.isDigit = true) :
    skipScalar strings cur c = skipNumber strings cur := by
  unfold skipScalar
  split
  iterate 5 cases hc
  rw [if_pos hc]

theorem skips_number (hnumber : IsNumber text) (hlength : text.length < strings) :
    Skips strings .value text := by
  intro cur rest opens hends hcur
  obtain ⟨sign, whole, fraction, exponent, hsign, hwhole, hfraction, hexponent, rfl⟩ := hnumber
  rw [List.length_append] at hlength
  have hfuel : (whole ++ (fraction ++ exponent)).length ≤ strings := by omega
  have hone : 1 ≤ 2 * (sign ++ (whole ++ (fraction ++ exponent))).length := by
    obtain ⟨c, digits, rfl, -⟩ := hwhole.exists_cons
    simp only [List.length_append, List.length_cons]
    omega
  simp only [List.append_assoc] at hcur
  simp only [List.mem_cons, List.not_mem_nil, or_false] at hsign
  -- A digit is left to the number's own reader, but a sign is taken first.
  rcases hsign with rfl | rfl
  · obtain ⟨c, digits, hbegin, hc⟩ := hwhole.exists_cons
    have hdigit : ∀ d : Char, d.isDigit = false → c ≠ d := by
      rintro d hd rfl
      exact Bool.eq_false_iff.1 hd hc
    rw [List.nil_append, hbegin] at hcur
    have hrest := hcur.rest_eq (canBegin_of_isDigit hc).1
    refine (passes_scalar hrest (hdigit '[' rfl) (hdigit '\x7b' rfl) ?_).mono hone
    rw [skipScalar_digit hc]
    exact skipNumber_eq hwhole hfraction hexponent hends hfuel (by rw [hrest, hbegin]; rfl)
  · have hrest := hcur.rest_eq rfl
    refine (passes_scalar hrest (by decide) (by decide) ?_).mono hone
    exact skipNumber_eq hwhole hfraction hexponent hends hfuel (rest_next_eq hrest)

theorem skips_string {body : List Char} (hbody : IsStringBody body)
    (hlength : body.length < strings) :
    Skips strings .value ('"' :: (body ++ ['"'])) := by
  intro cur rest opens _ hcur
  rw [List.cons_append, List.append_assoc] at hcur
  have hrest := hcur.rest_eq rfl
  refine (passes_scalar hrest (by decide) (by decide) ?_).mono (by rw [List.length_cons]; omega)
  exact skipString_body hbody hlength (rest_next_eq hrest)

theorem skips_empty (bracket : Bracket) {gap : List Char} (hgap : IsGap gap) :
    Skips strings .value (bracket.first :: (gap ++ [bracket.last])) := by
  intro cur rest opens _ hcur
  rw [List.cons_append, List.append_assoc] at hcur
  have hinside := (hcur.next (canBegin_first bracket).1).of_gap hgap
  have hbehind := hinside.next (isSpace_last bracket)
  have hpasses : Passes strings 2 .value opens cur opens rest :=
    .step (fun fuel => skipValues_first fuel hcur)
      (.step (fun fuel => skipValues_empty fuel hinside) (.of_faces hbehind))
  exact hpasses.mono (by rw [List.length_cons]; omega)

theorem skips_bracketed {bracket : Bracket} (hparts : Derives (.parts bracket) text)
    (h : Skips strings (.parts bracket) text) :
    Skips strings .value (bracket.first :: (text ++ [bracket.last])) := by
  intro cur rest opens _ hcur
  rw [List.cons_append, List.append_assoc] at hcur
  have hinside := hcur.next (canBegin_first bracket).1
  obtain ⟨inside, henter, hpasses⟩ := h opens hinside.skip
  obtain ⟨gap, c, more, hgap, hc, rfl⟩ := hparts.exists_begin
  rw [List.append_assoc, List.cons_append] at hinside
  have hall := (hpasses.step fun fuel => skipValues_enter fuel hc (hinside.of_gap hgap) henter).step
    fun fuel => skipValues_first fuel hcur
  refine hall.mono ?_
  simp only [List.length_cons, List.length_append, List.length_nil]
  omega

/-- A value with blanks around it. -/
theorem passes_padded {before back : List Char} (h : Skips strings .value text)
    (hbefore : IsGap before) (hback : IsGap back) (hrest : IsDelimited rest)
    (hcur : cur.Faces (before ++ (text ++ back) ++ rest)) :
    Passes strings (2 * text.length) .value opens cur opens rest := by
  rw [List.append_assoc, List.append_assoc] at hcur
  have hvalue := h opens (endsNumber_gap_append hback hrest) (hcur.of_gap hbefore)
  exact hvalue.trans fun after hafter => .of_faces (hafter.of_gap hback)

theorem skips_item {front back : List Char} (hfront : IsGap front) (h : Skips strings .value text)
    (hback : IsGap back) : Skips strings (.part .array) (front ++ (text ++ back)) := by
  intro cur rest outer hrest hcur
  refine ⟨cur, rfl, (passes_padded h hfront hback hrest hcur).mono ?_⟩
  simp only [List.length_append]
  omega

private theorem skips_member {front name between before back : List Char} (hfront : IsGap front)
    (hname : IsStringBody name) (hbetween : IsGap between) (hbefore : IsGap before)
    (h : Skips strings .value text) (hback : IsGap back) (hlength : name.length < strings) :
    Skips strings (.part .object)
      (front ++ '"' :: (name ++ '"' :: (between ++ ':' :: (before ++ (text ++ back))))) := by
  intro cur rest outer hrest hcur
  simp only [List.append_assoc, List.cons_append] at hcur
  obtain ⟨inside, hkey, hinside⟩ := skipKey_eq hname hbetween hlength (hcur.of_gap hfront)
  have hvalue : inside.Faces (before ++ (text ++ back) ++ rest) := by
    rw [List.append_assoc, List.append_assoc]
    exact faces_of_rest hinside
  refine ⟨inside, hkey, (passes_padded h hbefore hback hrest hvalue).mono ?_⟩
  simp only [List.length_append, List.length_cons]
  omega

private theorem skips_last (h : Skips strings (.part bracket) text) :
    Skips strings (.parts bracket) text := by
  intro cur rest outer hcur
  obtain ⟨inside, henter, hpasses⟩ := h outer (isDelimited_last bracket rest) hcur
  refine ⟨inside, henter, hpasses.trans fun after hafter => ?_⟩
  exact .step (fun fuel => skipValues_last fuel hafter)
    (.of_faces (hafter.next (isSpace_last bracket)))

private theorem skips_comma {behind : List Char} (h : Skips strings (.part bracket) text)
    (hmore : Skips strings (.parts bracket) behind) :
    Skips strings (.parts bracket) (text ++ ',' :: behind) := by
  intro cur rest outer hcur
  rw [List.append_assoc, List.cons_append] at hcur
  obtain ⟨inside, henter, hpasses⟩ := h outer ⟨',', _, rfl, by decide⟩ hcur
  refine ⟨inside, henter, ?_⟩
  have hall : Passes strings (2 * text.length + (2 * behind.length + 1 + 1)) .value
      (bracket :: outer) inside outer rest := by
    refine hpasses.trans fun after hafter => ?_
    obtain ⟨further, henter', hpasses'⟩ := hmore outer (hafter.next rfl)
    exact hpasses'.step fun fuel => skipValues_comma fuel hafter henter'
  refine hall.mono ?_
  rw [List.length_append, List.length_cons]
  omega

private theorem skips_of_derives {form : Nonterminal} (h : Derives form text)
    (hlength : text.length < strings) : Skips strings form text := by
  induction h with
  | word hword => exact skips_word hword
  | number hnumber => exact skips_number hnumber hlength
  | string hbody =>
      rw [List.length_cons, List.length_append] at hlength
      exact skips_string hbody (by omega)
  | empty bracket hgap => exact skips_empty bracket hgap
  | bracketed hparts ih =>
      rw [List.length_cons, List.length_append] at hlength
      exact skips_bracketed hparts (ih (by omega))
  | item hfront _ hback ih =>
      rw [List.length_append, List.length_append] at hlength
      exact skips_item hfront (ih (by omega)) hback
  | member hfront hname hbetween hbefore _ hback ih =>
      simp only [List.length_append, List.length_cons] at hlength
      exact skips_member hfront hname hbetween hbefore (ih (by omega)) hback (by omega)
  | last _ ih => exact skips_last (ih hlength)
  | comma _ _ ih ihmore =>
      rw [List.length_append, List.length_cons] at hlength
      exact skips_comma (ih (by omega)) (ihmore (by omega))

/-- A value that the grammar gives is skipped, whatever blanks are around it. -/
theorem skipValue_derived {before back : List Char} {fuel : Nat} (h : Derives .value text)
    (hbefore : IsGap before) (hback : IsGap back) (hrest : IsDelimited rest)
    (hfuel : text.length < fuel) (hcur : cur.Faces (before ++ (text ++ back) ++ rest)) :
    ∃ after, skipValue fuel cur = .ok after ∧ after.Faces rest := by
  have hpasses : Passes fuel (2 * text.length) .value [] cur [] rest :=
    passes_padded (skips_of_derives h hfuel) hbefore hback hrest hcur
  obtain ⟨steps, after, hsteps, hafter, hrun⟩ := hpasses
  -- One step more than the text takes is left, in which the loop sees that no bracket is open.
  obtain ⟨left, hleft⟩ : ∃ left, 2 * fuel + 2 = left + 1 + steps :=
    ⟨2 * fuel + 1 - steps, by omega⟩
  refine ⟨after, ?_, hafter⟩
  rw [skipValue, hleft, hrun]
  rfl

end Cursor

end NavPolicy.Json
