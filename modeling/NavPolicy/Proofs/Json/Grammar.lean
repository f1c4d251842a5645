import NavPolicy.Json.Skip
import NavPolicy.Text.CodeTable

/-!
# The grammar of JSON

Which texts are values, whatever they stand for.  A value may be written with blanks between its
parts, its numbers may be of any size, and its strings may hold escapes that stand for no
character.  An array and an object are built alike: they differ in their brackets and in what
their parts are.
-/

namespace NavPolicy.Json

open Cursor NavPolicy.Text

/-- Blanks, or nothing. -/
def IsGap (text : List Char) : Prop := ∀ c ∈ text, isSpace c = true

/-! ## Numbers -/

/-- One digit or more. -/
def IsDigits (text : List Char) : Prop := text ≠ [] ∧ ∀ c ∈ text, c.isDigit = true

/-- What a number begins with: a zero alone, or digits of which the first is no zero. -/
def IsWhole (text : List Char) : Prop :=
  text = ['0'] ∨ IsDigits text ∧ text.head? ≠ some '0'

/-- Digits behind a point, or nothing. -/
def IsFraction (text : List Char) : Prop :=
  text = [] ∨ ∃ digits, IsDigits digits ∧ text = '.' :: digits

/-- Digits behind a letter and perhaps a sign, or nothing. -/
def IsExponent (text : List Char) : Prop :=
  text = [] ∨ ∃ letter sign digits, letter ∈ ['e', 'E'] ∧ sign ∈ [[], ['+'], ['-']] ∧
    IsDigits digits ∧ text = letter :: (sign ++ digits)

def IsNumber (text : List Char) : Prop :=
  ∃ sign whole fraction exponent, sign ∈ [[], ['-']] ∧ IsWhole whole ∧ IsFraction fraction ∧
    IsExponent exponent ∧ text = sign ++ (whole ++ (fraction ++ exponent))

/-! ## Strings -/

/-- What may stand between the quotation marks of a string. -/
inductive IsStringBody : List Char → Prop where
  | nil : IsStringBody []
  | plain {c : Char} {body : List Char} (hquote : c ≠ '"') (hslash : c ≠ '\\')
      (hcontrol : ¬c.toNat < 32) (hrest : IsStringBody body) : IsStringBody (c :: body)
  | escape {sign : Char} {body : List Char}
      (hsign : sign ∈ ['"', '\\', '/', 'b', 'f', 'n', 'r', 't']) (hrest : IsStringBody body) :
      IsStringBody ('\\' :: sign :: body)
  | unicode {a b c d : Char} {body : List Char}
      (hhex : ∀ digit ∈ [a, b, c, d], (hexDigit? digit).isSome) (hrest : IsStringBody body) :
      IsStringBody ('\\' :: 'u' :: a :: b :: c :: d :: body)

/-! ## Values -/

def Cursor.Bracket.first : Bracket → Char
  | .array => '['
  | .object => '\x7b'

def Cursor.Bracket.last : Bracket → Char
  | .array => ']'
  | .object => '\x7d'

inductive Nonterminal where
  | value
  /-- An item of an array or a member of an object, with the blanks around it. -/
  | part (bracket : Bracket)
  /-- One part or more, with commas between them. -/
  | parts (bracket : Bracket)

/-- The texts that the grammar gives. -/
inductive Derives : Nonterminal → List Char → Prop where
  | word {text : List Char}
      (hword : text ∈ [['n', 'u', 'l', 'l'], ['t', 'r', 'u', 'e'], ['f', 'a', 'l', 's', 'e']]) :
      Derives .value text
  | number {text : List Char} (hnumber : IsNumber text) : Derives .value text
  | string {body : List Char} (hbody : IsStringBody body) :
      Derives .value ('"' :: (body ++ ['"']))
  | empty (bracket : Bracket) {gap : List Char} (hgap : IsGap gap) :
      Derives .value (bracket.first :: (gap ++ [bracket.last]))
  | bracketed {bracket : Bracket} {text : List Char} (hparts : Derives (.parts bracket) text) :
      Derives .value (bracket.first :: (text ++ [bracket.last]))
  | item {front text back : List Char} (hfront : IsGap front) (hvalue : Derives .value text)
      (hback : IsGap back) : Derives (.part .array) (front ++ (text ++ back))
  | member {front name between before text back : List Char} (hfront : IsGap front)
      (hname : IsStringBody name) (hbetween : IsGap between) (hbefore : IsGap before)
      (hvalue : Derives .value text) (hback : IsGap back) :
      Derives (.part .object)
        (front ++ '"' :: (name ++ '"' :: (between ++ ':' :: (before ++ (text ++ back)))))
  | last {bracket : Bracket} {text : List Char} (hpart : Derives (.part bracket) text) :
      Derives (.parts bracket) text
  | comma {bracket : Bracket} {text more : List Char} (hpart : Derives (.part bracket) text)
      (hmore : Derives (.parts bracket) more) : Derives (.parts bracket) (text ++ ',' :: more)

/-! ## How texts begin -/

/-- A character that is no blank and closes no bracket. -/
def CanBegin (c : Char) : Prop := isSpace c = false ∧ c ≠ ']' ∧ c ≠ '\x7d'

instance (c : Char) : Decidable (CanBegin c) :=
  inferInstanceAs (Decidable (isSpace c = false ∧ c ≠ ']' ∧ c ≠ '\x7d'))

theorem CanBegin.closes_eq_false {c : Char} (h : CanBegin c) (bracket : Bracket) :
    closes bracket c = false := by
  cases bracket
  · exact beq_eq_false_iff_ne.2 h.2.1
  · exact beq_eq_false_iff_ne.2 h.2.2

theorem canBegin_of_isDigit {c : Char} (h : c.isDigit = true) : CanBegin c := by
  have hne : ∀ d : Char, d.isDigit = false → c ≠ d := by
    rintro d hd rfl
    exact Bool.eq_false_iff.1 hd h
  exact ⟨by simp [isSpace, hne], hne ']' rfl, hne '\x7d' rfl⟩

theorem canBegin_first (bracket : Bracket) : CanBegin bracket.first := by
  cases bracket <;> decide

theorem IsWhole.exists_cons {text : List Char} (h : IsWhole text) :
    ∃ c more, text = c :: more ∧ c.isDigit = true := by
  rcases h with rfl | ⟨⟨hne, hdigits⟩, -⟩
  · exact ⟨'0', [], rfl, rfl⟩
  · obtain ⟨c, more, rfl⟩ := List.exists_cons_of_ne_nil hne
    exact ⟨c, more, rfl, hdigits c List.mem_cons_self⟩

private theorem IsNumber.exists_begin {text : List Char} (h : IsNumber text) :
    ∃ c more, CanBegin c ∧ text = c :: more := by
  obtain ⟨sign, whole, fraction, exponent, hsign, hwhole, -, -, rfl⟩ := h
  obtain ⟨c, more, rfl, hc⟩ := hwhole.exists_cons
  simp only [List.mem_cons, List.not_mem_nil, or_false] at hsign
  rcases hsign with rfl | rfl
  · exact ⟨c, _, canBegin_of_isDigit hc, rfl⟩
  · exact ⟨'-', _, by decide, rfl⟩

/-- Behind blanks a derived text begins with a character that closes no bracket. -/
theorem Derives.exists_begin {form : Nonterminal} {text : List Char} (h : Derives form text) :
    ∃ gap c more, IsGap gap ∧ CanBegin c ∧ text = gap ++ c :: more := by
  have hnone : IsGap [] := List.forall_mem_nil _
  induction h with
  | word hword =>
      simp only [List.mem_cons, List.not_mem_nil, or_false] at hword
      rcases hword with rfl | rfl | rfl <;> exact ⟨[], _, _, hnone, by decide, rfl⟩
  | number hnumber =>
      obtain ⟨c, more, hc, rfl⟩ := hnumber.exists_begin
      exact ⟨[], c, more, hnone, hc, rfl⟩
  | string => exact ⟨[], _, _, hnone, by decide, rfl⟩
  | empty bracket _ => exact ⟨[], _, _, hnone, canBegin_first bracket, rfl⟩
  | bracketed _ _ => exact ⟨[], _, _, hnone, canBegin_first _, rfl⟩
  | @item front _ back hfront _ _ ih =>
      obtain ⟨gap, c, more, hgap, hc, rfl⟩ := ih
      refine ⟨front ++ gap, c, more ++ back, List.forall_mem_append.2 ⟨hfront, hgap⟩, hc, ?_⟩
      simp only [List.append_assoc, List.cons_append]
  | member hfront _ _ _ _ _ _ => exact ⟨_, '"', _, hfront, by decide, rfl⟩
  | last _ ih => exact ih
  | comma _ _ ih _ =>
      obtain ⟨gap, c, more, hgap, hc, rfl⟩ := ih
      exact ⟨gap, c, _, hgap, hc, List.append_assoc _ _ _⟩

end NavPolicy.Json
