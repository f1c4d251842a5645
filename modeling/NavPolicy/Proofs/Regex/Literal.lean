import Mathlib.Data.List.Infix
import NavPolicy.Regex.Parser
import NavPolicy.Proofs.Regex.Limits
import NavPolicy.Proofs.Regex.Search

/-!
# Expressions that stand for their own text

How the reader takes plain and escaped characters.  A character that opens no construct is
read as itself, and so is an escaped sign; a text written with these two alone is read as
its characters one after another, and is found exactly where it stands in a text.
-/

namespace NavPolicy.Regex

def isSyntaxSign (c : Char) : Bool :=
  ['(', ')', '|', '[', '?', '*', '+', '\x7b', '\\', '.', '^', '$'].contains c

/-- The signs that an escape turns into themselves. -/
def isPlainSign (c : Char) : Bool :=
  c.toNat < 128 && !c.isAlphanum && c != '<' && c != '>'

/-- What holds of each of some signs holds of a character that is one of them. -/
theorem of_contains {signs : List Char} {P : Char → Bool} (h : signs.all P = true) {c : Char}
    (hc : signs.contains c = true) : P c = true :=
  List.all_eq_true.1 h c (List.contains_iff_mem.1 hc)

private theorem escape_plainSign {c : Char} (hc : isPlainSign c = true) (cs : List Char) :
    escape {} (c :: cs) = some (.char c, cs) := by
  simp only [isPlainSign, Bool.and_eq_true, Bool.not_eq_true', decide_eq_true_eq, bne_iff_ne,
    ne_eq] at hc
  obtain ⟨⟨⟨hascii, hsign⟩, hlt⟩, hgt⟩ := hc
  simp only [escape]
  split
  case h_22 =>
      rw [if_pos (by simp [hascii, hsign])]
      rfl
  all_goals first
    | exact absurd hsign (by decide)
    | exact absurd rfl hlt
    | exact absurd rfl hgt

def pushAll (st : State) (ps : List Piece) (rest : List Char) : State :=
  { st with level := { st.level with items := ps.reverse ++ st.level.items }, rest := rest }

namespace State

theorem step_of_not_syntaxSign {st : State} (hmode : st.mode = {}) {c : Char}
    (hc : isSyntaxSign c = false) (cs : List Char) :
    st.step c cs = some (st.push (.literal c) cs) := by
  unfold step
  split
  case h_13 => rw [hmode]; rfl
  all_goals exact absurd hc (by decide)

theorem step_backslash {st : State} (hmode : st.mode = {}) {c : Char}
    (hc : isPlainSign c = true) (cs : List Char) :
    st.step '\\' (c :: cs) = some (st.push (.literal c) cs) := by
  simp only [step, hmode, escape_plainSign hc, Option.map_some]
  rfl

/-- One round of the reader. -/
theorem run_succ {st st' : State} (hmode : st.mode = {}) {c : Char} {cs : List Char}
    (hrest : st.rest = c :: cs) (hstep : st.step c cs = some st') (fuel : Nat) :
    run (fuel + 1) st = run fuel st' := by
  rw [run, hmode, hrest]
  simp only [Mode.skip, Bool.false_eq_true, if_false, hstep]

end State

/-- A way to write characters so that the reader takes each of them as itself: as it is,
or escaped. -/
structure Spelling where
  escapes : Char → Bool
  covers : ∀ c, isSyntaxSign c = true → escapes c = true
  escaped : ∀ c, escapes c = true → isPlainSign c = true

namespace Spelling

def char (s : Spelling) (c : Char) : List Char :=
  if s.escapes c then ['\\', c] else [c]

/-- A text as it is written. -/
def text (s : Spelling) (cs : List Char) : List Char := cs.flatMap s.char

/-- A character that was written is read as itself. -/
theorem run_char (s : Spelling) {st : State} (hmode : st.mode = {}) (c : Char)
    {cs : List Char} (hrest : st.rest = s.char c ++ cs) (fuel : Nat) :
    st.run (fuel + 1) = (st.push (.literal c) cs).run fuel := by
  rw [char] at hrest
  by_cases hc : s.escapes c = true
  · rw [if_pos hc] at hrest
    exact State.run_succ hmode hrest (State.step_backslash hmode (s.escaped c hc) cs) fuel
  · rw [if_neg hc] at hrest
    have hplain : isSyntaxSign c = false := Bool.eq_false_iff.2 fun h => hc (s.covers c h)
    exact State.run_succ hmode hrest (State.step_of_not_syntaxSign hmode hplain cs) fuel

/-- A text that was written is read as its characters, whatever stands behind it. -/
theorem run_text (s : Spelling) (cs : List Char) {rest : List Char} {st : State}
    (hmode : st.mode = {}) (htext : st.rest = s.text cs ++ rest) (fuel : Nat) :
    st.run (fuel + cs.length) = (pushAll st (cs.map Piece.literal) rest).run fuel := by
  induction cs generalizing st with
  | nil =>
      obtain ⟨mode, level, outer, names, behind⟩ := st
      simp only [text, List.flatMap_nil, List.nil_append] at htext
      subst htext
      rfl
  | cons c cs ih =>
      have hcons : st.rest = s.char c ++ (s.text cs ++ rest) := by
        rw [htext, text, List.flatMap_cons, List.append_assoc]
        rfl
      let next := st.push (.literal c) (s.text cs ++ rest)
      calc
        st.run (fuel + (c :: cs).length) = next.run (fuel + cs.length) :=
          s.run_char hmode c hcons (fuel + cs.length)
        _ = (pushAll next (cs.map Piece.literal) rest).run fuel := @ih next hmode rfl
        _ = (pushAll st ((c :: cs).map Piece.literal) rest).run fuel := by
          simp [next, pushAll, State.push, Level.push]

theorem length_le_text (s : Spelling) (cs : List Char) : cs.length ≤ (s.text cs).length := by
  induction cs with
  | nil => exact Nat.le_refl 0
  | cons c cs ih =>
      have hchar : 1 ≤ (s.char c).length := by
        rw [char]
        split <;> simp
      rw [text, List.flatMap_cons, List.length_append, List.length_cons]
      change cs.length + 1 ≤ (s.char c).length + (s.text cs).length
      omega

/-- A text that was written is an expression for its characters one after another. -/
theorem parsePiece_text (s : Spelling) (cs : List Char) :
    parsePiece (s.text cs) = some (Piece.concat (cs.map Piece.literal)) := by
  obtain ⟨spare, hspare⟩ := Nat.exists_eq_add_of_le' (s.length_le_text cs)
  let st : State := { rest := s.text cs }
  have hend : (pushAll st (cs.map Piece.literal) []).run spare =
      some (pushAll st (cs.map Piece.literal) []).level.close := by
    cases spare <;> rfl
  rw [parsePiece, hspare, s.run_text cs rfl (List.append_nil _).symm, hend]
  simp [st, pushAll, Level.close, Level.nextBranch, Piece.choice]

end Spelling

/-- Putting pieces together puts their expressions together. -/
theorem expr_concat (ps : List Piece) :
    (Piece.concat ps).expr = .concat (ps.map Piece.expr) := by
  match ps with
  | [] => rfl
  | [p] => rfl
  | p :: q :: ps => rfl

private theorem matchesAll_literals_iff (cs : List Char) {left m right : List Char} :
    MatchesAll (cs.map fun c => .chars (.single c)) left m right ↔ m = cs := by
  induction cs generalizing left m with
  | nil => exact matchesAll_nil_iff
  | cons c cs ih =>
      simp only [List.map_cons, matchesAll_cons_iff, matches_chars_iff, CharSet.contains_single,
        decide_eq_true_eq, ih]
      constructor
      · rintro ⟨_, _, rfl, ⟨d, rfl, rfl⟩, rfl⟩
        rfl
      · rintro rfl
        exact ⟨[c], cs, rfl, ⟨c, rfl, rfl⟩, rfl⟩

/-- The expression that a text was written as is found exactly where the text stands. -/
theorem Spelling.isFoundIn_text_iff (s : Spelling) (cs text : List Char) :
    (parsePiece (s.text cs)).any (·.expr.isFoundIn text) = true ↔ cs <:+: text := by
  have hexpr : (Piece.concat (cs.map Piece.literal)).expr =
      .concat (cs.map fun c => .chars (.single c)) := by
    rw [expr_concat, List.map_map]
    rfl
  have horder : (Expr.concat (cs.map fun c => .chars (.single c))).InOrder := by
    apply Expr.inOrder_concat
    intro e he
    obtain ⟨c, -, rfl⟩ := List.mem_map.1 he
    trivial
  rw [parsePiece_text, Option.any_some, hexpr, isFoundIn_iff horder]
  simp only [Expr.FoundIn, matches_concat_iff, matchesAll_literals_iff]
  constructor
  · rintro ⟨left, m, right, rfl, rfl⟩
    exact ⟨left.reverse, right, by simp⟩
  · rintro ⟨before, after, rfl⟩
    exact ⟨before.reverse, cs, after, by simp, rfl⟩

namespace Spelling

variable (s : Spelling) {cs : List Char}

/-- A text that was written is accepted as an expression if it is not too large, and is found
exactly where the text stands. -/
theorem exists_parse_text (hsize : IsWithinSize (s.text cs)) :
    ∃ e, parse (s.text cs) = some e ∧ ∀ text, e.isFoundIn text = true ↔ cs <:+: text := by
  have hflat : ∀ p ∈ cs.map Piece.literal, p.height ≤ 0 := by
    intro p hp
    obtain ⟨c, -, rfl⟩ := List.mem_map.1 hp
    exact Nat.le_refl 0
  have hheight : (Piece.concat (cs.map Piece.literal)).height ≤ Piece.heightLimit :=
    (Piece.concat_height_le hflat).trans (by decide)
  refine ⟨_, parse_eq_some (s.parsePiece_text cs) hheight hsize, fun text => ?_⟩
  rw [← s.isFoundIn_text_iff, parsePiece_text, Option.any_some]

/-- One state for each character and one more are enough for a text. -/
theorem isWithinSize_text (hlength : Piece.stateSize * (cs.length + 1) ≤ Piece.costLimit) :
    IsWithinSize (s.text cs) := by
  intro p hp
  rw [parsePiece_text, Option.some.injEq] at hp
  subst hp
  have hstates : ∀ p ∈ cs.map Piece.literal, p.cost ≤ Piece.stateSize := by
    intro p hp
    obtain ⟨c, -, rfl⟩ := List.mem_map.1 hp
    exact Nat.le_refl _
  have hcost := Piece.concat_cost_le (Nat.le_refl _) hstates
  rw [List.length_map] at hcost
  exact hcost.trans hlength

/-- What is written differently is different. -/
theorem text_injective : Function.Injective s.text := by
  intro cs ds h
  have hread : ∀ text, cs <:+: text ↔ ds <:+: text := by
    intro text
    rw [← s.isFoundIn_text_iff, ← s.isFoundIn_text_iff, h]
  exact List.infix_antisymm ((hread ds).2 List.infix_rfl) ((hread cs).1 List.infix_rfl)

end Spelling

end NavPolicy.Regex
