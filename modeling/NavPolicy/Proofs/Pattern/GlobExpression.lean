import NavPolicy.Proofs.Pattern.GlobLanguage
import NavPolicy.Proofs.Regex.Limits

/-!
# Globs as expressions

The reader of expressions, run on the text that a glob is turned into, gives back the
pieces that the glob was made of.  With the language of those pieces this says what a glob
accepts, whatever its length and its characters.
-/

namespace NavPolicy.Pattern.Glob

open NavPolicy.Regex

/-- How globs spell every character but the star. -/
def spelling : Spelling where
  escapes c := isMeta c || c == '*'
  covers _ hc := of_contains (P := fun c => isMeta c || c == '*') (by decide) hc
  escaped c hc := by
    rcases Bool.or_eq_true_iff.1 hc with hmeta | hstar
    · exact of_contains (by decide) hmeta
    · rw [beq_iff_eq.1 hstar]
      decide

theorem escapeChar_of_ne {c : Char} (hc : c ≠ '*') : escapeChar c = spelling.char c := by
  simp only [escapeChar, if_neg hc, Spelling.char, spelling]
  by_cases hmeta : isMeta c = true
  · simp [hmeta]
  · simp [hmeta, hc]

def charPiece (c : Char) : Piece :=
  if c = '*' then (Piece.ofSet .notLineFeed).repeated '*' else .literal c

/-- What the ending that lets a query or a fragment follow is read as. -/
def tailPiece : Piece :=
  (Piece.concat [.ofSet tailSet, (Piece.ofSet .notLineFeed).repeated '*']).repeated '?'

def slashPiece : Piece := (Piece.literal '/').repeated '?'

/-- No sign that would make a repetition lazy follows a star. -/
theorem head?_escape_append {glob rest : List Char} (hrest : rest.head? ≠ some '?') :
    (escape glob ++ rest).head? ≠ some '?' := by
  cases glob with
  | nil => exact hrest
  | cons c glob =>
      rw [escape_cons, escapeChar]
      split
      · simp
      · split
        · simp
        · rename_i hmeta
          rintro ⟨rfl⟩
          exact hmeta rfl

private theorem dropLazySign_of_head? {cs : List Char} (h : cs.head? ≠ some '?') :
    dropLazySign cs = cs := by
  unfold dropLazySign
  split
  · exact absurd rfl h
  · rfl

/-- The reader takes a glob piece by piece, whatever stands behind it. -/
theorem run_escape (glob : List Char) {rest : List Char} (hrest : rest.head? ≠ some '?')
    {st : State} (hmode : st.mode = {}) (htext : st.rest = escape glob ++ rest) :
    ∃ steps, steps ≤ (escape glob).length ∧ ∀ fuel,
      st.run (fuel + steps) = (pushAll st (glob.map charPiece) rest).run fuel := by
  induction glob generalizing st with
  | nil =>
      refine ⟨0, Nat.le_refl 0, fun fuel => ?_⟩
      obtain ⟨mode, level, outer, names, text⟩ := st
      simp only [escape_nil, List.nil_append] at htext
      subst htext
      rfl
  | cons c glob ih =>
      by_cases hc : c = '*'
      · subst hc
        have hstar : escape ('*' :: glob) = '.' :: '*' :: escape glob := rfl
        let dotted := st.push (.ofSet .notLineFeed) ('*' :: (escape glob ++ rest))
        let starred := pushAll st [charPiece '*'] (escape glob ++ rest)
        have hdot : st.step '.' ('*' :: (escape glob ++ rest)) = some dotted := by
          simp only [State.step, hmode]
          rfl
        have hamend : dotted.step '*' (escape glob ++ rest) = some starred := by
          simp only [State.step, dropLazySign_of_head? (head?_escape_append hrest)]
          rfl
        obtain ⟨steps, hle, hrun⟩ := @ih starred hmode rfl
        refine ⟨steps + 2, by rw [hstar, List.length_cons, List.length_cons]; omega, fun fuel => ?_⟩
        rw [hstar] at htext
        calc
          st.run (fuel + (steps + 2)) = dotted.run (fuel + steps + 1) :=
            State.run_succ hmode htext hdot (fuel + steps + 1)
          _ = starred.run (fuel + steps) :=
            State.run_succ (show dotted.mode = {} from hmode) rfl hamend (fuel + steps)
          _ = (pushAll starred (glob.map charPiece) rest).run fuel := hrun fuel
          _ = (pushAll st (('*' :: glob).map charPiece) rest).run fuel := by
            simp [starred, pushAll]
      · rw [escape_cons, escapeChar_of_ne hc, List.append_assoc] at htext
        let next := st.push (.literal c) (escape glob ++ rest)
        obtain ⟨steps, hle, hrun⟩ := @ih next hmode rfl
        have hlength : 1 ≤ (escapeChar c).length := by
          rw [escapeChar]
          split
          · decide
          · split <;> simp
        refine ⟨steps + 1, by rw [escape_cons, List.length_append]; omega, fun fuel => ?_⟩
        calc
          st.run (fuel + (steps + 1)) = next.run (fuel + steps) :=
            spelling.run_char hmode c htext (fuel + steps)
          _ = (pushAll next (glob.map charPiece) rest).run fuel := hrun fuel
          _ = (pushAll st ((c :: glob).map charPiece) rest).run fuel := by
            simp [next, pushAll, State.push, Level.push, charPiece, hc]

/-! ## The endings -/

/-- The reader takes an ending, behind which nothing follows, for some pieces. -/
structure IsRead (ending : List Char) (ps : List Piece) : Prop where
  head : ending.head? ≠ some '?'
  run : ∃ rounds, rounds ≤ ending.length ∧ ∀ {st : State}, st.mode = {} → st.outer = [] →
    st.rest = ending → ∀ fuel,
      st.run (fuel + rounds) = some (pushAll st ps []).level.close

/-- It is enough to follow the reader over the ending outside of any group. -/
theorem IsRead.of_rounds {ending : List Char} {ps : List Piece} (head : ending.head? ≠ some '?')
    {rounds : Nat} (hle : rounds ≤ ending.length)
    (h : ∀ (level : Level) (names : List (List Char)) (fuel : Nat),
      let st : State := { level := level, names := names, rest := ending }
      st.run (fuel + rounds) = some (pushAll st ps []).level.close) : IsRead ending ps where
  head := head
  run := by
    refine ⟨rounds, hle, fun {st} hmode houter hrest fuel => ?_⟩
    obtain ⟨mode, level, outer, names, text⟩ := st
    simp only at hmode houter hrest
    subst hmode houter hrest
    exact h level names fuel

theorem isRead_nil : IsRead [] [] := by
  apply IsRead.of_rounds (by decide) (Nat.le_refl 0)
  intro level names fuel
  cases fuel <;> rfl

theorem isRead_dollar : IsRead ['$'] [.ofLook .textEnd] := by
  apply IsRead.of_rounds (by decide) (Nat.le_refl 1)
  intro level names fuel
  cases fuel <;> rfl

theorem isRead_suffix : IsRead suffix [tailPiece, .ofLook .textEnd] := by
  apply IsRead.of_rounds (by decide) (show 7 ≤ suffix.length by decide)
  intro level names fuel
  cases fuel <;> rfl

theorem isRead_slash_suffix :
    IsRead (['(', '?', ':', '\\', '/', ')', '?'] ++ suffix)
      [slashPiece, tailPiece, .ofLook .textEnd] := by
  apply IsRead.of_rounds (by decide) (show 11 ≤ _ by decide)
  intro level names fuel
  cases fuel <;> rfl

/-- A glob with an ending behind it is read as the pieces of both. -/
theorem IsRead.run_escape {ending : List Char} {ps : List Piece} (h : IsRead ending ps)
    (glob : List Char) {st : State} (hmode : st.mode = {}) (houter : st.outer = [])
    (htext : st.rest = escape glob ++ ending) :
    st.run st.rest.length = some (pushAll st (glob.map charPiece ++ ps) []).level.close := by
  obtain ⟨rounds, hrounds, hending⟩ := h.run
  obtain ⟨steps, hle, hrun⟩ := Glob.run_escape glob h.head hmode htext
  have hlength : rounds + steps ≤ st.rest.length := by
    rw [htext, List.length_append]
    omega
  obtain ⟨spare, hspare⟩ := Nat.exists_eq_add_of_le' hlength
  rw [hspare, ← Nat.add_assoc, hrun, hending (by exact hmode) (by exact houter) rfl]
  simp [pushAll]

/-! ## The whole expression -/

def pieces (glob : List Char) : List Piece :=
  match shape glob with
  | .openPath => .ofLook .textStart :: (glob.map charPiece ++ [tailPiece, .ofLook .textEnd])
  | .path =>
      .ofLook .textStart ::
        ((stem glob).map charPiece ++ [slashPiece, tailPiece, .ofLook .textEnd])
  | .whole => .ofLook .textStart :: (glob.map charPiece ++ [.ofLook .textEnd])
  | .address => .ofLook .textStart :: (glob.map charPiece ++ [tailPiece, .ofLook .textEnd])
  | .part => glob.map charPiece

private theorem parsePiece_anchored {ending : List Char} {ps : List Piece} (h : IsRead ending ps)
    (glob : List Char) :
    parsePiece ('^' :: (escape glob ++ ending)) =
      some (Piece.concat (.ofLook .textStart :: (glob.map charPiece ++ ps))) := by
  -- The anchor in front is one round; the state behind it is where the glob begins.
  let st : State := State.push { rest := [] } (.ofLook .textStart) (escape glob ++ ending)
  calc
    parsePiece ('^' :: (escape glob ++ ending)) = st.run st.rest.length := rfl
    _ = some (pushAll st (glob.map charPiece ++ ps) []).level.close :=
      h.run_escape glob rfl rfl rfl
    _ = some (Piece.concat (.ofLook .textStart :: (glob.map charPiece ++ ps))) := by
      simp [st, pushAll, State.push, Level.push, Level.close, Level.nextBranch, Piece.choice]

/-- The expression of a glob is read, one piece for each of its characters. -/
theorem parsePiece_expression (glob : List Char) :
    parsePiece (expression glob) = some (Piece.concat (pieces glob)) := by
  rw [expression, pieces]
  cases shape glob with
  | openPath => exact parsePiece_anchored isRead_suffix glob
  | path =>
      simp only [List.append_assoc]
      exact parsePiece_anchored isRead_slash_suffix (stem glob)
  | whole => exact parsePiece_anchored isRead_dollar glob
  | address => exact parsePiece_anchored isRead_suffix glob
  | part =>
      let st : State := { rest := escape glob }
      have hmode : st.mode = {} := rfl
      have hrun := isRead_nil.run_escape glob hmode rfl (List.append_nil _).symm
      rw [parsePiece, hrun]
      simp [st, pushAll, Level.close, Level.nextBranch, Piece.choice]

@[simp]
theorem expr_charPiece (c : Char) : (charPiece c).expr = charExpr c := by
  rw [charPiece, charExpr]
  split <;> rfl

theorem map_expr_charPiece (glob : List Char) :
    (glob.map charPiece).map Piece.expr = glob.map charExpr := by
  simp

/-- No repetition of a glob's expression is counted. -/
theorem inOrder_pieces (glob : List Char) : ∀ p ∈ pieces glob, p.expr.InOrder := by
  have hchar : ∀ c, (charPiece c).expr.InOrder := by
    intro c
    rw [charPiece]
    split <;> trivial
  have htail : tailPiece.expr.InOrder := by
    refine ⟨trivial, Expr.inOrder_concat fun e he => ?_⟩
    rcases List.mem_cons.1 he with rfl | he
    · trivial
    · rw [List.mem_singleton.1 he]
      trivial
  have hslash : slashPiece.expr.InOrder := ⟨trivial, trivial⟩
  intro p hp
  rw [pieces] at hp
  cases hshape : shape glob <;>
    simp only [hshape, List.mem_cons, List.mem_append, List.mem_map, List.not_mem_nil,
      or_false] at hp
  case openPath | address =>
    rcases hp with rfl | ⟨c, -, rfl⟩ | rfl | rfl
    · trivial
    · exact hchar c
    · exact htail
    · trivial
  case path =>
    rcases hp with rfl | ⟨c, -, rfl⟩ | rfl | rfl | rfl
    · trivial
    · exact hchar c
    · exact hslash
    · exact htail
    · trivial
  case whole =>
    rcases hp with rfl | ⟨c, -, rfl⟩ | rfl
    · trivial
    · exact hchar c
    · trivial
  case part =>
    obtain ⟨c, -, rfl⟩ := hp
    exact hchar c

theorem matchesAll_tail_iff {left m right : List Char} :
    MatchesAll [tailExpr, .look .textEnd] left m right ↔ IsTail m ∧ right = [] := by
  simp only [matchesAll_cons_iff, matches_tailExpr_iff, matches_textEnd_iff, matchesAll_nil_iff]
  constructor
  · rintro ⟨q, _, rfl, hq, _, _, rfl, ⟨rfl, hright⟩, rfl⟩
    exact ⟨by simpa using hq, hright⟩
  · rintro ⟨hq, rfl⟩
    exact ⟨m, [], by simp, hq, [], [], rfl, ⟨rfl, rfl⟩, rfl⟩

/-- An expression that is anchored in front is found in a text if the rest of it matches
from the beginning. -/
theorem foundIn_anchored_iff {es : List Expr} {text : List Char} :
    (Expr.concat (.look .textStart :: es)).FoundIn text ↔
      ∃ m right, text = m ++ right ∧ MatchesAll es [] m right := by
  simp only [Expr.FoundIn, matches_concat_iff, matchesAll_cons_iff, matches_textStart_iff]
  constructor
  · rintro ⟨_, _, right, rfl, _, m, rfl, ⟨rfl, rfl⟩, hm⟩
    exact ⟨m, right, rfl, hm⟩
  · rintro ⟨m, right, rfl, hm⟩
    exact ⟨[], m, right, rfl, [], m, rfl, ⟨rfl, rfl⟩, hm⟩

/-- A glob with a tail behind it. -/
theorem foundIn_tailed_iff {glob text : List Char} :
    (Expr.concat (.look .textStart :: (glob.map charExpr ++ [tailExpr, .look .textEnd]))).FoundIn
        text ↔
      ∃ s q, text = s ++ q ∧ Fits glob s ∧ IsTail q := by
  simp only [foundIn_anchored_iff, matchesAll_append_iff, matchesAll_chars_iff,
    matchesAll_tail_iff]
  constructor
  · rintro ⟨_, _, rfl, s, q, rfl, hs, hq, rfl⟩
    exact ⟨s, q, by simp, hs, hq⟩
  · rintro ⟨s, q, rfl, hs, hq⟩
    exact ⟨s ++ q, [], by simp, s, q, rfl, hs, hq, rfl⟩

/-- What a glob was turned into is found exactly in the candidates that the glob accepts. -/
theorem foundIn_pieces_iff (glob text : List Char) :
    (Piece.concat (pieces glob)).expr.FoundIn text ↔ Accepts glob text := by
  rw [expr_concat]
  rw [pieces, Accepts]
  cases shape glob with
  | openPath =>
      simp only [List.map_cons, List.map_append, map_expr_charPiece]
      exact foundIn_tailed_iff
  | path =>
      simp only [List.map_cons, List.map_append, map_expr_charPiece, List.map_nil]
      change (Expr.concat (.look .textStart :: ((stem glob).map charExpr ++
        slashExpr :: [tailExpr, .look .textEnd]))).FoundIn text ↔ _
      simp only [foundIn_anchored_iff, matchesAll_append_iff, matchesAll_chars_iff,
        matchesAll_cons_iff (e := slashExpr), matches_slashExpr_iff, matchesAll_tail_iff]
      constructor
      · rintro ⟨_, _, rfl, s, _, rfl, hs, z, q, rfl, hz, hq, rfl⟩
        exact ⟨s, z, q, by simp, hs, hz, hq⟩
      · rintro ⟨s, z, q, rfl, hs, hz, hq⟩
        exact ⟨s ++ (z ++ q), [], by simp, s, z ++ q, rfl, hs, z, q, rfl, hz, hq, rfl⟩
  | whole =>
      simp only [List.map_cons, List.map_append, map_expr_charPiece, List.map_nil]
      change (Expr.concat (.look .textStart :: (glob.map charExpr ++
        [.look .textEnd]))).FoundIn text ↔ _
      simp only [foundIn_anchored_iff, matchesAll_append_iff, matchesAll_chars_iff,
        matchesAll_singleton_iff, matches_textEnd_iff]
      constructor
      · rintro ⟨_, _, rfl, s, _, rfl, hs, rfl, rfl⟩
        simpa using hs
      · intro h
        exact ⟨text, [], by simp, text, [], by simp, h, rfl, rfl⟩
  | address =>
      simp only [List.map_cons, List.map_append, map_expr_charPiece]
      exact foundIn_tailed_iff
  | part =>
      simp only [map_expr_charPiece, Expr.FoundIn, matches_concat_iff, matchesAll_chars_iff]
      constructor
      · rintro ⟨left, m, right, rfl, hm⟩
        exact ⟨left.reverse, m, right, by simp, hm⟩
      · rintro ⟨a, m, b, rfl, hm⟩
        exact ⟨a.reverse, m, b, by simp, hm⟩

/-- The expression of a glob, once it is within the limits, is found exactly in the
candidates that the glob accepts. -/
theorem isFoundIn_iff_accepts {glob : List Char} {e : Expr}
    (hparse : parse (expression glob) = some e) (text : List Char) :
    e.isFoundIn text = true ↔ Accepts glob text := by
  rw [parse, parsePiece_expression, Option.bind_some] at hparse
  split at hparse
  · cases hparse
    have horder : (Piece.concat (pieces glob)).expr.InOrder := by
      rw [expr_concat]
      apply Expr.inOrder_concat
      intro e he
      obtain ⟨p, hp, rfl⟩ := List.mem_map.1 he
      exact inOrder_pieces glob p hp
    rw [isFoundIn_iff horder, foundIn_pieces_iff]
  · cases hparse

/-! ## Sizes -/

/-- The length up to which every glob is within the limits. -/
def safeLength : Nat := 60000

structure IsBounded (p : Piece) : Prop where
  height : p.height ≤ 3
  least : Piece.stateSize ≤ p.cost
  most : p.cost ≤ 160

theorem IsBounded.of_state {p : Piece} (hheight : p.height = 0)
    (hcost : p.cost = Piece.stateSize) : IsBounded p where
  height := hheight ▸ Nat.zero_le 3
  least := Nat.le_of_eq hcost.symm
  most := hcost ▸ (by decide : Piece.stateSize ≤ 160)

private theorem isBounded_charPiece (c : Char) : IsBounded (charPiece c) := by
  have hranges : CharSet.notLineFeed.rangeCount ≤ 2 := CharSet.rangeCount_le _
  rw [charPiece]
  split
  · have hcost : ((Piece.ofSet .notLineFeed).repeated '*').cost =
        32 + 8 * CharSet.notLineFeed.rangeCount + 32 := rfl
    exact ⟨by decide, by rw [hcost, Piece.stateSize]; omega, by omega⟩
  · exact .of_state rfl rfl

private theorem isBounded_tailPiece : IsBounded tailPiece := by
  have hranges : CharSet.notLineFeed.rangeCount ≤ 2 := CharSet.rangeCount_le _
  have htail : tailSet.rangeCount ≤ 2 := CharSet.rangeCount_le _
  have hcost : tailPiece.cost = 0 + (32 + 8 * tailSet.rangeCount) +
    (32 + 8 * CharSet.notLineFeed.rangeCount + 32) + 32 := rfl
  exact ⟨by decide, by rw [hcost, Piece.stateSize]; omega, by omega⟩

theorem isBounded_of_mem_pieces (glob : List Char) : ∀ p ∈ pieces glob, IsBounded p := by
  have hlook : ∀ l, IsBounded (.ofLook l) := fun l => .of_state rfl rfl
  have hslash : IsBounded slashPiece := ⟨by decide, by decide, by decide⟩
  have hchars : ∀ glob, ∀ p ∈ List.map charPiece glob, IsBounded p := by
    intro glob p hp
    obtain ⟨c, -, rfl⟩ := List.mem_map.1 hp
    exact isBounded_charPiece c
  have hend : ∀ ps : List Piece, (∀ p ∈ ps, IsBounded p) → ∀ glob,
      ∀ p ∈ Piece.ofLook .textStart :: (List.map charPiece glob ++ ps), IsBounded p := by
    intro ps hps glob p hp
    rcases List.mem_cons.1 hp with rfl | hp
    · exact hlook _
    · rcases List.mem_append.1 hp with hp | hp
      · exact hchars glob p hp
      · exact hps p hp
  rw [pieces]
  cases shape glob with
  | openPath | address => exact hend _ (by simp [isBounded_tailPiece, hlook]) glob
  | path => exact hend _ (by simp [isBounded_tailPiece, hlook, hslash]) (stem glob)
  | whole => exact hend _ (by simp [hlook]) glob
  | part => exact hchars glob

private theorem length_pieces_le (glob : List Char) : (pieces glob).length ≤ glob.length + 4 := by
  have hstem : (stem glob).length ≤ glob.length := by
    rw [stem]
    split
    · exact Nat.le_trans (Nat.le_of_eq List.length_dropLast) (Nat.sub_le _ _)
    · exact Nat.le_refl _
  rw [pieces]
  cases shape glob <;>
    · simp only [List.length_cons, List.length_append, List.length_map, List.length_nil]
      omega

theorem length_le_length_pieces (glob : List Char) : glob.length ≤ (pieces glob).length := by
  have hstem : glob.length ≤ (stem glob).length + 1 := by
    rw [stem]
    split
    · rw [List.length_dropLast]
      omega
    · exact Nat.le_succ _
  rw [pieces]
  cases shape glob <;>
    · simp only [List.length_cons, List.length_append, List.length_map, List.length_nil]
      omega

/-- Whether the program for a glob's expression is within the limit on sizes. -/
def IsSmall (glob : List Char) : Prop :=
  ∀ p, parsePiece (expression glob) = some p → p.cost ≤ Piece.costLimit

/-- Every glob up to a safe length is within the limits. -/
theorem isSmall_of_length_le {glob : List Char} (hlength : glob.length ≤ safeLength) :
    IsSmall glob := by
  intro p hp
  rw [parsePiece_expression, Option.some.injEq] at hp
  subst hp
  have hcost : (Piece.concat (pieces glob)).cost ≤ 160 * ((pieces glob).length + 1) :=
    Piece.concat_cost_le (by decide) fun p hp => (isBounded_of_mem_pieces glob p hp).most
  have hcount := length_pieces_le glob
  simp only [safeLength] at hlength
  simp only [Piece.costLimit]
  omega

/-- A glob is too large if a single state for each of its characters is. -/
theorem not_isSmall_of_lt_length {glob : List Char}
    (hlength : Piece.costLimit < Piece.stateSize * glob.length) : ¬IsSmall glob := by
  intro hsmall
  have hcost : Piece.stateSize * (pieces glob).length ≤ (Piece.concat (pieces glob)).cost :=
    Piece.le_concat_cost fun p hp => (isBounded_of_mem_pieces glob p hp).least
  have hcount := Nat.mul_le_mul_left Piece.stateSize (length_le_length_pieces glob)
  have hlimit := hsmall _ (parsePiece_expression glob)
  omega

/-- A glob that is too large has no expression. -/
theorem parse_expression_of_not_isSmall {glob : List Char} (h : ¬IsSmall glob) :
    parse (expression glob) = none := by
  cases hparse : parse (expression glob) with
  | none => rfl
  | some e =>
      refine absurd (fun p hp => ?_) h
      rw [parse, hp, Option.bind_some] at hparse
      split at hparse
      · rename_i hlimits
        rw [Piece.withinLimits, Bool.and_eq_true, decide_eq_true_eq, decide_eq_true_eq] at hlimits
        exact hlimits.2
      · cases hparse

/-- A glob's expression never nests too deeply, so only its size can make it be refused. -/
theorem exists_parse_expression {glob : List Char} (hsmall : IsSmall glob) :
    ∃ e, parse (expression glob) = some e := by
  have hheight : (Piece.concat (pieces glob)).height ≤ 3 + 1 :=
    Piece.concat_height_le fun p hp => (isBounded_of_mem_pieces glob p hp).height
  have hlimit : (Piece.concat (pieces glob)).height ≤ Piece.heightLimit :=
    Nat.le_trans hheight (by decide)
  exact ⟨_, parse_eq_some (parsePiece_expression glob) hlimit hsmall⟩

end NavPolicy.Pattern.Glob

namespace NavPolicy.Pattern.Matcher

/-- The pattern without the blanks around it. -/
def core (pattern : String) : List Char := Text.trimBlanks pattern.toList

private theorem exists_parse_of_kind_glob {pattern : String} (h : (compile pattern).kind = .glob) :
    ∃ e, Regex.parse (Glob.expression (core pattern)) = some e ∧
      ∀ candidate, (compile pattern).isMatch candidate = e.isFoundIn candidate.toList := by
  have hregex : ∀ c, ofRegex? (core pattern) = some c → c.written = .regex := by
    intro c hc
    rw [ofRegex?] at hc
    split at hc
    · obtain ⟨e, -, rfl⟩ := Option.map_eq_some_iff.1 hc
      rfl
    · cases hc
  cases hcompiled : (compile pattern).compiled with
  | none => simp [kind, hcompiled] at h
  | some c =>
      have hwritten : c.written = .glob := by
        cases hw : c.written with
        | regex => simp [kind, hcompiled, hw] at h
        | glob => rfl
      have hglob : ofGlob? (core pattern) = some c := by
        simp only [compile] at hcompiled
        split at hcompiled
        · cases hcompiled
        · have hread : ofRegex? (core pattern) = some c ∨
              ofRegex? (core pattern) = none ∧ ofGlob? (core pattern) = some c := by
            simpa [core] using hcompiled
          rcases hread with hreg | ⟨-, hglob⟩
          · rw [hregex c hreg] at hwritten
            cases hwritten
          · exact hglob
      obtain ⟨e, he, rfl⟩ := Option.map_eq_some_iff.1 hglob
      refine ⟨e, he, fun candidate => ?_⟩
      simp [isMatch, hcompiled]

/-- A pattern that was read as a glob matches exactly what the glob accepts. -/
theorem isMatch_iff_accepts {pattern : String} (h : (compile pattern).kind = .glob)
    (candidate : String) :
    (compile pattern).isMatch candidate = true ↔
      Glob.Accepts (core pattern) candidate.toList := by
  obtain ⟨e, he, hmatch⟩ := exists_parse_of_kind_glob h
  rw [hmatch, Glob.isFoundIn_iff_accepts he]

/-- A pattern that is not read as an expression is read as a glob, unless it is too large. -/
theorem kind_eq_glob_of_isSmall {pattern : String} (hne : core pattern ≠ [])
    (hregex : ofRegex? (core pattern) = none) (hsmall : Glob.IsSmall (core pattern)) :
    (compile pattern).kind = .glob := by
  obtain ⟨e, he⟩ := Glob.exists_parse_expression hsmall
  have hcompiled : (compile pattern).compiled =
      some ⟨.glob, String.ofList (Glob.expression (core pattern)), e⟩ := by
    have hempty : (core pattern).isEmpty = false := by simpa using hne
    simp only [core] at hempty hregex he
    simp [compile, hempty, hregex, ofGlob?, he, core]
  simp [kind, hcompiled]

/-- A pattern that is not read as an expression and is too large for a glob matches nothing. -/
theorem isMatch_of_not_isSmall {pattern : String} (hregex : ofRegex? (core pattern) = none)
    (hlarge : ¬Glob.IsSmall (core pattern)) (candidate : String) :
    (compile pattern).isMatch candidate = false := by
  have hglob : ofGlob? (core pattern) = none := by
    rw [ofGlob?, Glob.parse_expression_of_not_isSmall hlarge]
    rfl
  have hcompiled : (compile pattern).compiled = none := by
    simp only [core] at hregex hglob
    simp [compile, hregex, hglob]
  rw [isMatch, hcompiled]
  rfl

/-- A pattern of moderate length that does not look like an expression is read as a glob. -/
theorem kind_eq_glob {pattern : String} (hne : core pattern ≠ [])
    (hlook : hasRegexLook (core pattern) = false)
    (hlength : (core pattern).length ≤ Glob.safeLength) : (compile pattern).kind = .glob := by
  have hregex : ofRegex? (core pattern) = none := by
    simp [ofRegex?, hlook]
  exact kind_eq_glob_of_isSmall hne hregex (Glob.isSmall_of_length_le hlength)

end NavPolicy.Pattern.Matcher
