import NavPolicy.Regex.Expr

/-!
# Searching a text

An expression is found by one pass over the text.  A `Marked` expression carries a
mark on each character set: the set is marked when some partial match has just read a
character with it.  Reading a character moves all marks at once, so the work per
character is the size of the expression and no match is ever undone.
-/

namespace NavPolicy.Regex

/-- An expression in which character sets may be marked as just read. -/
inductive Marked where
  | empty
  | chars (mark : Bool) (s : CharSet)
  | look (l : Look)
  | seq (a b : Marked)
  | alt (a b : Marked)
  | star (a : Marked)
  | plus (a : Marked)

namespace Marked

def concat (es : List Marked) : Marked :=
  joinHalves Marked.seq Marked.empty 64 es

/-- `a` between `least` and `most` times, written out.  The last of the rounds that are
required also stands for those without a bound, so one round takes one copy. -/
def repeated (a : Marked) : Nat → Option Nat → Marked
  | 0, none => star a
  | least + 1, none => concat (List.replicate least a ++ [plus a])
  | least, some most =>
    concat (List.replicate least a ++ List.replicate (most - least) (alt empty a))

def nullable (p : Place) : Marked → Bool
  | empty => true
  | chars _ _ => false
  | look l => l.holds p
  | seq a b => nullable p a && nullable p b
  | alt a b => nullable p a || nullable p b
  | star _ => true
  | plus a => nullable p a

def final (p : Place) : Marked → Bool
  | empty => false
  | chars mark _ => mark
  | look _ => false
  | seq a b => final p b || (final p a && nullable p b)
  | alt a b => final p a || final p b
  | star a => final p a
  | plus a => final p a

/-- Read one character at a place.  `enter` says that a match may begin here. -/
def shift (p : Place) (c : Char) : Bool → Marked → Marked
  | _, empty => empty
  | enter, chars _ s => chars (enter && s.contains c) s
  | _, look l => look l
  | enter, seq a b => seq (shift p c enter a) (shift p c ((enter && nullable p a) || final p a) b)
  | enter, alt a b => alt (shift p c enter a) (shift p c enter b)
  | enter, star a => star (shift p c (enter || final p a) a)
  | enter, plus a => plus (shift p c (enter || final p a) a)

/-- Whether a match ends at the place before the rest of the text or later. -/
def scan (m : Marked) (before : Option Char) : List Char → Bool
  | [] =>
    let p : Place := ⟨before, none⟩
    nullable p m || final p m
  | c :: rest =>
    let p : Place := ⟨before, some c⟩
    nullable p m || final p m || scan (shift p c true m) (some c) rest

end Marked

/-- The expression with no mark set and its counted repetitions written out. -/
def Expr.unmarked : Expr → Marked
  | empty => .empty
  | chars s => .chars false s
  | look l => .look l
  | seq a b => .seq a.unmarked b.unmarked
  | alt a b => .alt a.unmarked b.unmarked
  | star a => .star a.unmarked
  | counted a least most => Marked.repeated a.unmarked least most

def Expr.isFoundIn (e : Expr) (text : List Char) : Bool :=
  e.unmarked.scan none text

end NavPolicy.Regex
