import NavPolicy.Regex.Expr

/-!
# Measured expressions

An expression is refused when it nests too deeply or when the program that would run
it grows too large.  A `Piece` is an expression with both measures, built up together
so that no limit needs a second walk over a tree of unknown depth.
-/

namespace NavPolicy.Regex

/-- An expression, the depth of its nesting, and the size in bytes of its program. -/
structure Piece where
  expr : Expr
  height : Nat
  cost : Nat

namespace Piece

/-- How deep expressions may nest. -/
def heightLimit : Nat := 50

/-- How large a program may be, in bytes. -/
def costLimit : Nat := 10 * 1024 * 1024

/-- The size of one state of a program. -/
def stateSize : Nat := 32

def empty : Piece := ⟨.empty, 0, stateSize⟩

def literal (c : Char) : Piece := ⟨.chars (.single c), 0, stateSize⟩

def ofSet (s : CharSet) : Piece := ⟨.chars s, 0, stateSize + 8 * s.rangeCount⟩

def ofLook (l : Look) : Piece := ⟨.look l, 0, stateSize⟩

/-- A group that is numbered or named: it nests one deeper and keeps two positions. -/
def captured (p : Piece) : Piece :=
  { p with height := p.height + 1, cost := p.cost + 2 * stateSize }

def heightOver (ps : List Piece) : Nat :=
  ps.foldl (fun h p => max h p.height) 0 + 1

def costOf (ps : List Piece) : Nat :=
  ps.foldl (fun n p => n + p.cost) 0

def concat : List Piece → Piece
  | [] => empty
  | [p] => p
  | ps => ⟨.concat (ps.map Piece.expr), heightOver ps, costOf ps⟩

def choice : List Piece → Piece
  | [p] => p
  | ps => ⟨.choice (ps.map Piece.expr), heightOver ps, costOf ps + 4 * ps.length + 2 * stateSize⟩

/-- The size of the program for a counted repetition. -/
def countedCost (cost least : Nat) : Option Nat → Nat
  | none => least * cost + (if least = 0 then cost else 0) + stateSize
  | some most => least * cost + (most - least) * (cost + stateSize) + stateSize

/-- A counted repetition.  Zero times is the empty text, and once is the piece itself. -/
def counted (p : Piece) (least : Nat) (most : Option Nat) : Piece :=
  if most = some 0 then empty
  else if least = 1 ∧ most = some 1 then p
  else ⟨.counted p.expr least most, p.height + 1, countedCost p.cost least most⟩

/-- The repetition that one of the signs `?`, `*` and `+` stands for. -/
def repeated (p : Piece) : Char → Piece
  | '?' => ⟨.alt .empty p.expr, p.height + 1, p.cost + stateSize⟩
  | '+' => ⟨.counted p.expr 1 none, p.height + 1, p.cost + stateSize⟩
  | _ => ⟨.star p.expr, p.height + 1, p.cost + stateSize⟩

def withinLimits (p : Piece) : Bool :=
  p.height ≤ heightLimit && p.cost ≤ costLimit

end Piece

end NavPolicy.Regex
