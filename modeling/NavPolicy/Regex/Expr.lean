import NavPolicy.Regex.CharSet

/-!
# Regular expressions

The syntax of expressions after parsing, the assertions about a place in a text, and
the relation `Matches`, which says what part of a text an expression stands for.  The
relation is the meaning of expressions; `NavPolicy.Regex.Search` decides it.
-/

namespace NavPolicy.Regex

/-- An assertion about a place in a text. -/
inductive Look where
  | textStart
  | textEnd
  | lineStart
  | lineEnd
  | lineStartCRLF
  | lineEndCRLF
  | wordEdge
  | notWordEdge
  | wordStart
  | wordEnd
  | wordStartHalf
  | wordEndHalf
  deriving DecidableEq, Repr

/-- A place in a text, seen through the characters on its two sides. -/
structure Place where
  before : Option Char
  after : Option Char
  deriving DecidableEq, Repr

/-- Whether a character, if there is one, is an ASCII word character. -/
def isWordSide : Option Char → Bool
  | none => false
  | some c => CharSet.wordChars.contains c

/-- Whether an assertion holds at a place.  Where a carriage return and a line feed
both end lines, no line starts or ends between the two. -/
def Look.holds (p : Place) : Look → Bool
  | textStart => p.before.isNone
  | textEnd => p.after.isNone
  | lineStart => p.before.isNone || p.before == some '\n'
  | lineEnd => p.after.isNone || p.after == some '\n'
  | lineStartCRLF => p.before.isNone || p.before == some '\n' ||
      (p.before == some '\r' && p.after != some '\n')
  | lineEndCRLF => p.after.isNone || p.after == some '\r' ||
      (p.after == some '\n' && p.before != some '\r')
  | wordEdge => isWordSide p.before != isWordSide p.after
  | notWordEdge => isWordSide p.before == isWordSide p.after
  | wordStart => !isWordSide p.before && isWordSide p.after
  | wordEnd => isWordSide p.before && !isWordSide p.after
  | wordStartHalf => !isWordSide p.before
  | wordEndHalf => !isWordSide p.after

/-- A regular expression. -/
inductive Expr where
  /-- The empty text. -/
  | empty
  /-- One character of a set. -/
  | chars (s : CharSet)
  /-- The empty text, where an assertion holds. -/
  | look (l : Look)
  /-- One expression after another. -/
  | seq (a b : Expr)
  /-- Either of two expressions. -/
  | alt (a b : Expr)
  /-- Any number of times. -/
  | star (a : Expr)
  /-- At least `least` times, and at most `most` times if there is a bound. -/
  | counted (a : Expr) (least : Nat) (most : Option Nat)
  deriving Repr

/-- Join a list with a binary operation, halving it at each step so that the tree stays
shallow however long the list is.  The empty list gives `unit`. -/
def joinHalves {α : Type} (join : α → α → α) (unit : α) : Nat → List α → α
  | _, [] => unit
  | _, [e] => e
  | 0, es => es.foldr join unit
  | steps + 1, es =>
    let half := es.length / 2
    join (joinHalves join unit steps (es.take half)) (joinHalves join unit steps (es.drop half))

def Expr.concat (es : List Expr) : Expr :=
  joinHalves Expr.seq Expr.empty 64 es

def Expr.choice (es : List Expr) : Expr :=
  joinHalves Expr.alt (Expr.chars ⟨[]⟩) 64 es

/-- The place between the text on the left, given backwards, and the text on the right. -/
def Place.between (left right : List Char) : Place :=
  { before := left.head?, after := right.head? }

mutual

/-- `Matches e left m right` says that `e` stands for `m` in the text whose part before
`m`, given backwards, is `left` and whose part after `m` is `right`. -/
inductive Matches : Expr → List Char → List Char → List Char → Prop where
  | empty {left right} : Matches .empty left [] right
  | chars {s : CharSet} {left right c} (h : s.contains c = true) :
      Matches (.chars s) left [c] right
  | look {l : Look} {left right} (h : l.holds (Place.between left right) = true) :
      Matches (.look l) left [] right
  | seq {a b left m n right} (ha : Matches a left m (n ++ right))
      (hb : Matches b (m.reverse ++ left) n right) : Matches (.seq a b) left (m ++ n) right
  | altLeft {a b left m right} (ha : Matches a left m right) : Matches (.alt a b) left m right
  | altRight {a b left m right} (hb : Matches b left m right) : Matches (.alt a b) left m right
  | star {a k left m right} (h : Repeats a k left m right) : Matches (.star a) left m right
  | counted {a k least most left m right} (hleast : least ≤ k) (hmost : ∀ n ∈ most, k ≤ n)
      (h : Repeats a k left m right) : Matches (.counted a least most) left m right

/-- `Repeats a k left m right` says that `m` is `k` parts in a row, each matched by `a`. -/
inductive Repeats : Expr → Nat → List Char → List Char → List Char → Prop where
  | zero {a left right} : Repeats a 0 left [] right
  | succ {a k left m n right} (ha : Matches a left m (n ++ right))
      (hk : Repeats a k (m.reverse ++ left) n right) : Repeats a (k + 1) left (m ++ n) right

end

/-- An expression is found in a text if it matches some part of it. -/
def Expr.FoundIn (e : Expr) (text : List Char) : Prop :=
  ∃ left m right, text = left.reverse ++ m ++ right ∧ Matches e left m right

end NavPolicy.Regex
