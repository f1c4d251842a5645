/-!
# Sets of characters

A character class of an expression is a finite union of code point ranges.  Folding
of case, complement and the normal form by which a class is measured all work on the
ranges.
-/

namespace NavPolicy.Regex

/-- A union of ranges of code points, both ends of each range included. -/
structure CharSet where
  ranges : List (Nat × Nat)
  deriving DecidableEq, Repr

namespace CharSet

/-- Whether some range covers the character. -/
def contains (s : CharSet) (c : Char) : Bool :=
  s.ranges.any fun r => r.1 ≤ c.toNat && c.toNat ≤ r.2

/-- The largest code point. -/
def maxCode : Nat := 0x10FFFF

def single (c : Char) : CharSet := ⟨[(c.toNat, c.toNat)]⟩

def between (a b : Char) : CharSet := ⟨[(a.toNat, b.toNat)]⟩

def full : CharSet := ⟨[(0, maxCode)]⟩

def union (s t : CharSet) : CharSet := ⟨s.ranges ++ t.ranges⟩

/-- Insert a range in front of ascending disjoint ranges, joining it with those that
it overlaps or touches. -/
def joinRange (r : Nat × Nat) : List (Nat × Nat) → List (Nat × Nat)
  | [] => [r]
  | q :: rest => if q.1 ≤ r.2 + 1 then joinRange (r.1, max r.2 q.2) rest else r :: q :: rest

/-- The same set as ascending ranges of which no two overlap or touch. -/
def canonical (s : CharSet) : CharSet :=
  ⟨(s.ranges.mergeSort fun p q => p.1 ≤ q.1).foldr joinRange []⟩

/-- The code points that ascending disjoint ranges leave out, from `low` on. -/
def gaps (low : Nat) : List (Nat × Nat) → List (Nat × Nat)
  | [] => if low ≤ maxCode then [(low, maxCode)] else []
  | r :: rest => (if low < r.1 then [(low, r.1 - 1)] else []) ++ gaps (r.2 + 1) rest

def complement (s : CharSet) : CharSet :=
  ⟨gaps 0 s.canonical.ranges⟩

/-- The part of a range between two code points, moved by an offset. -/
def shiftedPart (low high : Nat) (move : Nat → Nat) (r : Nat × Nat) : List (Nat × Nat) :=
  let first := max low r.1
  let last := min high r.2
  if first ≤ last then [(move first, move last)] else []

def foldCase (s : CharSet) : CharSet :=
  ⟨s.ranges ++ s.ranges.flatMap (shiftedPart 97 122 (· - 32)) ++
    s.ranges.flatMap (shiftedPart 65 90 (· + 32))⟩

/-- How many ranges the normal form has. -/
def rangeCount (s : CharSet) : Nat :=
  s.canonical.ranges.length

def digits : CharSet := between '0' '9'

def spaces : CharSet := ⟨[(9, 13), (32, 32)]⟩

def wordChars : CharSet := ⟨[(48, 57), (65, 90), (95, 95), (97, 122)]⟩

def notLineFeed : CharSet := ⟨[(0, 9), (11, maxCode)]⟩

def notLineEnd : CharSet := ⟨[(0, 9), (11, 12), (14, maxCode)]⟩

/-- The class that a bracketed name such as `[:alpha:]` stands for. -/
def named? : String → Option CharSet
  | "alnum" => some ⟨[(48, 57), (65, 90), (97, 122)]⟩
  | "alpha" => some ⟨[(65, 90), (97, 122)]⟩
  | "ascii" => some ⟨[(0, 127)]⟩
  | "blank" => some ⟨[(9, 9), (32, 32)]⟩
  | "cntrl" => some ⟨[(0, 31), (127, 127)]⟩
  | "digit" => some digits
  | "graph" => some ⟨[(33, 126)]⟩
  | "lower" => some ⟨[(97, 122)]⟩
  | "print" => some ⟨[(32, 126)]⟩
  | "punct" => some ⟨[(33, 47), (58, 64), (91, 96), (123, 126)]⟩
  | "space" => some spaces
  | "upper" => some ⟨[(65, 90)]⟩
  | "word" => some wordChars
  | "xdigit" => some ⟨[(48, 57), (65, 70), (97, 102)]⟩
  | _ => none

@[simp]
theorem contains_single (a c : Char) : (single a).contains c = decide (c = a) := by
  rw [Bool.eq_iff_iff]
  simp only [contains, single, List.any_cons, List.any_nil, Bool.or_false, Bool.and_eq_true,
    decide_eq_true_eq]
  constructor
  · intro h
    exact Char.toNat_inj.1 (by omega)
  · rintro rfl
    omega

@[simp]
theorem contains_union (s t : CharSet) (c : Char) :
    (s.union t).contains c = (s.contains c || t.contains c) := by
  simp [contains, union]

/-- The dot leaves out the line feed and nothing else. -/
theorem contains_notLineFeed (c : Char) : notLineFeed.contains c = decide (c ≠ '\n') := by
  have hmax : c.toNat ≤ maxCode := by
    have := c.valid
    rcases this with h | ⟨_, h⟩ <;> simp only [maxCode, Char.toNat] <;> omega
  have hten : c.toNat = 10 ↔ c = '\n' := by
    constructor
    · intro h
      exact Char.toNat_inj.1 h
    · rintro rfl
      rfl
  rw [Bool.eq_iff_iff]
  simp only [contains, notLineFeed, List.any_cons, List.any_nil, Bool.or_false, Bool.or_eq_true,
    Bool.and_eq_true, decide_eq_true_eq, ne_eq, ← hten]
  omega

end CharSet

end NavPolicy.Regex
