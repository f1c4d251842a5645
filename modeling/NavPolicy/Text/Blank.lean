/-!
# Blank characters

Policy strings are read without the blanks around them.  A blank is a character of
the Unicode property `White_Space`: the ASCII controls from tab to carriage return,
the space, and the separators of the higher planes.  Zero-width characters are not
blank.
-/

namespace NavPolicy.Text

/-- The code points of `White_Space`. -/
def isBlankCode (n : Nat) : Bool :=
  (0x09 ≤ n && n ≤ 0x0D) || n == 0x20 || n == 0x85 || n == 0xA0 || n == 0x1680 ||
    (0x2000 ≤ n && n ≤ 0x200A) || n == 0x2028 || n == 0x2029 || n == 0x202F ||
    n == 0x205F || n == 0x3000

def isBlank (c : Char) : Bool :=
  isBlankCode c.toNat

/-- A text without the blanks at its two ends. -/
def trimBlanks (cs : List Char) : List Char :=
  ((cs.dropWhile isBlank).reverse.dropWhile isBlank).reverse

def trim (s : String) : String :=
  String.ofList (trimBlanks s.toList)

@[simp]
theorem trimBlanks_nil : trimBlanks [] = [] := rfl

end NavPolicy.Text
