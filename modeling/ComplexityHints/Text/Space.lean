import ComplexityHints.Text.CodePoint

namespace ComplexityHints

/-- White space, the information separators U+001C to U+001F included. -/
def isSpace (c : Char) : Bool :=
  let n := c.toNat
  (9 ≤ n && n ≤ 13) || (28 ≤ n && n ≤ 32) || n == 0x85 || n == 0xA0 || n == 0x1680 ||
    (0x2000 ≤ n && n ≤ 0x200A) || n == 0x2028 || n == 0x2029 || n == 0x202F || n == 0x205F ||
    n == 0x3000

def trimLeft (s : List Char) : List Char := s.dropWhile isSpace

def trimRight (s : List Char) : List Char := (s.reverse.dropWhile isSpace).reverse

def trim (s : List Char) : List Char := trimLeft (trimRight s)

def Text.trimRight (t : Text) : Text := (t.reverse.dropWhile (·.satisfies isSpace)).reverse

end ComplexityHints
