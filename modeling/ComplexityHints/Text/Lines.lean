import ComplexityHints.Text.CodePoint

namespace ComplexityHints

namespace Text

def breakEnds (from_ : Nat) : Text → List Nat
  | [] => []
  | .scalar '\r' :: .scalar '\n' :: rest => (from_ + 2) :: breakEnds (from_ + 2) rest
  | c :: rest =>
    if c.isTerminator then (from_ + 1) :: breakEnds (from_ + 1) rest
    else breakEnds (from_ + 1) rest

theorem lt_of_mem_breakEnds {from_ e : Nat} {t : Text} (h : e ∈ t.breakEnds from_) : from_ < e := by
  fun_induction breakEnds from_ t with
  | case1 => contradiction
  | case2 from_ rest ih =>
    rcases List.mem_cons.1 h with rfl | h
    · omega
    · have hlt := ih h
      omega
  | case3 from_ c rest _ _ ih =>
    rcases List.mem_cons.1 h with rfl | h
    · omega
    · have hlt := ih h
      omega
  | case4 from_ c rest _ _ ih =>
    have hlt := ih h
    omega

def normalizeBreaks : Text → Text
  | [] => []
  | .scalar '\r' :: .scalar '\n' :: rest => .scalar '\n' :: normalizeBreaks rest
  | .scalar '\r' :: rest => .scalar '\n' :: normalizeBreaks rest
  | c :: rest => c :: normalizeBreaks rest

end Text

/-- Characters that end a line of a printed breakdown: beside `\r` and `\n` the vertical tab, the
form feed, three information separators, and the next-line, line and paragraph separators. -/
def endsLine (c : Char) : Bool :=
  let n := c.toNat
  (10 ≤ n && n ≤ 13) || (28 ≤ n && n ≤ 30) || n == 0x85 || n == 0x2028 || n == 0x2029

def splitLines : List Char → List (List Char)
  | [] => []
  | '\r' :: '\n' :: rest => [] :: splitLines rest
  | c :: rest =>
    if endsLine c then [] :: splitLines rest
    else match splitLines rest with
      | [] => [[c]]
      | line :: lines => (c :: line) :: lines

end ComplexityHints
