import ComplexityHints.Glob.Braces

namespace ComplexityHints.Glob

structure CharRange where
  lo : Char
  hi : Char
deriving DecidableEq, Repr

namespace CharRange

def contains (r : CharRange) (c : Char) : Bool := r.lo ≤ c ∧ c ≤ r.hi

end CharRange

/-- One step of a pattern. -/
inductive Piece where
  | char (c : Char)
  | one
  | run
  /-- One character of the ranges; a slash may be among them. -/
  | oneOf (ranges : List CharRange)
  | noneOf (ranges : List CharRange)
  | undotted
  | directories
  | below
deriving DecidableEq, Repr

inductive PatternError where
  | reversedRange (lo hi : Char)
deriving DecidableEq, Repr

/-- The members of a character class. A dash between two characters makes a range; first or last it
stands for itself. -/
def classRanges : List Char → Except PatternError (List CharRange)
  | [] => .ok []
  | lo :: '-' :: hi :: rest =>
    if hi < lo then .error (.reversedRange lo hi)
    else return ⟨lo, hi⟩ :: (← classRanges rest)
  | c :: rest => return ⟨c, c⟩ :: (← classRanges rest)

/-- The body of a class whose bracket is already read, and what follows its closing bracket. The
first character of the body never closes it. -/
def classBody? : List Char → Option (List Char × List Char)
  | [] => none
  | first :: rest =>
    match rest.dropWhile (· ≠ ']') with
    | [] => none
    | _ :: after => some (first :: rest.takeWhile (· ≠ ']'), after)

theorem length_of_classBody? {s body after : List Char} (h : classBody? s = some (body, after)) :
    after.length < s.length := by
  unfold classBody? at h
  split at h
  · simp at h
  · rename_i first rest
    split at h
    · simp at h
    · rename_i b tail hd
      cases h
      have := (List.dropWhile_suffix (l := rest) (· ≠ ']')).length_le
      rw [hd] at this
      simp only [List.length_cons] at this ⊢
      omega

/-- The piece of a class. A class that starts with `!` or `^` is the complement, and a slash is put
in front of its members. -/
def classPiece : List Char → Except PatternError Piece
  | '!' :: body | '^' :: body => return .noneOf (← classRanges ('/' :: body))
  | body => return .oneOf (← classRanges body)

def charPieces : List Char → Except PatternError (List Piece)
  | [] => .ok []
  | '\\' :: c :: rest => return .char c :: (← charPieces rest)
  | '*' :: '*' :: rest => charPieces ('*' :: rest)
  | '*' :: rest => return .run :: (← charPieces rest)
  | '?' :: rest => return .one :: (← charPieces rest)
  | '[' :: rest =>
    match h : classBody? rest with
    | some (body, after) => do
      have := length_of_classBody? h
      let piece ← classPiece body
      return piece :: (← charPieces after)
    | none => return .char '[' :: (← charPieces rest)
  | c :: rest => return .char c :: (← charPieces rest)
termination_by s => s.length

/-- A wildcard at the start of a segment does not match a leading dot. -/
def segmentPieces (segment : List Char) : Except PatternError (List Piece) := do
  let pieces ← charPieces segment
  match segment.head? with
  | some '*' | some '?' | some '[' => return .undotted :: pieces
  | _ => return pieces

def segments : List Char → List (List Char)
  | [] => [[]]
  | c :: rest => if c = '/' then [] :: segments rest else consItem c (segments rest)

def globstar : List Char := ['*', '*']

/-- The pieces of a list of segments. A final `**` behind an ordinary segment also matches the
directory itself. -/
def pathPieces : List (List Char) → Except PatternError (List Piece)
  | [] => .ok []
  | [segment] =>
    if segment = globstar then .ok [.undotted, .run, .below] else segmentPieces segment
  | segment :: next :: rest =>
    if segment = globstar then return .directories :: (← pathPieces (next :: rest))
    else if next = globstar ∧ rest = [] then return (← segmentPieces segment) ++ [.below]
    else return (← segmentPieces segment) ++ .char '/' :: (← pathPieces (next :: rest))

def plainPieces (pattern : List Char) : Except PatternError (List Piece) :=
  pathPieces (segments pattern)

/-- A compiled glob: a path matches when one alternative does, or, negated, when none does. -/
structure Compiled where
  alternatives : List (List Piece)
  negated : Bool
deriving Repr

/-- Strips the leading exclamation marks; an odd number negates the pattern. -/
def stripMarks : List Char → Bool × List Char
  | '!' :: rest => let (odd, s) := stripMarks rest; (!odd, s)
  | s => (false, s)

def compile (pattern : List Char) : Except PatternError (Option Compiled) :=
  match stripMarks pattern with
  | (_, []) | (_, '#' :: _) => .ok none
  | (negated, rest) => do
    let alternatives ← (expandChars rest).mapM plainPieces
    return some ⟨alternatives, negated⟩

end ComplexityHints.Glob
