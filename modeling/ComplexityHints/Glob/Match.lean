import ComplexityHints.Glob.Pattern

namespace ComplexityHints.Glob

abbrev Matcher := List Char → Bool

namespace Matcher

def char (p : Char → Bool) (next : Matcher) : Matcher
  | [] => false
  | c :: cs => p c && next cs

def run (next : Matcher) : Matcher
  | [] => next []
  | c :: cs => next (c :: cs) || (c ≠ '/' && run next cs)

/-- Holds where no dot follows. -/
def undotted (s : List Char) : Bool := s.head? ≠ some '.'

/-- Any number of undotted segments, each with the slash after it, then `next`. `inside` tells that
a segment has begun. -/
def directories (next : Matcher) : Bool → Matcher
  | inside, [] => !inside && next []
  | inside, c :: cs =>
    (!inside && next (c :: cs)) || ((inside || c ≠ '.') && directories next (c ≠ '/') cs)

/-- Any number of undotted segments, each with the slash before it, then `next`. `inside` tells that
a segment has begun. -/
def below (next : Matcher) : Bool → Matcher
  | _, [] => next []
  | inside, c :: cs =>
    next (c :: cs) || ((if c = '/' then undotted cs else inside) && below next true cs)

end Matcher

def Piece.matcher (next : Matcher) : Piece → Matcher
  | .char c => Matcher.char (· = c) next
  | .one => Matcher.char (· ≠ '/') next
  | .run => Matcher.run next
  | .oneOf ranges => Matcher.char (fun c => ranges.any (·.contains c)) next
  | .noneOf ranges => Matcher.char (fun c => !ranges.any (·.contains c)) next
  | .undotted => fun s => Matcher.undotted s && next s
  | .directories => Matcher.directories next false
  | .below => Matcher.below next false

def matchPieces (pieces : List Piece) : Matcher :=
  pieces.foldr (fun piece next => piece.matcher next) List.isEmpty

def Compiled.accepts (g : Compiled) (path : List Char) : Bool :=
  g.alternatives.any (matchPieces · path) != g.negated

/-- Whether a path matches a pattern. Comments and empty patterns match nothing. -/
def matchPath (path pattern : List Char) : Except PatternError Bool := do
  match ← compile pattern with
  | none => return false
  | some g => return g.accepts path

end ComplexityHints.Glob
