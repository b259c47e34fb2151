import ComplexityHints.Files.Tree
import ComplexityHints.Gate

namespace ComplexityHints.Files

/-- Whether a pattern matches the URI of a file or its path as spelled. Patterns are tried in order,
and one that does not compile is an error. -/
def skipped (t : FileTree) (patterns : List String) (p : Path) : Except Glob.PatternError Bool :=
  match patterns with
  | [] => .ok false
  | pattern :: rest => do
    if ← Glob.matchPath (t.uri p).toList pattern.toList then return true
    if ← Glob.matchPath p.text.toList pattern.toList then return true
    skipped t rest p

def walked (t : FileTree) (patterns : List String) (forced : Bool) :
    List Path → Except Glob.PatternError (List Path)
  | [] => .ok []
  | p :: ps =>
    if forced || p.language?.isSome then do
      let skip ← skipped t patterns p
      let others ← walked t patterns forced ps
      return if skip then others else p :: others
    else walked t patterns forced ps

def candidates (t : FileTree) (patterns : List String) (forced : Bool) (p : Path) :
    Except Glob.PatternError (List Path) :=
  if t.isFile p then .ok [p] else walked t patterns forced (t.filesBelow p)

/-- Paths without those that resolve to a file already seen. -/
def firstOnly (t : FileTree) (seen : List (List String)) : List Path → List Path
  | [] => []
  | p :: ps =>
    if seen.contains (t.place p) then firstOnly t seen ps else p :: firstOnly t (t.place p :: seen) ps

def select (t : FileTree) (patterns : List String) (forced : Bool) (arguments : List Path) :
    Except Glob.PatternError (List Path) :=
  return firstOnly t [] (← arguments.mapM (candidates t patterns forced)).flatten

end ComplexityHints.Files
