import ComplexityHints.Document
import ComplexityHints.Glob.Match
import ComplexityHints.Settings.Basic

namespace ComplexityHints.Gate

/-- Whether a pattern that compiles matches the URI. -/
def excluded (patterns : List String) (uri : String) : Bool :=
  patterns.any fun pattern =>
    match Glob.matchPath uri.toList pattern.toList with
    | .ok matched => matched
    | .error _ => false

/-- A limit in code points, for a limit in units of 1024 * 1024. -/
def scaled : Value → Option Binary
  | .bool on => some (.ofInt (if on then 1024 * 1024 else 0))
  | .int n => some (.ofInt (n * 1024 * 1024))
  | .float x => some (.ofFloat (x * 1024.0 * 1024.0))
  | _ => none

/-- Whether a length is above a limit. Negative limits and limits that are no numbers do not bind,
and neither does any limit when the length is unknown. -/
def tooLong (length : Option Nat) (limit : Value) : Bool :=
  match length, limit.binary?, scaled limit with
  | some n, some x, some bound => !x.lt (.ofInt 0) && bound.lt (.ofInt n)
  | _, _, _ => false

def disabled (s : Settings) (languageId : String) : Bool :=
  match Language.ofId? languageId with
  | some language => !(s.enabled language).isTrue
  | none => false

def admits (s : Settings) (d : Document) : Bool :=
  !excluded s.exclude d.uri && !tooLong (some d.text.length) s.fileSizeLimit &&
    !disabled s d.languageId

end ComplexityHints.Gate
