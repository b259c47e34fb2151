import ComplexityHints.Session

namespace ComplexityHints

/-- The result of one file: its kept units and diagnostics, or an error. -/
structure FileReport where
  document : Document
  units : List MetricUnit := []
  diagnostics : List Diagnostic := []
  error : Option String := none

namespace FileReport

def maxComplexity (r : FileReport) : Int :=
  match r.units.map MetricUnit.collected with
  | [] => 0
  | c :: cs => cs.foldl max c

end FileReport

def MetricUnit.writable (s : Settings) (json : Bool) (u : MetricUnit) : Bool :=
  (json || (s.level u.collected).isOk) && (u.message s).isOk

/-- Whether a report can be written. Of one with an error nothing else is shown. -/
def FileReport.writable (s : Settings) (json : Bool) (r : FileReport) : Bool :=
  r.error.isSome || r.units.all (·.writable s json)

inductive FailOn where
  | any
  | high
  | extreme
deriving DecidableEq, Repr

namespace FailOn

def name : FailOn → String
  | any => "any"
  | high => "high"
  | extreme => "extreme"

def ofName? (s : String) : Option FailOn :=
  [any, high, extreme].find? fun f => f.name.toList = s.toList.map Char.toLower

def hit (f : FailOn) (s : Settings) (r : FileReport) : Except Fault Bool :=
  if r.units.isEmpty then .ok false
  else match f with
    | any => .ok true
    | high => (s.bound .high).reachedBy r.maxComplexity
    | extreme => (s.bound .extreme).reachedBy r.maxComplexity

def hits (f : FailOn) (s : Settings) (reports : List FileReport) : Except Fault Nat :=
  return (← reports.mapM (f.hit s)).count true

end FailOn

end ComplexityHints
