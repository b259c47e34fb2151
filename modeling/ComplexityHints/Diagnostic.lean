import ComplexityHints.Document
import ComplexityHints.Metric.Message

namespace ComplexityHints

structure Diagnostic where
  message : String
  start : Position
  stop : Position
deriving DecidableEq, Repr

namespace Diagnostic

def severity : Nat := 4

def source : String := "codemetrics"

def code : String := "42"

def ofUnit (s : Settings) (d : Document) (u : MetricUnit) : Except Fault Diagnostic :=
  return ⟨← u.message s, d.positionAt u.start, d.positionAt u.stop⟩

/-- One diagnostic per unit in order, or none while they are switched off. -/
def ofUnits (s : Settings) (d : Document) (units : List MetricUnit) :
    Except Fault (List Diagnostic) :=
  if s.diagnosticsEnabled.isTrue then units.mapM (ofUnit s d) else .ok []

end Diagnostic

end ComplexityHints
