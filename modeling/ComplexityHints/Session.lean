import ComplexityHints.Diagnostic
import ComplexityHints.Engine
import ComplexityHints.Gate
import ComplexityHints.Keyed

namespace ComplexityHints

structure Publication where
  uri : String
  diagnostics : List Diagnostic
deriving DecidableEq, Repr

/-- What an analysis comes to: the kept units or a failure, and what it publishes. -/
structure Outcome where
  result : Except Failure (List MetricUnit)
  publication : Option Publication

abbrev Scorer := Settings → Document → Except Failure MetricUnit

def scoreDocument : Scorer := fun s d => (Engine.ofLanguage d.languageId).compute d.uri d.text s

/-- Analyzes a document. A failure behind the engine, while diagnostics are written, publishes
nothing. -/
def analyzeWith (scorer : Scorer) (s : Settings) (d : Document) : Outcome :=
  if Gate.admits s d then
    match scorer s d with
    | .error failure => ⟨.error failure, some ⟨d.uri, []⟩⟩
    | .ok tree =>
      let units := tree.keptUnits s
      match Diagnostic.ofUnits s d units with
      | .error fault => ⟨.error (.fault fault), none⟩
      | .ok diagnostics => ⟨.ok units, some ⟨d.uri, diagnostics⟩⟩
  else ⟨.ok [], some ⟨d.uri, []⟩⟩

def analyze (s : Settings) (d : Document) : Outcome := analyzeWith scoreDocument s d

abbrev Board := List Publication

namespace Board

def publish (b : Board) (o : Outcome) : Board := b ++ o.publication.toList

/-- The set that each document shows, in the order of the first publications. Publishing a set replaces
the one before it. -/
def shown (b : Board) : Keyed (List Diagnostic) :=
  b.foldl (fun shown p => Keyed.put p.uri p.diagnostics shown) []

def get? (b : Board) (uri : String) : Option (List Diagnostic) := b.shown.lookup uri

def counts (b : Board) : List (String × Nat) :=
  b.shown.map fun (uri, diagnostics) => (uri, diagnostics.length)

end Board

def analyzeAll (scorer : Scorer) (s : Settings) (b : Board) : List Document →
    List (Except Failure (List MetricUnit)) × Board
  | [] => ([], b)
  | d :: ds =>
    let o := analyzeWith scorer s d
    let (results, last) := analyzeAll scorer s (b.publish o) ds
    (o.result :: results, last)

end ComplexityHints
