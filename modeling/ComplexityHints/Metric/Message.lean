import ComplexityHints.Metric.Unit

namespace ComplexityHints

/-- Replaces every occurrence of a non-empty text, left to right without overlap. `skip` characters
belong to an occurrence already replaced. -/
def replaceAll (old new : List Char) (skip : Nat) : List Char → List Char
  | [] => []
  | c :: cs =>
    match skip with
    | skip + 1 => replaceAll old new skip cs
    | 0 =>
      if old.isPrefixOf (c :: cs) then new ++ replaceAll old new (old.length - 1) cs
      else c :: replaceAll old new 0 cs

namespace MetricUnit

def complexityMark : List Char := ['{', '0', '}']

def levelMark : List Char := ['{', '1', '}']

/-- The template with the complexity put in first and the level description after it, trimmed. -/
def fillTemplate (template complexity level : List Char) : List Char :=
  trim (replaceAll levelMark level 0 (replaceAll complexityMark complexity 0 template))

/-- The message of a unit: of a visible one the filled template, else its cost and description. -/
def message (s : Settings) (u : MetricUnit) : Except Fault String :=
  if u.visible then do
    let complexity := u.collected
    match s.template with
    | .str template =>
      match ← s.levelDescription complexity with
      | .str level =>
        return String.ofList (fillTemplate template.toList (decimalChars complexity) level.toList)
      | other => throw (.notReplacement other.kind)
    | .stamp _ => throw .notNumber
    | other => throw (.noAttribute other.kind "replace")
  else
    return String.ofList (trimRight (("+" ++ u.cost.text ++ " " ++ u.description).toList))

/-- Adds a cost to the total of its description; a new description goes last. -/
def addCost (description : String) (cost : Int) : List (String × Int) → List (String × Int)
  | [] => [(description, cost)]
  | (d, total) :: rest =>
    if d = description then (d, total + cost) :: rest
    else (d, total) :: addCost description cost rest

/-- The totals of a list of units by description; units that cost nothing or have no description
do not count. -/
def totals (units : List MetricUnit) : List (String × Int) :=
  units.foldl (fun sums u =>
    if u.cost.toInt ≠ 0 ∧ u.description ≠ "" then addCost u.description u.cost.toInt sums
    else sums) []

/-- The totals below a unit, the greatest first. Equal ones stay in the order in which a walk that
takes the last child first meets their descriptions. -/
def breakdown (u : MetricUnit) : List (String × Int) :=
  (totals (lastFirstAll u.children)).mergeSort fun a b => b.2 ≤ a.2

def explanation (u : MetricUnit) : String :=
  "\n".intercalate (u.breakdown.map fun (description, total) =>
    "+" ++ decimal total ++ " " ++ description)

end MetricUnit

end ComplexityHints
