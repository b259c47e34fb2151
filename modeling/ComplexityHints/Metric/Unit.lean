import ComplexityHints.Settings.Basic
import ComplexityHints.Text.Space

namespace ComplexityHints

/-- A scored stretch of code, its offsets counted in code points. -/
inductive MetricUnit where
  | mk (start stop : Int) (label : String) (cost : Amount) (visible : Bool) (description : String)
      (children : List MetricUnit)
deriving Repr, Inhabited

namespace MetricUnit

def start : MetricUnit → Int
  | mk start _ _ _ _ _ _ => start

def stop : MetricUnit → Int
  | mk _ stop _ _ _ _ _ => stop

def label : MetricUnit → String
  | mk _ _ label _ _ _ _ => label

def cost : MetricUnit → Amount
  | mk _ _ _ cost _ _ _ => cost

def visible : MetricUnit → Bool
  | mk _ _ _ _ visible _ _ => visible

def description : MetricUnit → String
  | mk _ _ _ _ _ description _ => description

def children : MetricUnit → List MetricUnit
  | mk _ _ _ _ _ _ children => children

def withChildren (children : List MetricUnit) : MetricUnit → MetricUnit
  | mk start stop label cost visible description _ =>
    mk start stop label cost visible description children

/-- The unit at an address, the indices of the children on the way down to it. -/
def at? : MetricUnit → List Nat → Option MetricUnit
  | u, [] => some u
  | u, i :: p => u.children[i]?.bind fun c => c.at? p

def attach (us : List MetricUnit) : List Nat → MetricUnit → MetricUnit
  | [], u => u.withChildren (u.children ++ us)
  | i :: p, u => u.withChildren (u.children.modify i (attach us p))

/-- Where the next child of the unit at an address goes. -/
def slot (u : MetricUnit) (p : List Nat) : List Nat :=
  p ++ [((u.at? p).map (·.children.length)).getD 0]

mutual

def collected : MetricUnit → Int
  | mk _ _ _ cost _ _ children => cost.toInt + collectedAll children

def collectedAll : List MetricUnit → Int
  | [] => 0
  | u :: us => collected u + collectedAll us

end

mutual

def preorder : MetricUnit → List MetricUnit
  | mk start stop label cost visible description children =>
    mk start stop label cost visible description children :: preorderAll children

def preorderAll : List MetricUnit → List MetricUnit
  | [] => []
  | u :: us => preorder u ++ preorderAll us

end

mutual

/-- A unit and everything below it, parents first and the last sibling first. -/
def lastFirst : MetricUnit → List MetricUnit
  | mk start stop label cost visible description children =>
    mk start stop label cost visible description children :: lastFirstAll children

def lastFirstAll : List MetricUnit → List MetricUnit
  | [] => []
  | u :: us => lastFirstAll us ++ lastFirst u

end

def kept (s : Settings) (u : MetricUnit) : Bool :=
  u.visible && s.minimumVisible.toInt ≤ u.collected

/-- The kept units of a tree. A unit that is not kept does not hide those below it. -/
def keptUnits (s : Settings) (root : MetricUnit) : List MetricUnit :=
  root.preorder.filter (kept s)

def file (length : Nat) (children : List MetricUnit) : MetricUnit :=
  mk 0 length "file" (.number 0) false "" children

end MetricUnit

end ComplexityHints
