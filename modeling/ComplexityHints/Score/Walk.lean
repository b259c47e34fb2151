import ComplexityHints.Metric.Unit
import ComplexityHints.Score.Offset
import ComplexityHints.Syntax.Node

namespace ComplexityHints.Syntax.Node

theorem sizeAll_append (ns ms : List Node) : sizeAll (ns ++ ms) = sizeAll ns + sizeAll ms := by
  induction ns with
  | nil => rw [List.nil_append, sizeAll, Nat.zero_add]
  | cons n ns ih => rw [List.cons_append, sizeAll, sizeAll, ih, Nat.add_assoc]

/-- The trees below a node are smaller than the tree of the node, taken together. -/
theorem sizeAll_namedChildren_lt (n : Node) : sizeAll n.namedChildren < n.size := by
  obtain ⟨kind, start, stop, field, named, children⟩ := n
  have hle (ns : List Node) : sizeAll (ns.filter (·.named)) ≤ sizeAll ns := by
    induction ns with
    | nil => exact Nat.le_refl _
    | cons n ns ih =>
      rw [List.filter_cons, sizeAll]
      split
      · rw [sizeAll]
        omega
      · omega
  rw [size]
  exact Nat.lt_of_le_of_lt (hle children) (Nat.lt_add_of_pos_left Nat.one_pos)

end ComplexityHints.Syntax.Node

namespace ComplexityHints.Score

open Syntax

structure Mark (κ : Type) where
  construct : κ
  /-- What the construct is called in explanations. -/
  label : String
  title : String
  /-- Declarations are visible and take in what is scored inside them. -/
  declares : Bool
deriving DecidableEq, Repr

/-- Scoring rules: the mark of a node below its parent, if it is scored at all. -/
abbrev Rules (κ : Type) := Option Node → Node → Option (Mark κ)

variable {κ : Type}

def Mark.unit (m : Mark κ) (cost : Amount) (toChar : Int → Int) (n : Node) : MetricUnit :=
  .mk (toChar n.start) (toChar n.stop) m.title cost m.declares s!"for '{m.label}'" []

/-- A node that is still to be visited, with its parent and the address of the unit that takes in
what is found. -/
structure Pending where
  parent : Option Node
  node : Node
  target : List Nat

section

variable [Construct κ] (rules : Rules κ) (costs : CostSection κ) (toChar : Int → Int)

/-- The unit of a node on its own. A node that is no declaration has one only if it costs something,
and a section that is no cost table has no costs to ask for. -/
def Pending.unit? (p : Pending) : Except Fault (Option MetricUnit) :=
  match rules p.parent p.node with
  | none => .ok none
  | some mark => do
    let cost ← costs.cost mark.construct
    return if mark.declares ∨ 0 < cost.toInt then some (mark.unit cost toChar p.node) else none

/-- Puts the named children of a node on the stack, the last one first, so that the first is on top. -/
def push (n : Node) (target : List Nat) (stack : List Pending) : List Pending :=
  n.namedChildren.reverse.foldl (fun stack c => ⟨some n, c, target⟩ :: stack) stack

theorem push_eq_append (n : Node) (target : List Nat) (stack : List Pending) :
    push n target stack = n.namedChildren.map (⟨some n, ·, target⟩) ++ stack := by
  rw [push, List.foldl_reverse]
  induction n.namedChildren with
  | nil => rfl
  | cons c cs ih => rw [List.foldr_cons, ih, List.map_cons, List.cons_append]

/-- How many nodes can still be visited from a stack. -/
def pendingSize (stack : List Pending) : Nat := Node.sizeAll (stack.map (·.node))

theorem pendingSize_push_lt (p : Pending) (target : List Nat) (stack : List Pending) :
    pendingSize (push p.node target stack) < pendingSize (p :: stack) := by
  have hnodes : (push p.node target stack).map (·.node) =
      p.node.namedChildren ++ stack.map (·.node) := by
    rw [push_eq_append, List.map_append, List.map_map]
    exact congrArg (· ++ stack.map (·.node)) (List.map_id _)
  rw [pendingSize, pendingSize, hnodes, Node.sizeAll_append, List.map_cons, Node.sizeAll]
  exact Nat.add_lt_add_right p.node.sizeAll_namedChildren_lt _

/-- Visits what is on the stack, the top first, while the tree grows. The unit of a node goes last
among the children of its target, and a visible unit is the target of what is below the node. -/
def grow : List Pending → MetricUnit → Except Fault MetricUnit
  | [], tree => .ok tree
  | p :: stack, tree =>
    match p.unit? rules costs toChar with
    | .error fault => .error fault
    | .ok none => grow (push p.node p.target stack) tree
    | .ok (some u) =>
      let target := if u.visible then tree.slot p.target else p.target
      grow (push p.node target stack) (tree.attach [u] p.target)
termination_by stack => pendingSize stack
decreasing_by all_goals exact pendingSize_push_lt ..

end

def metricTree [Construct κ] (rules : Rules κ) (costs : CostSection κ) (text : List Char)
    (root : Node) : Except Fault MetricUnit :=
  let index := OffsetIndex.ofText text
  grow rules costs index.charOffset [⟨none, root, []⟩] (.file text.length [])

end ComplexityHints.Score
