import ComplexityHints.Proofs.Metric.Tree
import ComplexityHints.Score.Walk

namespace ComplexityHints.Syntax.Node

mutual

@[elab_as_elim]
theorem induction {motive : Node → Prop}
    (step : ∀ n : Node, (∀ c ∈ n.namedChildren, motive c) → motive n) : ∀ n : Node, motive n
  | mk _ _ _ _ _ children => step _ fun c hc => inductionAll step children c (List.mem_filter.1 hc).1

theorem inductionAll {motive : Node → Prop}
    (step : ∀ n : Node, (∀ c ∈ n.namedChildren, motive c) → motive n) :
    ∀ ns : List Node, ∀ n ∈ ns, motive n
  | [] => List.forall_mem_nil motive
  | n :: ns => List.forall_mem_cons.2 ⟨induction step n, inductionAll step ns⟩

end

end ComplexityHints.Syntax.Node

namespace ComplexityHints.Score

open Syntax MetricUnit

variable {κ : Type} (rules : Rules κ) (costs : CostTable κ) (toChar : Int → Int)

mutual

/-- The units of a node, those below it included. A declaration takes in what is found below it; any
other unit stands in front of it. -/
def units (parent : Option Node) : Node → List MetricUnit
  | .mk kind start stop field named children =>
    let node := Node.mk kind start stop field named children
    let inner := unitsOfNamed node children
    match rules parent node with
    | none => inner
    | some mark =>
      if mark.declares then [(mark.unit (costs mark.construct) toChar node).withChildren inner]
      else if (costs mark.construct).toInt ≤ 0 then inner
      else mark.unit (costs mark.construct) toChar node :: inner

def unitsOfNamed (parent : Node) : List Node → List MetricUnit
  | [] => []
  | n :: ns => (if n.named then units (some parent) n else []) ++ unitsOfNamed parent ns

end

/-- The unit of a node on its own. A node that is no declaration has one only if it costs
something. -/
def unit? (parent : Option Node) (n : Node) : Option MetricUnit :=
  match rules parent n with
  | none => none
  | some mark =>
    if mark.declares = true ∨ 0 < (costs mark.construct).toInt then
      some (mark.unit (costs mark.construct) toChar n)
    else none

theorem unitsOfNamed_eq_flatMap (parent : Node) (ns : List Node) :
    unitsOfNamed rules costs toChar parent ns =
      (ns.filter (·.named)).flatMap (units rules costs toChar (some parent)) := by
  induction ns with
  | nil => rfl
  | cons n ns ih =>
    rw [unitsOfNamed, ih]
    by_cases hn : n.named = true <;> simp [hn]

def unitsBelow (n : Node) : List MetricUnit :=
  n.namedChildren.flatMap (units rules costs toChar (some n))

theorem units_eq (parent : Option Node) (n : Node) :
    units rules costs toChar parent n =
      match unit? rules costs toChar parent n with
      | none => unitsBelow rules costs toChar n
      | some u =>
        if u.visible then [u.withChildren (unitsBelow rules costs toChar n)]
        else u :: unitsBelow rules costs toChar n := by
  obtain ⟨kind, start, stop, field, named, children⟩ := n
  rw [units, unitsOfNamed_eq_flatMap, unit?, unitsBelow, Node.namedChildren, Node.children]
  cases rules parent (.mk kind start stop field named children) with
  | none => rfl
  | some mark =>
    by_cases hd : mark.declares = true
    · simp [hd, Mark.unit, MetricUnit.visible, withChildren]
    · by_cases hc : 0 < (costs mark.construct).toInt
      · simp [hd, hc, Mark.unit, MetricUnit.visible]
      · simp [hd, hc, Int.not_lt.1 hc]

theorem declares_eq_visible (parent : Option Node) (n : Node) :
    (rules parent n).any (·.declares) =
      (unit? rules costs toChar parent n).any (·.visible) := by
  unfold unit?
  cases rules parent n with
  | none => rfl
  | some mark =>
    by_cases hd : mark.declares = true
    · simp [hd, Mark.unit, MetricUnit.visible]
    · by_cases hc : 0 < (costs mark.construct).toInt
      · simp [hd, hc, Mark.unit, MetricUnit.visible]
      · simp [hd, hc]

variable {rules costs toChar} {parent : Option Node} {n : Node} {u : MetricUnit}

theorem units_of_none (h : unit? rules costs toChar parent n = none) :
    units rules costs toChar parent n = unitsBelow rules costs toChar n := by
  rw [units_eq, h]

theorem units_of_visible (h : unit? rules costs toChar parent n = some u)
    (hv : u.visible = true) :
    units rules costs toChar parent n = [u.withChildren (unitsBelow rules costs toChar n)] := by
  rw [units_eq, h]
  exact if_pos hv

theorem units_of_not_visible (h : unit? rules costs toChar parent n = some u)
    (hv : ¬ u.visible = true) :
    units rules costs toChar parent n = u :: unitsBelow rules costs toChar n := by
  rw [units_eq, h]
  exact if_neg hv

theorem exists_mark_of_unit? (h : unit? rules costs toChar parent n = some u) :
    ∃ mark : Mark κ, (mark.declares = true ∨ 0 < (costs mark.construct).toInt) ∧
      u = mark.unit (costs mark.construct) toChar n := by
  unfold unit? at h
  split at h
  · simp at h
  · rename_i mark _
    split_ifs at h with hscored
    cases h
    exact ⟨mark, hscored, rfl⟩

theorem children_of_unit? (h : unit? rules costs toChar parent n = some u) : u.children = [] := by
  obtain ⟨mark, -, rfl⟩ := exists_mark_of_unit? h
  rfl

theorem cost_pos_of_unit? (h : unit? rules costs toChar parent n = some u)
    (hv : u.visible = false) : 0 < u.cost.toInt := by
  obtain ⟨mark, hscored, rfl⟩ := exists_mark_of_unit? h
  have hd : mark.declares = false := hv
  rw [hd] at hscored
  exact hscored.resolve_left Bool.false_ne_true

end ComplexityHints.Score
