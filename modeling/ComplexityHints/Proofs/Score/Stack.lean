import ComplexityHints.Proofs.Score.Walk

namespace ComplexityHints.MetricUnit

theorem attach_attach (us vs : List MetricUnit) (p : List Nat) (tree : MetricUnit) :
    (tree.attach us p).attach vs p = tree.attach (us ++ vs) p := by
  induction p generalizing tree with
  | nil =>
    rw [attach, attach, attach, children_withChildren, withChildren_withChildren,
      List.append_assoc]
  | cons i p ih =>
    rw [attach, attach, attach, children_withChildren, withChildren_withChildren,
      List.modify_modify_eq]
    congr 2
    exact funext ih

theorem attach_nil (p : List Nat) (tree : MetricUnit) : tree.attach [] p = tree := by
  induction p generalizing tree with
  | nil => rw [attach, List.append_nil, withChildren_children]
  | cons i p ih =>
    have hid : attach [] p = id := funext ih
    rw [attach, hid, List.modify_id, withChildren_children]

/-- A unit that was attached last takes in what is attached at its slot. -/
theorem attach_slot (u : MetricUnit) (vs : List MetricUnit) (p : List Nat) (tree : MetricUnit) :
    (tree.attach [u] p).attach vs (tree.slot p) =
      tree.attach [u.withChildren (u.children ++ vs)] p := by
  induction p generalizing tree with
  | nil =>
    have hlast (cs : List MetricUnit) :
        (cs ++ [u]).modify cs.length (attach vs []) = cs ++ [u.withChildren (u.children ++ vs)] := by
      rw [List.modify_eq_set_getElem?]
      simp [attach]
    change (tree.attach [u] []).attach vs [tree.children.length] = _
    rw [attach, attach, attach, children_withChildren, withChildren_withChildren, hlast]
  | cons i p ih =>
    change (tree.attach [u] (i :: p)).attach vs (i :: (p ++ _)) = _
    rw [attach, attach, attach, children_withChildren, withChildren_withChildren,
      List.modify_modify_eq, List.modify_eq_set_getElem?, List.modify_eq_set_getElem? _ i, at?_cons]
    cases hc : tree.children[i]? with
    | none => rfl
    | some c =>
      have hslot := ih c
      rw [slot] at hslot
      simp [hslot]

end ComplexityHints.MetricUnit

namespace ComplexityHints.Score

open Syntax MetricUnit

variable {κ : Type} {rules : Rules κ} {toChar : Int → Int}

/-- What the stack adds to a tree: the units of each node at its target, the top first. -/
def attachPending (rules : Rules κ) (costs : CostTable κ) (toChar : Int → Int)
    (stack : List Pending) (tree : MetricUnit) : MetricUnit :=
  stack.foldl (fun tree p => tree.attach (units rules costs toChar p.parent p.node) p.target) tree

/-- The children of a node that were pushed with one target add what is below the node there. -/
theorem attachPending_push (costs : CostTable κ) (n : Node) (target : List Nat)
    (stack : List Pending) (tree : MetricUnit) :
    attachPending rules costs toChar (push n target stack) tree =
      attachPending rules costs toChar stack
        (tree.attach (unitsBelow rules costs toChar n) target) := by
  rw [push_eq_append, attachPending, List.foldl_append, attachPending]
  congr 1
  rw [unitsBelow, List.foldl_map]
  induction n.namedChildren generalizing tree with
  | nil => exact (attach_nil target tree).symm
  | cons c cs ih => rw [List.foldl_cons, ih, attach_attach, List.flatMap_cons]

/-- One visit leaves the same work to the rest of the stack. -/
theorem attachPending_cons (costs : CostTable κ) (p : Pending) (stack : List Pending)
    (tree : MetricUnit) :
    attachPending rules costs toChar (p :: stack) tree =
      match unit? rules costs toChar p.parent p.node with
      | none => attachPending rules costs toChar (push p.node p.target stack) tree
      | some u =>
        attachPending rules costs toChar
          (push p.node (if u.visible then tree.slot p.target else p.target) stack)
          (tree.attach [u] p.target) := by
  change attachPending rules costs toChar stack
    (tree.attach (units rules costs toChar p.parent p.node) p.target) = _
  cases hu : unit? rules costs toChar p.parent p.node with
  | none => rw [attachPending_push, units_of_none hu]
  | some u =>
    dsimp only
    rw [attachPending_push]
    by_cases hv : u.visible = true
    · rw [units_of_visible hu hv, if_pos hv, attach_slot, children_of_unit? hu, List.nil_append]
    · rw [units_of_not_visible hu hv, if_neg hv, attach_attach, List.singleton_append]

variable [Construct κ]

theorem unit?_costs (costs : CostTable κ) (p : Pending) :
    p.unit? rules (.costs costs) toChar = .ok (unit? rules costs toChar p.parent p.node) := by
  unfold Pending.unit? unit?
  cases rules p.parent p.node <;> rfl

/-- However far the walk has come, it ends with what the stack adds to the tree. -/
theorem grow_costs (costs : CostTable κ) (stack : List Pending) (tree : MetricUnit) :
    grow rules (.costs costs) toChar stack tree =
      .ok (attachPending rules costs toChar stack tree) := by
  fun_induction grow rules (.costs costs) toChar stack tree with
  | case1 tree => rfl
  | case2 p stack tree fault hu =>
    rw [unit?_costs] at hu
    cases hu
  | case3 p stack tree hu ih =>
    rw [unit?_costs] at hu
    rw [ih, attachPending_cons, Except.ok.inj hu]
  | case4 p stack tree u hu target ih =>
    rw [unit?_costs] at hu
    rw [ih, attachPending_cons, Except.ok.inj hu]
    rfl

theorem eq_of_grow_unchecked {v : Value} {stack : List Pending} {tree root : MetricUnit}
    (h : grow rules (.unchecked v) toChar stack tree = .ok root) : root = tree := by
  fun_induction grow rules (.unchecked v) toChar stack tree with
  | case1 tree => exact (Except.ok.inj h).symm
  | case2 p stack tree fault hu => cases h
  | case3 p stack tree hu ih => exact ih h
  | case4 p stack tree u hu target ih =>
    unfold Pending.unit? at hu
    split at hu <;> cases hu

theorem metricTree_costs (costs : CostTable κ) (text : List Char) (root : Node) :
    metricTree rules (.costs costs) text root =
      .ok (file text.length (units rules costs (charOffset text) none root)) := by
  unfold metricTree
  rw [grow_costs]
  rfl

theorem eq_of_metricTree_unchecked {v : Value} {text : List Char} {tree : Node} {root : MetricUnit}
    (h : metricTree rules (.unchecked v) text tree = .ok root) : root = file text.length [] :=
  eq_of_grow_unchecked h

end ComplexityHints.Score
