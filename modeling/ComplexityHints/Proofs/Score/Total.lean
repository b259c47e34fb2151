import ComplexityHints.Proofs.Score.Placement
import Mathlib.Algebra.BigOperators.Group.Finset.Basic
import Mathlib.Tactic

namespace ComplexityHints.Score

open Syntax MetricUnit

def Script.construct? (n : Node) : Option ScriptConstruct :=
  ((Script.declaration? n.kind).map Prod.fst).or <| ((Script.statement? n.kind).map Prod.fst).or <|
    if n.kind = "binary_expression" ∨ n.kind = "augmented_assignment_expression" then
      (n.childInField? "operator").bind fun operator => Script.operator? operator.kind
    else none

def Lua.construct? (n : Node) : Option LuaConstruct :=
  if Lua.isDeclaration n then some .functionDeclaration
  else
    ((Lua.statement? n.kind).map Prod.fst).or <|
      if n.kind = "binary_expression" ∧ (Lua.operator n = "and" ∨ Lua.operator n = "or") then
        some .logicalOperator
      else none

theorem Script.construct?_eq (source : Utf8.Bytes) (p : Option Node) (n : Node) :
    (Script.rules source p n).map Mark.construct = Script.construct? n := by
  unfold Script.rules Script.construct?
  cases Script.declaration? n.kind with
  | some d => rfl
  | none =>
    cases Script.statement? n.kind with
    | some st => rfl
    | none =>
      simp only [Option.map_none, Option.none_or]
      split_ifs
      · cases n.childInField? "operator" with
        | none => rfl
        | some operator => cases h : Script.operator? operator.kind <;> simp [h]
      · rfl

theorem Lua.construct?_eq (source : Utf8.Bytes) (p : Option Node) (n : Node) :
    (Lua.rules source p n).map Mark.construct = Lua.construct? n := by
  have hkind : Lua.isDeclaration n = true ↔
      n.kind = "function_declaration" ∨ n.kind = "function_definition" := by
    simp [Lua.isDeclaration]
  unfold Lua.rules Lua.construct?
  by_cases h : Lua.isDeclaration n = true
  · rw [if_pos (hkind.1 h), if_pos h]
    rfl
  · rw [if_neg (mt hkind.2 h), if_neg h]
    cases Lua.statement? n.kind with
    | some st => rfl
    | none =>
      simp only [Option.map_none, Option.none_or]
      split_ifs <;> rfl

def reachable (n : Node) : List Node := (visits [] n).map Visit.node

theorem map_node_visits (above : List Node) (n : Node) :
    (visits above n).map Visit.node = reachable n := by
  unfold reachable
  induction n using Node.induction generalizing above with
  | step n ih =>
    rw [visits_eq_cons, visits_eq_cons, List.map_cons, List.map_cons, List.map_flatMap,
      List.map_flatMap]
    apply congrArg (n :: ·)
    apply List.flatMap_congr
    intro c hc
    rw [ih c hc (n :: above), ih c hc [n]]

theorem reachable_eq_cons (n : Node) : reachable n = n :: n.namedChildren.flatMap reachable := by
  rw [reachable, visits_eq_cons, List.map_cons, List.map_flatMap]
  apply congrArg (n :: ·)
  apply List.flatMap_congr
  intro c _
  exact map_node_visits [n] c

theorem self_mem_reachable (n : Node) : n ∈ reachable n := by
  rw [reachable_eq_cons]
  exact List.mem_cons_self

theorem mem_reachable_of_child {n m c : Node} (hc : c ∈ n.namedChildren) (hm : m ∈ reachable c) :
    m ∈ reachable n := by
  rw [reachable_eq_cons]
  exact List.mem_cons_of_mem n (List.mem_flatMap.2 ⟨c, hc, hm⟩)

theorem reachable_trans {n m c : Node} (hm : m ∈ reachable n) (hc : c ∈ reachable m) :
    c ∈ reachable n := by
  induction n using Node.induction with
  | step n ih =>
    rw [reachable_eq_cons] at hm
    rcases List.mem_cons.1 hm with rfl | hm
    · exact hc
    · obtain ⟨d, hd, hm⟩ := List.mem_flatMap.1 hm
      exact mem_reachable_of_child hd (ih d hd hm)

theorem exists_node_of_mem_units {κ : Type} {rules : Rules κ} {costs : CostTable κ}
    {toChar : Int → Int} {parent : Option Node} {n : Node} {u : MetricUnit}
    (h : u ∈ (units rules costs toChar parent n).flatMap preorder) :
    ∃ m ∈ reachable n, ∃ p w, unit? rules costs toChar p m = some w ∧
      (u = w.withChildren (unitsBelow rules costs toChar m) ∨ u = w) := by
  induction n using Node.induction generalizing parent with
  | step n ih =>
    have hbelow (hu : u ∈ (unitsBelow rules costs toChar n).flatMap preorder) :
        ∃ m ∈ reachable n, ∃ p w, unit? rules costs toChar p m = some w ∧
          (u = w.withChildren (unitsBelow rules costs toChar m) ∨ u = w) := by
      rw [unitsBelow, List.flatMap_assoc] at hu
      obtain ⟨c, hc, hu⟩ := List.mem_flatMap.1 hu
      obtain ⟨m, hm, hunit⟩ := ih c hc hu
      exact ⟨m, mem_reachable_of_child hc hm, hunit⟩
    cases hw : unit? rules costs toChar parent n with
    | none =>
      rw [units_of_none hw] at h
      exact hbelow h
    | some w =>
      have hchildren := children_of_unit? hw
      by_cases hv : w.visible = true
      · rw [units_of_visible hw hv, List.flatMap_singleton, preorder_eq_cons,
          children_withChildren] at h
        rcases List.mem_cons.1 h with hu | h
        · exact ⟨n, self_mem_reachable n, parent, w, hw, .inl hu⟩
        · exact hbelow h
      · rw [units_of_not_visible hw hv, List.flatMap_cons, preorder_eq_cons, hchildren] at h
        rcases List.mem_cons.1 h with hu | h
        · exact ⟨n, self_mem_reachable n, parent, w, hw, .inr hu⟩
        · exact hbelow h

section Totals

variable {κ : Type} (construct? : Node → Option κ) (costs : CostTable κ)

def nodeCost (n : Node) : Int := ((construct? n).map fun k => (costs k).toInt).getD 0

def totalCost (n : Node) : Int := ((reachable n).map (nodeCost construct? costs)).sum

/-- The cost of every construct as often as it occurs below a node. -/
def linearCost [Construct κ] [DecidableEq κ] (n : Node) : Int :=
  ((Construct.all : List κ).map fun k =>
    (costs k).toInt * ((reachable n).countP fun m => construct? m = some k)).sum

theorem sum_map_flatMap {α β : Type} (l : List α) (f : α → List β) (g : β → Int) :
    ((l.flatMap f).map g).sum = (l.map fun a => ((f a).map g).sum).sum := by
  rw [List.map_flatMap, List.flatMap_def, List.sum_flatten, List.map_map]
  rfl

theorem totalCost_eq (n : Node) :
    totalCost construct? costs n = nodeCost construct? costs n +
      (n.namedChildren.map (totalCost construct? costs)).sum := by
  rw [totalCost, reachable_eq_cons, List.map_cons, List.sum_cons, sum_map_flatMap]
  rfl

theorem sum_nodeCost_eq [Construct κ] [DecidableEq κ] (hall : ∀ k : κ, k ∈ Construct.all)
    (hnodup : (Construct.all : List κ).Nodup) (ns : List Node) :
    (ns.map (nodeCost construct? costs)).sum =
      ((Construct.all : List κ).map fun k =>
        (costs k).toInt * (ns.countP fun m => construct? m = some k)).sum := by
  induction ns with
  | nil => simp
  | cons n ns ih =>
    -- one node adds the cost of its own construct and of no other
    have hnode : ((Construct.all : List κ).map fun k =>
        if construct? n = some k then (costs k).toInt else 0).sum = nodeCost construct? costs n := by
      rw [nodeCost, ← List.sum_toFinset _ hnodup]
      cases construct? n with
      | none => simp
      | some k => simp [hall k]
    rw [List.map_cons, List.sum_cons, ih, ← hnode, ← List.sum_map_add]
    congr 1
    apply List.map_congr_left
    intro k _
    rw [List.countP_cons]
    by_cases hk : construct? n = some k
    · rw [if_pos hk, if_pos (decide_eq_true hk)]
      push_cast
      ring
    · rw [if_neg hk, if_neg (by simpa using hk)]
      simp

theorem totalCost_eq_linearCost [Construct κ] [DecidableEq κ] (hall : ∀ k : κ, k ∈ Construct.all)
    (hnodup : (Construct.all : List κ).Nodup) (n : Node) :
    totalCost construct? costs n = linearCost construct? costs n :=
  sum_nodeCost_eq construct? costs hall hnodup (reachable n)

variable {construct? costs} {rules : Rules κ} {toChar : Int → Int} {parent : Option Node} {n : Node}
  {u : MetricUnit}

theorem cost_of_unit? (hconstruct : ∀ p n, (rules p n).map Mark.construct = construct? n)
    (h : unit? rules costs toChar parent n = some u) :
    u.cost.toInt = nodeCost construct? costs n := by
  rw [nodeCost, ← hconstruct parent n]
  unfold unit? at h
  split at h
  · simp at h
  · rename_i mark hmark
    split_ifs at h
    cases h
    rw [hmark]
    rfl

theorem nodeCost_eq_zero [Construct κ] (hvalid : costs.Valid)
    (hconstruct : ∀ p n, (rules p n).map Mark.construct = construct? n)
    (h : unit? rules costs toChar parent n = none) : nodeCost construct? costs n = 0 := by
  rw [nodeCost, ← hconstruct parent n]
  unfold unit? at h
  split at h
  · rename_i hmark
    rw [hmark]
    rfl
  · rename_i mark hmark
    split_ifs at h with hscored
    have hzero : (costs mark.construct).toInt = 0 := by
      have hle := hvalid mark.construct
      omega
    rw [hmark]
    exact hzero

/-- The units of a node collect what the nodes from it on cost. -/
theorem sum_collected_units [Construct κ] (hvalid : costs.Valid)
    (hconstruct : ∀ p n, (rules p n).map Mark.construct = construct? n) (parent : Option Node)
    (n : Node) :
    ((units rules costs toChar parent n).map collected).sum = totalCost construct? costs n := by
  induction n using Node.induction generalizing parent with
  | step n ih =>
    have hbelow : ((unitsBelow rules costs toChar n).map collected).sum =
        (n.namedChildren.map (totalCost construct? costs)).sum := by
      rw [unitsBelow, sum_map_flatMap]
      apply congrArg List.sum
      apply List.map_congr_left
      intro c hc
      exact ih c hc (some n)
    rw [totalCost_eq, ← hbelow]
    cases hu : unit? rules costs toChar parent n with
    | none =>
      -- the only nodes left out are those that cost nothing
      rw [units_of_none hu, nodeCost_eq_zero hvalid hconstruct hu, zero_add]
    | some u =>
      have hchildren := children_of_unit? hu
      have hcost := cost_of_unit? hconstruct hu
      by_cases hv : u.visible = true
      · rw [units_of_visible hu hv, List.map_singleton, List.sum_singleton, collected_eq,
          cost_withChildren, children_withChildren, hcost]
      · rw [units_of_not_visible hu hv, List.map_cons, List.sum_cons, collected_eq, hchildren, hcost]
        simp

/-- A unit is that of a visited node and collects what the nodes from it on cost. -/
def CollectsVisit (rules : Rules κ) (construct? : Node → Option κ) (costs : CostTable κ)
    (toChar : Int → Int) (v : Visit) (u : MetricUnit) : Prop :=
  unit? rules costs toChar v.above.head? v.node = some u.bare ∧
    u.collected = totalCost construct? costs v.node

/-- The visible units of a node are those of the declarations from it on, in order, and each collects
what the nodes from its declaration on cost. -/
theorem forall₂_declarations [Construct κ] {isDeclaration : Node → Bool} (hvalid : costs.Valid)
    (hconstruct : ∀ p n, (rules p n).map Mark.construct = construct? n)
    (hdecl : ∀ p n, isDeclaration n = (rules p n).any (·.declares)) (above : List Node) (n : Node) :
    List.Forall₂ (CollectsVisit rules construct? costs toChar)
      ((visits above n).filter (isDeclaration ·.node))
      (((units rules costs toChar above.head? n).flatMap preorder).filter (·.visible)) := by
  induction n using Node.induction generalizing above with
  | step n ih =>
    have hbelow : List.Forall₂ (CollectsVisit rules construct? costs toChar)
        ((n.namedChildren.flatMap (visits (n :: above))).filter (isDeclaration ·.node))
        (((unitsBelow rules costs toChar n).flatMap preorder).filter (·.visible)) := by
      rw [unitsBelow, List.flatMap_assoc, List.filter_flatMap, List.filter_flatMap]
      have hsame : List.Forall₂ (fun c d => c = d ∧ c ∈ n.namedChildren) n.namedChildren
          n.namedChildren := List.forall₂_same.2 fun c hc => ⟨rfl, hc⟩
      refine List.rel_flatMap hsame ?_
      rintro c d ⟨rfl, hc⟩
      exact ih c hc (n :: above)
    have hvisible := (hdecl above.head? n).trans (declares_eq_visible rules costs toChar _ n)
    have htotal : ((units rules costs toChar above.head? n).map collected).sum =
        totalCost construct? costs n := sum_collected_units hvalid hconstruct _ n
    rw [visits_eq_cons]
    cases hu : unit? rules costs toChar above.head? n with
    | none =>
      rw [hu] at hvisible
      rw [units_of_none hu, List.filter_cons_of_neg (by simp [hvisible])]
      exact hbelow
    | some u =>
      have hchildren := children_of_unit? hu
      rw [hu, Option.any_some] at hvisible
      by_cases hv : u.visible = true
      · -- a declaration: the one unit of its node collects all that the node does
        rw [units_of_visible hu hv, List.map_singleton, List.sum_singleton] at htotal
        rw [units_of_visible hu hv, List.flatMap_singleton, preorder_eq_cons,
          List.filter_cons_of_pos (by simp [hvisible, hv]),
          List.filter_cons_of_pos (by simp [hv]), children_withChildren]
        refine .cons ⟨?_, htotal⟩ hbelow
        rw [bare_withChildren, bare_eq_self hchildren, hu]
      · rw [units_of_not_visible hu hv, List.flatMap_cons, preorder_eq_cons, hchildren,
          List.filter_cons_of_neg (by simp [hvisible, hv])]
        simpa [hv] using hbelow

/-- A metric tree whose collected costs are those of the syntax tree: its file collects the cost of
all nodes, its visible units are those of the declarations in order, and each collects the cost of
the nodes from its declaration on. -/
structure CollectsCosts [Construct κ] [DecidableEq κ] (rules : Rules κ)
    (construct? : Node → Option κ) (isDeclaration : Node → Bool) (costs : CostTable κ)
    (text : List Char) (tree : Node) (root : MetricUnit) : Prop where
  file : root.collected = totalCost construct? costs tree
  declarations : List.Forall₂ (CollectsVisit rules construct? costs (charOffset text))
    ((visits [] tree).filter (isDeclaration ·.node)) (root.preorder.filter (·.visible))
  linear : ∀ n, totalCost construct? costs n = linearCost construct? costs n

theorem collectsCosts_file [Construct κ] [DecidableEq κ] {isDeclaration : Node → Bool}
    (hall : ∀ k : κ, k ∈ Construct.all) (hnodup : (Construct.all : List κ).Nodup)
    (hvalid : costs.Valid) (hconstruct : ∀ p n, (rules p n).map Mark.construct = construct? n)
    (hdecl : ∀ p n, isDeclaration n = (rules p n).any (·.declares)) (text : List Char)
    (tree : Node) :
    CollectsCosts rules construct? isDeclaration costs text tree
      (MetricUnit.file text.length (units rules costs (charOffset text) none tree)) := by
  refine ⟨?_, ?_, totalCost_eq_linearCost construct? costs hall hnodup⟩
  · rw [collected_eq, ← sum_collected_units hvalid hconstruct none tree]
    exact zero_add _
  · rw [preorder_eq_cons, List.filter_cons_of_neg (by simp [MetricUnit.file, MetricUnit.visible])]
    exact forall₂_declarations hvalid hconstruct hdecl [] tree

end Totals

theorem Script.mem_all (k : ScriptConstruct) : k ∈ Construct.all := by
  cases k <;> decide

theorem Lua.mem_all (k : LuaConstruct) : k ∈ Construct.all := by
  cases k <;> decide

/-- The engines give a metric tree that collects the costs of the syntax tree they are handed, as
long as no cost is negative. -/
theorem compute_collects_costs {engine : Engine} {uri : String} {t : Text} (s : Settings)
    {source : TreeSource} {cs : List Char} {tree : Node}
    (hcs : Utf8.scalars (engine.parsedText t) = .ok cs)
    (htree : engine.tree uri source cs = .ok tree) :
    (∀ costs, engine ≠ .lua → s.script = .costs costs → costs.Valid →
      ∃ root, engine.compute uri t s source = .ok root ∧
        CollectsCosts (Script.rules (Utf8.encode cs)) Script.construct? Script.isDeclaration costs cs
          tree root) ∧
    (∀ costs, engine = .lua → s.lua = .costs costs → costs.Valid →
      ∃ root, engine.compute uri t s source = .ok root ∧
        CollectsCosts (Lua.rules (Utf8.encode cs)) Lua.construct? Lua.isDeclaration costs cs tree
          root) := by
  constructor
  · intro costs hengine hcosts hvalid
    rw [compute_of_script_costs hcs htree hengine hcosts]
    exact ⟨_, rfl, collectsCosts_file Script.mem_all (by decide) hvalid (Script.construct?_eq _)
      (Script.isDeclaration_eq _) cs tree⟩
  · intro costs hengine hcosts hvalid
    subst hengine
    rw [compute_of_lua_costs hcs htree hcosts]
    exact ⟨_, rfl, collectsCosts_file Lua.mem_all (by decide) hvalid (Lua.construct?_eq _)
      (Lua.isDeclaration_eq _) cs tree⟩

/-- A class costs nothing, its method, a branch and the operator in the branch one each; so do a
branch and its operator in Lua. -/
theorem compute_collects_costs_of_branches :
    let script := "class A\x7bm()\x7bif(x&&y);\x7d\x7d"
    let method := Node.mk "method_definition" 8 22 none true
      [.mk "property_identifier" 8 9 (some "name") true [],
        .mk "if_statement" 12 21 none true
          [.mk "binary_expression" 15 19 none true [.mk "&&" 16 18 (some "operator") false []]]]
    let tree := Node.mk "program" 0 23 none true [.mk "class_declaration" 0 23 none true [method]]
    let lua := "if x and y then end"
    let luaTree := Node.mk "chunk" 0 19 none true [.mk "if_statement" 0 19 none true
      [.mk "binary_expression" 3 10 none true [.mk "and" 5 8 none false []]]]
    totalCost Script.construct? .default tree = 3 ∧ totalCost Lua.construct? .default luaTree = 2 ∧
      (∃ root, (Engine.script "typescript").compute "" (Text.ofString script) {}
          (.given (some tree)) = .ok root ∧
        CollectsCosts (Script.rules (Utf8.encode script.toList)) Script.construct?
          Script.isDeclaration .default script.toList tree root) ∧
      ∃ root, Engine.lua.compute "" (Text.ofString lua) {} (.given (some luaTree)) = .ok root ∧
        CollectsCosts (Lua.rules (Utf8.encode lua.toList)) Lua.construct? Lua.isDeclaration .default
          lua.toList luaTree root := by
  intro script method tree lua luaTree
  have hscript : Utf8.scalars ((Engine.script "typescript").parsedText (Text.ofString script)) =
      .ok script.toList := by simp [Engine.parsedText, Utf8.scalars, Text.ofString]
  have hlua : Utf8.scalars (Engine.lua.parsedText (Text.ofString lua)) = .ok lua.toList := by
    simp [Engine.parsedText, Utf8.scalars, Text.ofString]
  refine ⟨by decide +kernel, by decide +kernel, ?_, ?_⟩
  · exact (compute_collects_costs {} hscript rfl).1 .default (by decide) rfl
      fun k => by cases k <;> decide
  · exact (compute_collects_costs {} hlua rfl).2 .default rfl rfl fun k => by cases k <;> decide

end ComplexityHints.Score
