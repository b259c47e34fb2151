import ComplexityHints.Engine
import ComplexityHints.Proofs.Score.Stack

namespace ComplexityHints.Score

open Syntax MetricUnit

/-- A node on a path of named children, and the nodes above it on the path, nearest first. -/
structure Visit where
  above : List Node
  node : Node

mutual

def visits (above : List Node) : Node → List Visit
  | .mk kind start stop field named children =>
    let node := Node.mk kind start stop field named children
    ⟨above, node⟩ :: visitsOfNamed (node :: above) children

def visitsOfNamed (above : List Node) : List Node → List Visit
  | [] => []
  | n :: ns => (if n.named then visits above n else []) ++ visitsOfNamed above ns

end

theorem visitsOfNamed_eq_flatMap (above ns : List Node) :
    visitsOfNamed above ns = (ns.filter (·.named)).flatMap (visits above) := by
  induction ns with
  | nil => rfl
  | cons n ns ih =>
    rw [visitsOfNamed, ih]
    by_cases hn : n.named = true <;> simp [hn]

theorem visits_eq_cons (above : List Node) (n : Node) :
    visits above n = ⟨above, n⟩ :: n.namedChildren.flatMap (visits (n :: above)) := by
  cases n
  rw [visits, visitsOfNamed_eq_flatMap]
  rfl

section Walk

variable {κ : Type} (rules : Rules κ) (isDeclaration : Node → Bool) (costs : CostTable κ)
  (toChar : Int → Int)

/-- The units of the declarations on a path, nearest first. -/
def lineage : List Node → List MetricUnit
  | [] => []
  | n :: above =>
    if isDeclaration n then (unit? rules costs toChar above.head? n).toList ++ lineage above
    else lineage above

/-- The unit that a visit leaves, below the declarations on its path and the unit `root`. -/
def placement? (root : MetricUnit) (v : Visit) : Option Placement :=
  (unit? rules costs toChar v.above.head? v.node).map fun u =>
    ⟨lineage rules isDeclaration costs toChar v.above ++ [root], u⟩

variable {rules isDeclaration costs toChar}

theorem lineage_cons_of_visible (hdecl : ∀ p n, isDeclaration n = (rules p n).any (·.declares))
    {above : List Node} {n : Node} {u : MetricUnit}
    (hu : unit? rules costs toChar above.head? n = some u) (hv : u.visible = true) :
    lineage rules isDeclaration costs toChar (n :: above) =
      u :: lineage rules isDeclaration costs toChar above := by
  have hd : isDeclaration n = true := by
    rw [hdecl above.head? n, declares_eq_visible rules costs toChar, hu, Option.any_some, hv]
  rw [lineage, if_pos hd, hu]
  rfl

theorem lineage_cons_of_not_visible
    (hdecl : ∀ p n, isDeclaration n = (rules p n).any (·.declares)) {above : List Node} {n : Node}
    (hv : (unit? rules costs toChar above.head? n).any (·.visible) = false) :
    lineage rules isDeclaration costs toChar (n :: above) =
      lineage rules isDeclaration costs toChar above := by
  have hd : isDeclaration n = false := by
    rw [hdecl above.head? n, declares_eq_visible rules costs toChar, hv]
  rw [lineage, hd, if_neg Bool.false_ne_true]

/-- The units of a node are placed as the visits from it say. -/
theorem flatMap_placements_units (hdecl : ∀ p n, isDeclaration n = (rules p n).any (·.declares))
    (root : MetricUnit) (above : List Node) (n : Node) :
    (units rules costs toChar above.head? n).flatMap
        (placements (lineage rules isDeclaration costs toChar above ++ [root])) =
      (visits above n).filterMap (placement? rules isDeclaration costs toChar root) := by
  induction n using Node.induction generalizing above with
  | step n ih =>
    have hbelow : (unitsBelow rules costs toChar n).flatMap
        (placements (lineage rules isDeclaration costs toChar (n :: above) ++ [root])) =
        (n.namedChildren.flatMap (visits (n :: above))).filterMap
          (placement? rules isDeclaration costs toChar root) := by
      rw [unitsBelow, List.flatMap_assoc, List.filterMap_flatMap]
      apply List.flatMap_congr
      intro c hc
      exact ih c hc (n :: above)
    rw [visits_eq_cons, List.filterMap_cons, placement?]
    dsimp only
    cases hu : unit? rules costs toChar above.head? n with
    | none =>
      -- the node leaves nothing, and what is below it keeps its path
      rw [lineage_cons_of_not_visible hdecl (by rw [hu]; rfl)] at hbelow
      rw [units_of_none hu]
      exact hbelow
    | some u =>
      have hchildren := children_of_unit? hu
      by_cases hv : u.visible = true
      · -- a declaration: its unit joins the paths below it
        rw [lineage_cons_of_visible hdecl hu hv] at hbelow
        rw [units_of_visible hu hv, List.flatMap_singleton, placements_eq_cons,
          children_withChildren, bare_withChildren, bare_eq_self hchildren]
        exact congrArg (_ :: ·) hbelow
      · -- any other unit stands beside what is below its node
        rw [lineage_cons_of_not_visible hdecl (by simp [hu, hv])] at hbelow
        rw [units_of_not_visible hu hv, List.flatMap_cons, placements_eq_cons, hchildren,
          bare_eq_self hchildren]
        exact congrArg (_ :: ·) hbelow

theorem invisible_of_mem_units {parent : Option Node} {n : Node} {u : MetricUnit}
    (h : u ∈ (units rules costs toChar parent n).flatMap preorder) (hv : u.visible = false) :
    0 < u.cost.toInt ∧ u.children = [] := by
  induction n using Node.induction generalizing parent with
  | step n ih =>
    have hbelow (hu : u ∈ (unitsBelow rules costs toChar n).flatMap preorder) :
        0 < u.cost.toInt ∧ u.children = [] := by
      rw [unitsBelow, List.flatMap_assoc] at hu
      obtain ⟨c, hc, hu⟩ := List.mem_flatMap.1 hu
      exact ih c hc hu
    cases hw : unit? rules costs toChar parent n with
    | none =>
      rw [units_of_none hw] at h
      exact hbelow h
    | some w =>
      have hchildren := children_of_unit? hw
      by_cases hwv : w.visible = true
      · rw [units_of_visible hw hwv, List.flatMap_singleton, preorder_eq_cons,
          children_withChildren] at h
        rcases List.mem_cons.1 h with rfl | h
        · rw [visible_withChildren, hwv] at hv
          exact absurd hv (by decide)
        · exact hbelow h
      · rw [units_of_not_visible hw hwv, List.flatMap_cons, preorder_eq_cons, hchildren] at h
        rcases List.mem_cons.1 h with rfl | h
        · exact ⟨cost_pos_of_unit? hw hv, hchildren⟩
        · exact hbelow h

/-- The metric tree of a syntax tree. It lists the scored nodes in the order of their visits, every
unit has above it the units of the declarations above its node and then the file, and units that are
not visible have a cost and no children. -/
structure IsMetricTree (rules : Rules κ) (isDeclaration : Node → Bool) (costs : CostTable κ)
    (text : List Char) (tree : Node) (root : MetricUnit) : Prop where
  listed : root.preorder.map bare = file text.length [] ::
    (visits [] tree).filterMap fun v => unit? rules costs (charOffset text) v.above.head? v.node
  placed : root.placements [] = ⟨[], file text.length []⟩ ::
    (visits [] tree).filterMap
      (placement? rules isDeclaration costs (charOffset text) (file text.length []))
  invisible : ∀ u ∈ root.preorder.tail, u.visible = false → 0 < u.cost.toInt ∧ u.children = []

theorem isMetricTree_file (hdecl : ∀ p n, isDeclaration n = (rules p n).any (·.declares))
    (costs : CostTable κ) (text : List Char) (tree : Node) :
    IsMetricTree rules isDeclaration costs text tree
      (file text.length (units rules costs (charOffset text) none tree)) := by
  have hplaced : (file text.length (units rules costs (charOffset text) none tree)).placements [] =
      ⟨[], file text.length []⟩ :: (visits [] tree).filterMap
        (placement? rules isDeclaration costs (charOffset text) (file text.length [])) := by
    rw [placements_eq_cons, ← flatMap_placements_units hdecl]
    rfl
  refine ⟨?_, hplaced, ?_⟩
  · rw [← map_unit_placements [], hplaced, List.map_cons, List.map_filterMap]
    congr 1
    apply List.filterMap_congr
    intro v _
    rw [placement?, Option.map_map]
    exact Option.map_id'
  · intro u hu hv
    rw [preorder_eq_cons] at hu
    exact invisible_of_mem_units hu hv

/-- There is one metric tree of a syntax tree, and the walk gives it. -/
theorem isMetricTree_iff (hdecl : ∀ p n, isDeclaration n = (rules p n).any (·.declares))
    (costs : CostTable κ) (text : List Char) (tree : Node) (root : MetricUnit) :
    IsMetricTree rules isDeclaration costs text tree root ↔
      root = file text.length (units rules costs (charOffset text) none tree) := by
  have hfile := isMetricTree_file hdecl costs text tree
  constructor
  · intro h
    exact placements_injective [] (h.placed.trans hfile.placed.symm)
  · intro h
    rw [h]
    exact hfile

def scored (rules : Rules κ) (costs : CostTable κ) (v : Visit) : Bool :=
  (rules v.above.head? v.node).any fun mark =>
    mark.declares || decide (0 < (costs mark.construct).toInt)

theorem isSome_unit? (rules : Rules κ) (costs : CostTable κ) (toChar : Int → Int) (v : Visit) :
    (unit? rules costs toChar v.above.head? v.node).isSome = scored rules costs v := by
  unfold unit? scored
  cases rules v.above.head? v.node with
  | none => rfl
  | some mark =>
    dsimp only [Option.any_some]
    split_ifs with h <;> simpa using h

theorem forall₂_of_map_eq_filterMap {α β γ : Type} {f : α → Option β} {g : γ → β} {l : List α}
    {us : List γ} (h : us.map g = l.filterMap f) :
    List.Forall₂ (fun a u => f a = some (g u)) (l.filter fun a => (f a).isSome) us := by
  induction l generalizing us with
  | nil =>
    obtain rfl : us = [] := by simpa using h
    exact .nil
  | cons a l ih =>
    cases ha : f a with
    | none =>
      rw [List.filterMap_cons_none ha] at h
      simpa [ha] using ih h
    | some b =>
      rw [List.filterMap_cons_some ha] at h
      obtain ⟨u, us, rfl, hu, hus⟩ := List.map_eq_cons_iff.1 h
      rw [List.filter_cons_of_pos (by rw [ha, Option.isSome_some])]
      exact .cons (by rw [ha, hu]) (ih hus)

theorem forall₂_units {text : List Char} {tree : Node} {root : MetricUnit}
    (h : IsMetricTree rules isDeclaration costs text tree root) :
    List.Forall₂ (fun v u => unit? rules costs (charOffset text) v.above.head? v.node = some u.bare)
      ((visits [] tree).filter (scored rules costs)) root.preorder.tail := by
  have hlisted := congrArg List.tail h.listed
  rw [← List.map_tail, List.tail_cons] at hlisted
  have hunits := forall₂_of_map_eq_filterMap hlisted
  rwa [funext (isSome_unit? rules costs (charOffset text))] at hunits

theorem span_of_unit? {parent : Option Node} {n : Node} {u : MetricUnit}
    (h : unit? rules costs toChar parent n = some u.bare) :
    u.start = toChar n.start ∧ u.stop = toChar n.stop := by
  obtain ⟨mark, -, hu⟩ := exists_mark_of_unit? h
  obtain ⟨start, stop, label, cost, visible, description, children⟩ := u
  cases hu
  exact ⟨rfl, rfl⟩

theorem units_of_metricTree [Construct κ] {table : CostSection κ} {text : List Char} {tree : Node}
    {root : MetricUnit} (h : metricTree rules table text tree = .ok root) :
    ∃ us, root = file text.length us ∧
      (us = [] ∨ ∃ costs, us = units rules costs (charOffset text) none tree) := by
  cases table with
  | costs costs =>
    rw [metricTree_costs] at h
    exact ⟨_, (Except.ok.inj h).symm, .inr ⟨costs, rfl⟩⟩
  | unchecked v => exact ⟨[], eq_of_metricTree_unchecked h, .inl rfl⟩

theorem span_of_metricTree [Construct κ] {section_ : CostSection κ} {text : List Char} {tree : Node}
    {root : MetricUnit} (h : metricTree rules section_ text tree = .ok root) :
    root.start = 0 ∧ root.stop = text.length := by
  obtain ⟨us, rfl, -⟩ := units_of_metricTree h
  exact ⟨rfl, rfl⟩

end Walk

def Script.isDeclaration (n : Node) : Bool := (Script.declaration? n.kind).isSome

def Lua.isDeclaration (n : Node) : Bool :=
  n.kind = "function_declaration" || n.kind = "function_definition"

theorem Script.isDeclaration_eq (source : Utf8.Bytes) (p : Option Node) (n : Node) :
    Script.isDeclaration n = (Script.rules source p n).any (·.declares) := by
  unfold Script.isDeclaration Script.rules
  cases Script.declaration? n.kind with
  | some d => rfl
  | none =>
    cases Script.statement? n.kind with
    | some st => rfl
    | none =>
      dsimp only
      split_ifs
      · cases n.childInField? "operator" with
        | none => rfl
        | some operator => cases h : Script.operator? operator.kind <;> simp [h]
      · rfl

theorem Lua.isDeclaration_eq (source : Utf8.Bytes) (p : Option Node) (n : Node) :
    Lua.isDeclaration n = (Lua.rules source p n).any (·.declares) := by
  unfold Lua.isDeclaration Lua.rules
  by_cases h : n.kind = "function_declaration" ∨ n.kind = "function_definition"
  · rw [if_pos h]
    simpa using h
  · rw [if_neg h]
    cases Lua.statement? n.kind with
    | some st => simpa using h
    | none =>
      dsimp only
      split_ifs <;> simpa using h

theorem compute_eq_score {engine : Engine} {uri : String} {t : Text} (s : Settings)
    {source : TreeSource} {cs : List Char} {tree : Node}
    (hcs : Utf8.scalars (engine.parsedText t) = .ok cs)
    (htree : engine.tree uri source cs = .ok tree) :
    engine.compute uri t s source = (engine.score s cs tree).mapError .fault := by
  unfold Engine.compute
  rw [hcs]
  change (engine.tree uri source cs).bind _ = _
  rw [htree]
  rfl

theorem compute_of_script_costs {engine : Engine} {uri : String} {t : Text} {s : Settings}
    {source : TreeSource} {cs : List Char} {tree : Node} {costs : CostTable ScriptConstruct}
    (hcs : Utf8.scalars (engine.parsedText t) = .ok cs)
    (htree : engine.tree uri source cs = .ok tree) (hengine : engine ≠ .lua)
    (hcosts : s.script = .costs costs) :
    engine.compute uri t s source = .ok (file cs.length
      (units (Script.rules (Utf8.encode cs)) costs (charOffset cs) none tree)) := by
  rw [compute_eq_score s hcs htree, Engine.score, hcosts, metricTree_costs]
  · rfl
  · exact hengine

theorem compute_of_lua_costs {uri : String} {t : Text} {s : Settings} {source : TreeSource}
    {cs : List Char} {tree : Node} {costs : CostTable LuaConstruct}
    (hcs : Utf8.scalars (Engine.lua.parsedText t) = .ok cs)
    (htree : Engine.lua.tree uri source cs = .ok tree) (hcosts : s.lua = .costs costs) :
    Engine.lua.compute uri t s source = .ok (file cs.length
      (units (Lua.rules (Utf8.encode cs)) costs (charOffset cs) none tree)) := by
  rw [compute_eq_score s hcs htree, Engine.score, hcosts, metricTree_costs]
  rfl

/-- The engines give the metric tree of the syntax tree they are handed, whatever the costs are, and
there is no other. -/
theorem compute_eq_metricTree {engine : Engine} {uri : String} {t : Text} (s : Settings)
    {source : TreeSource} {cs : List Char} {tree : Node}
    (hcs : Utf8.scalars (engine.parsedText t) = .ok cs)
    (htree : engine.tree uri source cs = .ok tree) :
    (∀ costs, engine ≠ .lua → s.script = .costs costs →
      ∃ root, engine.compute uri t s source = .ok root ∧ ∀ root',
        IsMetricTree (Script.rules (Utf8.encode cs)) Script.isDeclaration costs cs tree root' ↔
          root' = root) ∧
    (∀ costs, engine = .lua → s.lua = .costs costs →
      ∃ root, engine.compute uri t s source = .ok root ∧ ∀ root',
        IsMetricTree (Lua.rules (Utf8.encode cs)) Lua.isDeclaration costs cs tree root' ↔
          root' = root) := by
  constructor
  · intro costs hengine hcosts
    rw [compute_of_script_costs hcs htree hengine hcosts]
    exact ⟨_, rfl, isMetricTree_iff (Script.isDeclaration_eq _) costs cs tree⟩
  · intro costs hengine hcosts
    subst hengine
    rw [compute_of_lua_costs hcs htree hcosts]
    exact ⟨_, rfl, isMetricTree_iff (Lua.isDeclaration_eq _) costs cs tree⟩

/-- A branch in a method of a class, under the default costs. -/
theorem compute_eq_metricTree_of_method :
    let text := "class A\x7bm()\x7bif(x);\x7d\x7d"
    let branch := Node.mk "if_statement" 12 18 none true []
    let method := Node.mk "method_definition" 8 19 none true
      [.mk "property_identifier" 8 9 (some "name") true [],
        .mk "statement_block" 11 19 (some "body") true [branch]]
    let tree := Node.mk "program" 0 20 none true [.mk "class_declaration" 0 20 none true
      [.mk "type_identifier" 6 7 (some "name") true [],
        .mk "class_body" 7 20 (some "body") true [method]]]
    ∃ root, (Engine.script "typescript").compute "" (Text.ofString text) {} (.given (some tree)) =
        .ok root ∧ ∀ root', IsMetricTree (Script.rules (Utf8.encode text.toList))
          Script.isDeclaration .default text.toList tree root' ↔ root' = root :=
  (compute_eq_metricTree {} (by simp [Engine.parsedText, Utf8.scalars, Text.ofString]) rfl).1
    .default (by decide) rfl

end ComplexityHints.Score
