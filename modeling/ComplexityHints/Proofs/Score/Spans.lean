import ComplexityHints.Diagnostic
import ComplexityHints.Proofs.Host.Layout
import ComplexityHints.Proofs.Metric.Kept
import ComplexityHints.Proofs.Positions
import ComplexityHints.Proofs.Score.Conversion

namespace ComplexityHints.Score

open Syntax MetricUnit

/-- A syntax tree whose nodes do not stop before they start, lie inside their parents, and follow their
siblings. Only nodes that named children lead to matter. -/
structure SourceOrdered (tree : Node) : Prop where
  forward : ∀ n ∈ reachable tree, n.start ≤ n.stop
  inside : ∀ n ∈ reachable tree, ∀ c ∈ n.namedChildren, n.start ≤ c.start ∧ c.stop ≤ n.stop
  apart : ∀ n ∈ reachable tree, n.namedChildren.Pairwise (·.stop ≤ ·.start)

section Nodes

variable {n m c : Node}

theorem SourceOrdered.of_mem (h : SourceOrdered n) (hm : m ∈ reachable n) : SourceOrdered m :=
  ⟨fun c hc => h.forward c (reachable_trans hm hc), fun c hc => h.inside c (reachable_trans hm hc),
    fun c hc => h.apart c (reachable_trans hm hc)⟩

theorem SourceOrdered.child (h : SourceOrdered n) (hc : c ∈ n.namedChildren) : SourceOrdered c :=
  h.of_mem (mem_reachable_of_child hc (self_mem_reachable c))

theorem SourceOrdered.bounds (h : SourceOrdered n) (hm : m ∈ reachable n) :
    n.start ≤ m.start ∧ m.start ≤ m.stop ∧ m.stop ≤ n.stop := by
  have hforward := h.forward m hm
  induction n using Node.induction with
  | step n ih =>
    rw [reachable_eq_cons] at hm
    rcases List.mem_cons.1 hm with rfl | hm
    · omega
    · obtain ⟨c, hc, hm⟩ := List.mem_flatMap.1 hm
      have hchild := h.inside n (self_mem_reachable n) c hc
      have hbelow := ih c hc (h.child hc) hm
      omega

/-- A node lies inside or behind every node that is listed before it. -/
theorem SourceOrdered.pairwise_reachable (h : SourceOrdered n) :
    (reachable n).Pairwise fun a b => a.start ≤ b.start ∧ (b.stop ≤ a.stop ∨ a.stop ≤ b.start) := by
  induction n using Node.induction with
  | step n ih =>
    rw [reachable_eq_cons]
    refine .cons ?_ (List.pairwise_flatMap.2 ⟨fun c hc => ih c hc (h.child hc), ?_⟩)
    · intro b hb
      obtain ⟨c, hc, hb⟩ := List.mem_flatMap.1 hb
      have hbounds := h.bounds (mem_reachable_of_child hc hb)
      omega
    · -- nodes below different children are as far apart as the children
      refine (h.apart n (self_mem_reachable n)).imp_of_mem ?_
      intro c d hc hd hcd a ha b hb
      have hbefore := (h.child hc).bounds ha
      have hbehind := (h.child hd).bounds hb
      omega

end Nodes

section Units

variable {κ : Type} {rules : Rules κ} {costs : CostTable κ} {toChar : Int → Int}
  {parent : Option Node} {n : Node} {u : MetricUnit}

theorem span_of_unit?_eq_some (h : unit? rules costs toChar parent n = some u) :
    u.start = toChar n.start ∧ u.stop = toChar n.stop := by
  obtain ⟨mark, -, hu⟩ := exists_mark_of_unit? h
  rw [hu]
  exact ⟨rfl, rfl⟩

theorem exists_span_of_mem_units (h : u ∈ (units rules costs toChar parent n).flatMap preorder) :
    ∃ m ∈ reachable n, u.start = toChar m.start ∧ u.stop = toChar m.stop := by
  obtain ⟨m, hm, p, w, hw, hu⟩ := exists_node_of_mem_units h
  have hspan := span_of_unit?_eq_some hw
  refine ⟨m, hm, ?_⟩
  rcases hu with rfl | rfl
  · rwa [start_withChildren, stop_withChildren]
  · exact hspan

theorem self_mem_flatMap_preorder {us : List MetricUnit} (h : u ∈ us) : u ∈ us.flatMap preorder := by
  refine List.mem_flatMap.2 ⟨u, h, ?_⟩
  rw [preorder_eq_cons]
  exact List.mem_cons_self

theorem sublist_flatMap_preorder (us : List MetricUnit) : us.Sublist (us.flatMap preorder) := by
  induction us with
  | nil => exact List.Sublist.refl _
  | cons u us ih =>
    rw [List.flatMap_cons, preorder_eq_cons, List.cons_append]
    exact (ih.trans (List.sublist_append_right _ _)).cons_cons u

end Units

section Order

variable {length : Nat} {u v root : MetricUnit} {us listing : List MetricUnit}

/-- The second unit starts no earlier than the first and lies inside or behind it. -/
def Precedes (u v : MetricUnit) : Prop :=
  u.start ≤ v.start ∧ (v.stop ≤ u.stop ∨ u.stop ≤ v.start)

def Nested (u v : MetricUnit) : Prop :=
  (u.start ≤ v.start ∧ v.stop ≤ u.stop) ∨ (v.start ≤ u.start ∧ u.stop ≤ v.stop)

def Apart (u v : MetricUnit) : Prop := u.stop ≤ v.start ∨ v.stop ≤ u.start

/-- Units listed in the order of the source, with their children inside them. -/
structure InOrder (length : Nat) (listing : List MetricUnit) : Prop where
  bounds : ∀ u ∈ listing, 0 ≤ u.start ∧ u.start ≤ u.stop ∧ u.stop ≤ length
  inside : ∀ u ∈ listing, ∀ c ∈ u.children, u.start ≤ c.start ∧ c.stop ≤ u.stop
  pairwise : listing.Pairwise Precedes

/-- What a metric tree says about a text of a given length: units lie in the text and inside their
parents, siblings and kept units come in the order in which they start, any two units are nested or
apart, and no diagnostic stops before it starts. -/
structure Laminar (length : Nat) (root : MetricUnit) : Prop where
  bounds : ∀ u ∈ root.preorder, 0 ≤ u.start ∧ u.start ≤ u.stop ∧ u.stop ≤ length
  inside : ∀ u ∈ root.preorder, ∀ c ∈ u.children, u.start ≤ c.start ∧ c.stop ≤ u.stop
  siblings : ∀ u ∈ root.preorder, u.children.Pairwise (·.start ≤ ·.start)
  nested : ∀ u ∈ root.preorder, ∀ v ∈ root.preorder, Nested u v ∨ Apart u v
  kept : ∀ s : Settings, (root.keptUnits s).Pairwise (·.start ≤ ·.start)
  ranges : ∀ (s : Settings) (d : Document) (diagnostics : List Diagnostic),
    Diagnostic.ofUnits s d (root.keptUnits s) = .ok diagnostics →
      ∀ x ∈ diagnostics, x.start = x.stop ∨ x.start.Before x.stop

theorem InOrder.below_file (h : InOrder length (us.flatMap preorder)) :
    InOrder length (file length us).preorder := by
  have hfile : (file length us).start = 0 ∧ (file length us).stop = length ∧
      (file length us).children = us := ⟨rfl, rfl, rfl⟩
  rw [preorder_eq_cons, hfile.2.2]
  refine ⟨List.forall_mem_cons.2 ⟨?_, h.bounds⟩, List.forall_mem_cons.2 ⟨?_, h.inside⟩,
    .cons ?_ h.pairwise⟩
  · omega
  · intro c hc
    have hbounds := h.bounds c (self_mem_flatMap_preorder (hfile.2.2 ▸ hc))
    omega
  · intro v hv
    have hbounds := h.bounds v hv
    exact ⟨by omega, .inl (by omega)⟩

theorem range_of_mem_ofUnits {s : Settings} {d : Document} {diagnostics : List Diagnostic}
    (hforward : ∀ u ∈ us, u.start ≤ u.stop) (h : Diagnostic.ofUnits s d us = .ok diagnostics) :
    ∀ x ∈ diagnostics, x.start = x.stop ∨ x.start.Before x.stop := by
  intro x hx
  unfold Diagnostic.ofUnits at h
  split_ifs at h
  · obtain ⟨u, hu, hunit⟩ := (mem_of_mapM h x).1 hx
    obtain ⟨message, -, hpositions⟩ := ok_of_bind hunit
    cases hpositions
    exact Text.positionAt_of_le (hforward u hu)
  · cases h
    cases hx

theorem InOrder.laminar (h : InOrder length root.preorder) : Laminar length root where
  bounds := h.bounds
  inside := h.inside
  siblings := by
    intro u hu
    have hbelow : (u.children.flatMap preorder).Sublist u.preorder := by
      rw [preorder_eq_cons]
      exact List.sublist_cons_self _ _
    have hsublist := ((sublist_flatMap_preorder u.children).trans hbelow).trans (preorder_sublist hu)
    exact (h.pairwise.sublist hsublist).imp And.left
  nested := by
    refine List.Pairwise.forall_of_forall_of_flip ?_ ?_ ?_
    · intro u _
      exact .inl (.inl ⟨le_rfl, le_rfl⟩)
    · refine h.pairwise.imp ?_
      intro u v huv
      exact huv.2.imp (fun hstop => .inl ⟨huv.1, hstop⟩) .inl
    · refine h.pairwise.imp ?_
      intro u v huv
      exact huv.2.imp (fun hstop => .inr ⟨huv.1, hstop⟩) .inr
  kept := by
    intro s
    exact (h.pairwise.sublist List.filter_sublist).imp And.left
  ranges := by
    intro s d diagnostics
    refine range_of_mem_ofUnits ?_
    intro u hu
    exact (h.bounds u (List.mem_filter.1 hu).1).2.1

end Order

section Trees

variable {κ : Type} {rules : Rules κ} {isDeclaration : Node → Bool} {costs : CostTable κ}
  {cs : List Char} {tree : Node} {root : MetricUnit}

theorem pairwise_units (hdecl : ∀ p n, isDeclaration n = (rules p n).any (·.declares))
    (horder : SourceOrdered tree) (hstop : tree.stop ≤ (Utf8.encode cs).length) :
    ((units rules costs (charOffset cs) none tree).flatMap preorder).Pairwise Precedes := by
  have hlisted : ((units rules costs (charOffset cs) none tree).flatMap preorder).map bare =
      (visits [] tree).filterMap fun v => unit? rules costs (charOffset cs) v.above.head? v.node := by
    have hfile := (isMetricTree_file hdecl costs cs tree).listed
    rw [preorder_eq_cons, List.map_cons] at hfile
    exact (List.cons.inj hfile).2
  have hvisits : (visits [] tree).Pairwise fun v w => v.node.start ≤ w.node.start ∧
      (w.node.stop ≤ v.node.stop ∨ v.node.stop ≤ w.node.start) :=
    List.pairwise_map.1 horder.pairwise_reachable
  have hbare : (((units rules costs (charOffset cs) none tree).flatMap preorder).map bare).Pairwise
      Precedes := by
    rw [hlisted]
    apply List.pairwise_filterMap.2
    refine hvisits.imp_of_mem ?_
    intro v w hv hw hvw a ha b hb
    have hvBounds := horder.bounds (List.mem_map_of_mem hv)
    have hwBounds := horder.bounds (List.mem_map_of_mem hw)
    have haSpan := span_of_unit?_eq_some ha
    have hbSpan := span_of_unit?_eq_some hb
    rw [Precedes, haSpan.1, haSpan.2, hbSpan.1, hbSpan.2]
    -- offsets keep their order, whichever way the two nodes lie
    refine ⟨(charOffset_between hvw.1 (by omega)).2.1, hvw.2.imp ?_ ?_⟩
    · intro h
      exact (charOffset_between h (by omega)).2.1
    · intro h
      exact (charOffset_between h (by omega)).2.1
  refine (List.pairwise_map.1 hbare).imp ?_
  intro u v huv
  simpa only [Precedes, bare, start_withChildren, stop_withChildren] using huv

theorem inOrder_units (hdecl : ∀ p n, isDeclaration n = (rules p n).any (·.declares))
    (horder : SourceOrdered tree) (hstop : tree.stop ≤ (Utf8.encode cs).length) :
    InOrder cs.length ((units rules costs (charOffset cs) none tree).flatMap preorder) := by
  refine ⟨?_, ?_, pairwise_units hdecl horder hstop⟩
  · intro u hu
    obtain ⟨m, hm, hstart, hend⟩ := exists_span_of_mem_units hu
    have hbounds := horder.bounds hm
    have hbetween := charOffset_between hbounds.2.1 (by omega : m.stop ≤ (Utf8.encode cs).length)
    omega
  · intro u hu c hc
    obtain ⟨m, hm, p, w, hw, hunit⟩ := exists_node_of_mem_units hu
    have hspan := span_of_unit?_eq_some hw
    rcases hunit with rfl | rfl
    · -- a child belongs to a node below one of the named children
      rw [children_withChildren, unitsBelow] at hc
      obtain ⟨d, hd, hc⟩ := List.mem_flatMap.1 hc
      obtain ⟨m', hm', hstart, hend⟩ := exists_span_of_mem_units (self_mem_flatMap_preorder hc)
      have hinside := (horder.of_mem hm).bounds (mem_reachable_of_child hd hm')
      have hbounds := horder.bounds hm
      rw [start_withChildren, stop_withChildren, hspan.1, hspan.2, hstart, hend]
      exact ⟨(charOffset_between hinside.1 (by omega)).2.1,
        (charOffset_between hinside.2.2 (by omega)).2.1⟩
    · rw [children_of_unit? hw] at hc
      cases hc

theorem laminar_of_metricTree [Construct κ]
    (hdecl : ∀ p n, isDeclaration n = (rules p n).any (·.declares)) (horder : SourceOrdered tree)
    (hstop : tree.stop ≤ (Utf8.encode cs).length) {table : CostSection κ}
    (h : metricTree rules table cs tree = .ok root) : Laminar cs.length root := by
  obtain ⟨us, hroot, hus⟩ := units_of_metricTree h
  have hinOrder : InOrder cs.length (us.flatMap preorder) := by
    rcases hus with rfl | ⟨costs, rfl⟩
    · exact ⟨by simp, by simp, .nil⟩
    · exact inOrder_units hdecl horder hstop
  rw [hroot]
  exact hinOrder.below_file.laminar

end Trees

theorem length_of_scalars {engine : Engine} {t : Text} {cs : List Char}
    (hcs : Utf8.scalars (engine.parsedText t) = .ok cs) : cs.length = t.length := by
  have hparsed := congrArg List.length (Utf8.eq_ofChars_of_scalars hcs)
  rw [Text.length_ofChars] at hparsed
  cases engine with
  | host grammar => exact hparsed.symm.trans (Host.aligned_mask t).length_eq
  | script grammar => exact hparsed.symm
  | lua => exact hparsed.symm

/-- Of a syntax tree in the order of the source the engines give a metric tree whose units lie inside
their parents and in the text, siblings and kept units in the order in which they start, any two units
nested or apart, and diagnostics that do not stop before they start. There is such a tree whenever the
sections hold costs. -/
theorem compute_is_laminar {engine : Engine} {uri : String} {t : Text} {source : TreeSource}
    {cs : List Char} {tree : Node} (s : Settings)
    (hcs : Utf8.scalars (engine.parsedText t) = .ok cs)
    (htree : engine.tree uri source cs = .ok tree) (horder : SourceOrdered tree)
    (hstop : tree.stop ≤ (Utf8.encode cs).length) :
    (∀ script lua, s.script = .costs script → s.lua = .costs lua →
      ∃ root, engine.compute uri t s source = .ok root) ∧
    ∀ root, engine.compute uri t s source = .ok root → Laminar t.length root := by
  constructor
  · intro script lua hscript hlua
    by_cases hengine : engine = .lua
    · subst hengine
      exact ⟨_, compute_of_lua_costs hcs htree hlua⟩
    · exact ⟨_, compute_of_script_costs hcs htree hengine hscript⟩
  · intro root hroot
    rw [compute_eq_score s hcs htree] at hroot
    have hscore := ok_of_mapError hroot
    rw [← length_of_scalars hcs]
    cases engine with
    | script grammar => exact laminar_of_metricTree (Script.isDeclaration_eq _) horder hstop hscore
    | host grammar => exact laminar_of_metricTree (Script.isDeclaration_eq _) horder hstop hscore
    | lua => exact laminar_of_metricTree (Lua.isDeclaration_eq _) horder hstop hscore

/-- A branch that starts between the two bytes of a character, with a function inside it that the metric
tree puts beside it. -/
theorem compute_is_laminar_of_split_character :
    let text := "é(()=>1)"
    let tree := Node.mk "program" 0 9 none true [.mk "if_statement" 1 9 none true
      [.mk "arrow_function" 3 8 none true []]]
    SourceOrdered tree ∧ tree.stop ≤ (Utf8.encode text.toList).length ∧
      ∃ root, (Engine.script "typescript").compute "" (Text.ofString text) {} (.given (some tree)) =
          .ok root ∧ Laminar (Text.ofString text).length root ∧
        root.children.map (fun u => (u.start, u.stop)) = [(1, 8), (2, 7)] := by
  intro text tree
  have hcs : Utf8.scalars ((Engine.script "typescript").parsedText (Text.ofString text)) =
      .ok text.toList := by simp [Engine.parsedText, Utf8.scalars, Text.ofString]
  have htree : (Engine.script "typescript").tree "" (.given (some tree)) text.toList = .ok tree := rfl
  have horder : SourceOrdered tree :=
    ⟨by decide +kernel, by decide +kernel, by decide +kernel⟩
  have hstop : tree.stop ≤ (Utf8.encode text.toList).length := by decide +kernel
  obtain ⟨hexists, hlaminar⟩ := compute_is_laminar {} hcs htree horder hstop
  obtain ⟨root, hroot⟩ := hexists .default .default rfl rfl
  refine ⟨horder, hstop, root, hroot, hlaminar root hroot, ?_⟩
  rw [compute_of_script_costs hcs htree (by decide) rfl] at hroot
  obtain rfl := Except.ok.inj hroot
  decide +kernel

end ComplexityHints.Score
