import ComplexityHints.Proofs.Metric.Kept
import Mathlib.Data.List.Forall2

namespace ComplexityHints

def CostTable.AtMost {κ : Type} (costs costs' : CostTable κ) : Prop :=
  ∀ k, (costs k).toInt ≤ (costs' k).toInt

theorem CostTable.AtMost.valid {κ : Type} [Construct κ] {costs costs' : CostTable κ}
    (h : costs.AtMost costs') (hvalid : costs.Valid) : costs'.Valid :=
  fun k => (hvalid k).trans (h k)

namespace Score

open Syntax MetricUnit

section Lists

variable {α β γ : Type} {as : List α} {bs : List β} {cs : List γ}

theorem forall₂_of_common {R : α → β → Prop} {S : α → γ → Prop} {T : β → γ → Prop}
    (hbs : List.Forall₂ R as bs) (hcs : List.Forall₂ S as cs)
    (h : ∀ a b c, R a b → S a c → T b c) : List.Forall₂ T bs cs := by
  induction hbs generalizing cs with
  | nil =>
    rw [List.forall₂_nil_left_iff.1 hcs]
    exact .nil
  | cons hab _ ih =>
    obtain ⟨c, rest, hac, hrest, rfl⟩ := List.forall₂_cons_left_iff.1 hcs
    exact .cons (h _ _ _ hab hac) (ih hrest)

/-- Where the partner of every chosen entry is chosen too, the chosen entries are matched with some of
the chosen partners, in order. -/
theorem sublistForall₂_filter {R : α → β → Prop} {p : α → Bool} {q : β → Bool}
    (h : List.Forall₂ R as bs) (hpq : List.Forall₂ (fun a b => p a = true → q b = true) as bs) :
    List.SublistForall₂ R (as.filter p) (bs.filter q) := by
  induction h with
  | nil => exact .nil
  | @cons a b as bs hab _ ih =>
    obtain ⟨hchosen, hrest⟩ := List.forall₂_cons.1 hpq
    have ih := ih hrest
    by_cases hp : p a = true
    · rw [List.filter_cons_of_pos hp, List.filter_cons_of_pos (hchosen hp)]
      exact .cons hab ih
    · rw [List.filter_cons_of_neg hp]
      by_cases hq : q b = true
      · rw [List.filter_cons_of_pos hq]
        exact .cons_right ih
      · rw [List.filter_cons_of_neg hq]
        exact ih

end Lists

section Totals

variable {κ : Type} {costs costs' : CostTable κ}

theorem nodeCost_le (h : costs.AtMost costs') (construct? : Node → Option κ) (n : Node) :
    nodeCost construct? costs n ≤ nodeCost construct? costs' n := by
  unfold nodeCost
  cases construct? n with
  | none => exact le_rfl
  | some k => exact h k

theorem totalCost_le (h : costs.AtMost costs') (construct? : Node → Option κ) (n : Node) :
    totalCost construct? costs n ≤ totalCost construct? costs' n := by
  apply List.sum_le_sum
  intro m _
  exact nodeCost_le h construct? m

end Totals

/-- Two units with the same span and label, the second of which collects at least as much. -/
structure Raised (u u' : MetricUnit) : Prop where
  start : u.start = u'.start
  stop : u.stop = u'.stop
  label : u.label = u'.label
  collected : u.collected ≤ u'.collected

theorem Raised.kept {u u' : MetricUnit} {s s' : Settings} (h : Raised u u')
    (hminimum : s'.minimumVisible.toInt ≤ s.minimumVisible.toInt) (hvisible : u'.visible = true)
    (hkept : u.kept s = true) : u'.kept s' = true := by
  have hcollected := h.collected
  simp only [MetricUnit.kept, Bool.and_eq_true, decide_eq_true_eq] at hkept ⊢
  exact ⟨hvisible, by omega⟩

/-- What becomes of a metric tree when costs are raised: its visible units stay one by one, and where
the threshold is not raised those that were kept stay kept, in the same order. -/
structure OnlyRaised (s s' : Settings) (root root' : MetricUnit) : Prop where
  visible : List.Forall₂ Raised (root.preorder.filter (·.visible))
    (root'.preorder.filter (·.visible))
  stays : s'.minimumVisible.toInt ≤ s.minimumVisible.toInt →
    List.Forall₂ (fun u u' => u.kept s = true → u'.kept s' = true)
      (root.preorder.filter (·.visible)) (root'.preorder.filter (·.visible))
  kept : s'.minimumVisible.toInt ≤ s.minimumVisible.toInt →
    List.SublistForall₂ Raised (root.keptUnits s) (root'.keptUnits s')

theorem keptUnits_eq_filter_visible (s : Settings) (root : MetricUnit) :
    root.keptUnits s = (root.preorder.filter (·.visible)).filter (kept s) := by
  rw [List.filter_filter]
  apply List.filter_congr
  intro u _
  cases hv : u.visible <;> simp [MetricUnit.kept, hv]

section Trees

variable {κ : Type} {rules : Rules κ} {construct? : Node → Option κ} {isDeclaration : Node → Bool}
  {costs costs' : CostTable κ} {toChar : Int → Int} {parent : Option Node} {n : Node}
  {u u' : MetricUnit}

theorem label_of_unit? (h : unit? rules costs toChar parent n = some u.bare) :
    (rules parent n).map Mark.title = some u.label := by
  have hlabel : u.bare.label = u.label := label_withChildren [] u
  unfold unit? at h
  split at h
  · cases h
  · rename_i mark hmark
    split_ifs at h
    rw [hmark, ← hlabel, ← Option.some.inj h]
    rfl

theorem raised_of_collectsVisit (hle : costs.AtMost costs') {v : Visit}
    (h : CollectsVisit rules construct? costs toChar v u)
    (h' : CollectsVisit rules construct? costs' toChar v u') : Raised u u' := by
  have hspan := span_of_unit? h.1
  have hspan' := span_of_unit? h'.1
  have htitle := (label_of_unit? h.1).symm.trans (label_of_unit? h'.1)
  refine ⟨hspan.1.trans hspan'.1.symm, hspan.2.trans hspan'.2.symm, Option.some.inj htitle, ?_⟩
  rw [h.2, h'.2]
  exact totalCost_le hle construct? v.node

/-- Trees of one syntax tree under two cost tables, the second nowhere lower. -/
theorem onlyRaised_of_collectsCosts [Construct κ] [DecidableEq κ] (s s' : Settings)
    (hle : costs.AtMost costs') {text : List Char} {tree : Node} {root root' : MetricUnit}
    (h : CollectsCosts rules construct? isDeclaration costs text tree root)
    (h' : CollectsCosts rules construct? isDeclaration costs' text tree root') :
    OnlyRaised s s' root root' := by
  -- the declarations of the syntax tree match the units of both trees
  have hvisible := forall₂_of_common h.declarations h'.declarations
    fun _ _ _ => raised_of_collectsVisit hle
  have hstays (hminimum : s'.minimumVisible.toInt ≤ s.minimumVisible.toInt) :
      List.Forall₂ (fun u u' => u.kept s = true → u'.kept s' = true)
        (root.preorder.filter (·.visible)) (root'.preorder.filter (·.visible)) := by
    have hright : ∀ u' ∈ root'.preorder.filter (·.visible), u'.visible = true :=
      fun u' hu' => (List.mem_filter.1 hu').2
    refine List.forall₂_iff_get.2 ⟨hvisible.length_eq, ?_⟩
    intro i hi hi'
    exact (hvisible.get hi hi').kept hminimum (hright _ (List.get_mem _ _))
  refine ⟨hvisible, hstays, ?_⟩
  intro hminimum
  rw [keptUnits_eq_filter_visible, keptUnits_eq_filter_visible]
  exact sublistForall₂_filter hvisible (hstays hminimum)

end Trees

/-- Under costs that are nowhere lower the engines give a metric tree with the same visible units, each
of which collects at least as much, and keep every unit that they kept. -/
theorem raised_costs_keep_units {engine : Engine} {uri : String} {t : Text} {source : TreeSource}
    {cs : List Char} {tree : Node} (s s' : Settings)
    (hcs : Utf8.scalars (engine.parsedText t) = .ok cs)
    (htree : engine.tree uri source cs = .ok tree) :
    (∀ costs costs', engine ≠ .lua → s.script = .costs costs → s'.script = .costs costs' →
      costs.Valid → costs.AtMost costs' →
        ∃ root root', engine.compute uri t s source = .ok root ∧
          engine.compute uri t s' source = .ok root' ∧ OnlyRaised s s' root root') ∧
    (∀ costs costs', engine = .lua → s.lua = .costs costs → s'.lua = .costs costs' →
      costs.Valid → costs.AtMost costs' →
        ∃ root root', engine.compute uri t s source = .ok root ∧
          engine.compute uri t s' source = .ok root' ∧ OnlyRaised s s' root root') := by
  constructor
  · intro costs costs' hengine hcosts hcosts' hvalid hle
    have hcollects (c : CostTable ScriptConstruct) (hc : c.Valid) :=
      collectsCosts_file Script.mem_all (by decide) hc (Script.construct?_eq (Utf8.encode cs))
        (Script.isDeclaration_eq (Utf8.encode cs)) cs tree
    exact ⟨_, _, compute_of_script_costs hcs htree hengine hcosts,
      compute_of_script_costs hcs htree hengine hcosts',
      onlyRaised_of_collectsCosts s s' hle (hcollects costs hvalid)
        (hcollects costs' (hle.valid hvalid))⟩
  · intro costs costs' hengine hcosts hcosts' hvalid hle
    subst hengine
    have hcollects (c : CostTable LuaConstruct) (hc : c.Valid) :=
      collectsCosts_file Lua.mem_all (by decide) hc (Lua.construct?_eq (Utf8.encode cs))
        (Lua.isDeclaration_eq (Utf8.encode cs)) cs tree
    exact ⟨_, _, compute_of_lua_costs hcs htree hcosts, compute_of_lua_costs hcs htree hcosts',
      onlyRaised_of_collectsCosts s s' hle (hcollects costs hvalid)
        (hcollects costs' (hle.valid hvalid))⟩

/-- A branch that cost nothing costs one: it gets a unit of its own, and the function around it, below
the threshold of two before, is kept. -/
theorem raised_costs_keep_units_of_free_branch :
    let text := "function f()\x7bif(x);\x7d"
    let tree := Node.mk "program" 0 21 none true [.mk "function_declaration" 0 21 none true
      [.mk "identifier" 9 10 (some "name") true [], .mk "if_statement" 13 19 none true []]]
    let free : CostTable ScriptConstruct := fun k =>
      if k = .ifStatement then .number 0 else CostTable.default k
    let s : Settings := { script := .costs free, minimumVisible := .number 2 }
    let s' : Settings := { minimumVisible := .number 2 }
    ∃ root root', (Engine.script "typescript").compute "" (Text.ofString text) s
        (.given (some tree)) = .ok root ∧
      (Engine.script "typescript").compute "" (Text.ofString text) s' (.given (some tree)) =
        .ok root' ∧
      OnlyRaised s s' root root' ∧ root.preorder.length = 2 ∧ root'.preorder.length = 3 ∧
      (root.keptUnits s).map MetricUnit.label = [] ∧
      (root'.keptUnits s').map MetricUnit.label = ["function f"] := by
  intro text tree free s s'
  have hcs : Utf8.scalars ((Engine.script "typescript").parsedText (Text.ofString text)) =
      .ok text.toList := by simp [Engine.parsedText, Utf8.scalars, Text.ofString]
  have htree : (Engine.script "typescript").tree "" (.given (some tree)) text.toList = .ok tree := rfl
  have hvalid : free.Valid := fun k => by cases k <;> decide
  have hle : free.AtMost .default := fun k => by cases k <;> decide
  obtain ⟨root, root', hroot, hroot', hraised⟩ :=
    (raised_costs_keep_units s s' hcs htree).1 free .default (by decide) rfl rfl hvalid hle
  refine ⟨root, root', hroot, hroot', hraised, ?_⟩
  rw [compute_of_script_costs hcs htree (by decide) rfl] at hroot hroot'
  obtain rfl := Except.ok.inj hroot
  obtain rfl := Except.ok.inj hroot'
  decide +kernel

end Score

end ComplexityHints
