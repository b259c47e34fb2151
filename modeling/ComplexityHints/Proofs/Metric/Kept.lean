import ComplexityHints.Proofs.Failure
import ComplexityHints.Proofs.Metric.Address
import ComplexityHints.Proofs.Metric.Visits
import ComplexityHints.Proofs.Score.Total
import Mathlib.Algebra.Order.BigOperators.Group.List
import Mathlib.Data.List.Sort

namespace ComplexityHints.MetricUnit

variable {root u v : MetricUnit} {p q : List Nat}

def descendants (u : MetricUnit) : List MetricUnit := u.children.flatMap preorder

theorem collected_eq_sum_preorder (u : MetricUnit) :
    u.collected = (u.preorder.map fun v => v.cost.toInt).sum := by
  induction u using induction with
  | step u ih =>
    rw [collected_eq, preorder_eq_cons, List.map_cons, List.sum_cons, Score.sum_map_flatMap]
    congr 2
    apply List.map_congr_left
    exact ih

theorem collected_eq_add_descendants (u : MetricUnit) :
    u.collected = u.cost.toInt + (u.descendants.map fun v => v.cost.toInt).sum := by
  rw [collected_eq_sum_preorder, preorder_eq_cons, List.map_cons, List.sum_cons]
  rfl

theorem sum_lastFirst (u : MetricUnit) :
    (u.lastFirst.map fun v => v.cost.toInt).sum = u.collected := by
  rw [collected_eq_sum_preorder]
  exact ((lastFirst_perm_preorder u).map _).sum_eq

theorem preorder_sublist (h : v ∈ u.preorder) : v.preorder.Sublist u.preorder := by
  induction u using induction with
  | step u ih =>
    rw [preorder_eq_cons] at h
    rcases List.mem_cons.1 h with rfl | h
    · exact List.Sublist.refl _
    · obtain ⟨c, hc, hv⟩ := List.mem_flatMap.1 h
      have hchild : c.preorder.Sublist (u.children.flatMap preorder) := by
        rw [List.flatMap_def]
        exact List.sublist_flatten_of_mem (List.mem_map_of_mem hc)
      rw [preorder_eq_cons u]
      exact ((ih c hc hv).trans hchild).trans (List.sublist_cons_self _ _)

theorem collected_le (hcosts : ∀ w ∈ u.preorder, 0 ≤ w.cost.toInt) (h : v ∈ u.preorder) :
    v.collected ≤ u.collected := by
  rw [collected_eq_sum_preorder, collected_eq_sum_preorder]
  refine ((preorder_sublist h).map _).sum_le_sum ?_
  simpa using hcosts

def keptAddresses (s : Settings) (root : MetricUnit) : List (List Nat) :=
  root.addresses.filter fun p => (root.at? p).any (kept s)

theorem map_keptAddresses (s : Settings) (root : MetricUnit) :
    (root.keptAddresses s).map root.at? = (root.keptUnits s).map some := by
  have haddresses : root.keptAddresses s = root.addresses.filter ((·.any (kept s)) ∘ root.at?) := rfl
  have hkept : kept s = (·.any (kept s)) ∘ some := rfl
  rw [haddresses, ← List.filter_map, map_addresses, List.filter_map, ← hkept]
  rfl

theorem pairwise_keptAddresses (s : Settings) (root : MetricUnit) :
    (root.keptAddresses s).Pairwise (· < ·) :=
  (pairwise_addresses root).filter _

theorem mem_keptAddresses {s : Settings} :
    p ∈ root.keptAddresses s ↔ ∃ u, root.at? p = some u ∧ u.kept s = true := by
  rw [keptAddresses, List.mem_filter, mem_addresses, Option.any_eq_true]
  constructor
  · exact And.right
  · rintro ⟨u, hu, hkept⟩
    exact ⟨by rw [hu]; rfl, u, hu, hkept⟩

theorem kept_iff {s : Settings} :
    u.kept s = true ↔ u.visible = true ∧
      s.minimumVisible.toInt ≤ u.cost.toInt + (u.descendants.map fun v => v.cost.toInt).sum := by
  rw [kept, Bool.and_eq_true, decide_eq_true_iff, collected_eq_add_descendants]

theorem kept_of_le {s s' : Settings} (h : s.minimumVisible.toInt ≤ s'.minimumVisible.toInt)
    (hkept : u.kept s' = true) : u.kept s = true := by
  rw [kept_iff] at hkept ⊢
  exact ⟨hkept.1, h.trans hkept.2⟩

theorem keptUnits_sublist {s s' : Settings} (h : s.minimumVisible.toInt ≤ s'.minimumVisible.toInt)
    (root : MetricUnit) : (root.keptUnits s').Sublist (root.keptUnits s) :=
  List.monotone_filter_right _ fun _ => kept_of_le h

theorem keptAddresses_sublist {s s' : Settings}
    (h : s.minimumVisible.toInt ≤ s'.minimumVisible.toInt) (root : MetricUnit) :
    (root.keptAddresses s').Sublist (root.keptAddresses s) := by
  apply List.monotone_filter_right
  intro p hp
  obtain ⟨u, hu, hkept⟩ := (Option.any_eq_true ..).1 hp
  exact (Option.any_eq_true ..).2 ⟨u, hu, kept_of_le h hkept⟩

/-- Where no cost is negative a visible unit around a kept one is kept and listed before it. -/
theorem ancestor_before (s : Settings) (hcosts : ∀ u ∈ root.preorder, 0 ≤ u.cost.toInt)
    (hq : q ∈ root.keptAddresses s) (habove : p <+: q) (hne : p ≠ q) (hu : root.at? p = some u)
    (hv : u.visible = true) : [p, q].Sublist (root.keptAddresses s) := by
  obtain ⟨r, rfl⟩ := habove
  obtain ⟨v, hat, hkept⟩ := mem_keptAddresses.1 hq
  have hbelow : u.at? r = some v := by
    rw [at?_append, hu] at hat
    exact hat
  have hle : v.collected ≤ u.collected := by
    refine collected_le ?_ (mem_preorder_of_at? hbelow)
    intro w hw
    exact hcosts w ((preorder_sublist (mem_preorder_of_at? hu)).subset hw)
  have hp : p ∈ root.keptAddresses s := by
    refine mem_keptAddresses.2 ⟨u, hu, ?_⟩
    rw [kept, Bool.and_eq_true, decide_eq_true_iff] at hkept ⊢
    exact ⟨hv, hkept.2.trans hle⟩
  have hr : r ≠ [] := by simpa [eq_comm] using hne
  have hlt : p < p ++ r := lt_append p hr
  refine List.sublist_of_subperm_of_pairwise ?_ (List.pairwise_pair.2 hlt)
    (pairwise_keptAddresses s root)
  apply List.subperm_of_subset
  · simpa using hne
  · simp [hp, hq]

section Engines

open Score Syntax

theorem cost_nonneg_of_isMetricTree {κ : Type} [Construct κ] {rules : Rules κ}
    {isDeclaration : Node → Bool} {costs : CostTable κ} {text : List Char} {tree : Node}
    (h : IsMetricTree rules isDeclaration costs text tree root) (hvalid : costs.Valid)
    (hu : u ∈ root.preorder) : 0 ≤ u.cost.toInt := by
  have hbare : u.bare ∈ root.preorder.map bare := List.mem_map_of_mem hu
  have hcost : u.bare.cost = u.cost := cost_withChildren [] u
  rw [h.listed] at hbare
  rw [← hcost]
  rcases List.mem_cons.1 hbare with hfile | hbare
  · rw [hfile]
    exact le_rfl
  · obtain ⟨visit, -, hunit⟩ := List.mem_filterMap.1 hbare
    obtain ⟨mark, -, heq⟩ := exists_mark_of_unit? hunit
    rw [heq]
    exact hvalid mark.construct

theorem cost_nonneg_of_metricTree {κ : Type} [Construct κ] {rules : Rules κ}
    {isDeclaration : Node → Bool} (hdecl : ∀ p n, isDeclaration n = (rules p n).any (·.declares))
    {table : CostSection κ} (hvalid : ∀ costs, table = .costs costs → costs.Valid)
    {text : List Char} {tree : Node} (h : metricTree rules table text tree = .ok root)
    (hu : u ∈ root.preorder) : 0 ≤ u.cost.toInt := by
  cases table with
  | costs costs =>
    rw [metricTree_costs] at h
    cases h
    exact cost_nonneg_of_isMetricTree (isMetricTree_file hdecl costs text tree) (hvalid costs rfl) hu
  | unchecked value =>
    -- without a cost table there is a tree only if nothing in it is scored
    rw [eq_of_metricTree_unchecked h, preorder_eq_cons] at hu
    obtain rfl : u = file text.length [] := by simpa [file, children] using hu
    exact le_rfl

/-- Under valid cost tables no unit of a tree that an engine builds has a negative cost. -/
theorem cost_nonneg_of_compute {engine : Engine} {uri : String} {t : Text} {s : Settings}
    {source : TreeSource} (h : engine.compute uri t s source = .ok root)
    (hscript : ∀ costs, s.script = .costs costs → costs.Valid)
    (hlua : ∀ costs, s.lua = .costs costs → costs.Valid) (hu : u ∈ root.preorder) :
    0 ≤ u.cost.toInt := by
  obtain ⟨cs, -, h⟩ := ok_of_bind h
  obtain ⟨tree, -, h⟩ := ok_of_bind h
  have h := ok_of_mapError h
  cases engine with
  | script grammar => exact cost_nonneg_of_metricTree (Script.isDeclaration_eq _) hscript h hu
  | host grammar => exact cost_nonneg_of_metricTree (Script.isDeclaration_eq _) hscript h hu
  | lua => exact cost_nonneg_of_metricTree (Lua.isDeclaration_eq _) hlua h hu

end Engines

/-- The kept units are those that a walk with the first child on top meets and keeps, each judged by the
costs that a walk from it with the last child on top adds up. They stand at an increasing list of
addresses, which are those of the visible units that cost, with everything below them, at least the
threshold. A higher threshold keeps a sublist. Where no cost is negative, as in every tree that an
engine builds under valid cost tables, a visible unit around a kept one is kept and comes before it. -/
theorem keptUnits_in_order (s : Settings) (root : MetricUnit) :
    (∃ visited, (∀ walked, Walk id [root] walked ↔ walked = visited) ∧
      root.keptUnits s = visited.filter (kept s)) ∧
    (∀ u : MetricUnit, ∃ visited, (∀ walked, Walk List.reverse [u] walked ↔ walked = visited) ∧
      (visited.map fun v => v.cost.toInt).sum = u.collected) ∧
    (root.keptAddresses s).map root.at? = (root.keptUnits s).map some ∧
    (root.keptAddresses s).Pairwise (· < ·) ∧
    (∀ p, p ∈ root.keptAddresses s ↔ ∃ u, root.at? p = some u ∧ u.visible = true ∧
      s.minimumVisible.toInt ≤ u.cost.toInt + (u.descendants.map fun v => v.cost.toInt).sum) ∧
    (∀ s' : Settings, s.minimumVisible.toInt ≤ s'.minimumVisible.toInt →
      (root.keptAddresses s').Sublist (root.keptAddresses s) ∧
        (root.keptUnits s').Sublist (root.keptUnits s)) ∧
    ((∀ u ∈ root.preorder, 0 ≤ u.cost.toInt) → ∀ p q u, q ∈ root.keptAddresses s → p <+: q →
      p ≠ q → root.at? p = some u → u.visible = true → [p, q].Sublist (root.keptAddresses s)) ∧
    ∀ (engine : Engine) (uri : String) (t : Text) (source : TreeSource),
      engine.compute uri t s source = .ok root →
      (∀ costs, s.script = .costs costs → costs.Valid) →
      (∀ costs, s.lua = .costs costs → costs.Valid) → ∀ u ∈ root.preorder, 0 ≤ u.cost.toInt := by
  refine ⟨⟨root.preorder, fun _ => walk_id_iff, rfl⟩, ?_, map_keptAddresses s root,
    pairwise_keptAddresses s root, ?_, ?_, ?_, ?_⟩
  · intro u
    exact ⟨u.lastFirst, fun _ => walk_reverse_iff, sum_lastFirst u⟩
  · intro p
    simp only [mem_keptAddresses, kept_iff]
  · intro s' h
    exact ⟨keptAddresses_sublist h root, keptUnits_sublist h root⟩
  · intro hcosts p q u hq habove hne hu hv
    exact ancestor_before s hcosts hq habove hne hu hv
  · intro engine uri t source h hscript hlua u hu
    exact cost_nonneg_of_compute h hscript hlua hu

/-- A function inside a branch of a function, under the default threshold. -/
theorem keptUnits_in_order_of_nested :
    let inner := mk 20 30 "function inner" (.number 5) true "for 'function'" []
    let branch := mk 10 40 "if" (.number 1) false "for 'if'" [inner]
    let outer := mk 0 50 "function outer" (.number 1) true "for 'function'" [branch]
    let root := file 50 [outer]
    (∀ u ∈ root.preorder, 0 ≤ u.cost.toInt) ∧ [0, 0, 0] ∈ root.keptAddresses {} ∧
      root.at? [0] = some outer ∧ [[0], [0, 0, 0]].Sublist (root.keptAddresses {}) := by
  intro inner branch outer root
  have hcosts : ∀ u ∈ root.preorder, 0 ≤ u.cost.toInt := by decide +kernel
  have hinner : [0, 0, 0] ∈ root.keptAddresses {} := by decide +kernel
  have houter : root.at? [0] = some outer := rfl
  obtain ⟨-, -, -, -, -, -, hbefore, -⟩ := keptUnits_in_order {} root
  exact ⟨hcosts, hinner, houter,
    hbefore hcosts [0] [0, 0, 0] outer hinner (by decide) (by decide) houter rfl⟩

end ComplexityHints.MetricUnit
