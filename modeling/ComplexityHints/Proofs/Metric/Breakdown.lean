import ComplexityHints.Keyed
import ComplexityHints.Metric.Message
import ComplexityHints.Proofs.Metric.Kept

namespace ComplexityHints.MetricUnit

variable {u v root : MetricUnit} {visited : List MetricUnit} {sums : List (String × Int)} {d : String}

/-- Whether a unit is charged: it costs something and says why. -/
def charged (u : MetricUnit) : Bool := u.cost.toInt ≠ 0 ∧ u.description ≠ ""

def reasons (units : List MetricUnit) : List String := (units.filter charged).map description

/-- What the units cost that cost something and have a description in common. -/
def chargedTo (d : String) (units : List MetricUnit) : Int :=
  ((units.filter fun v => v.cost.toInt ≠ 0 ∧ v.description = d).map fun v => v.cost.toInt).sum

theorem charged_iff : u.charged = true ↔ u.cost.toInt ≠ 0 ∧ u.description ≠ "" := by
  simp [charged]

theorem mem_reasons {units : List MetricUnit} :
    d ∈ reasons units ↔ d ≠ "" ∧ ∃ v ∈ units, v.cost.toInt ≠ 0 ∧ v.description = d := by
  simp only [reasons, List.mem_map, List.mem_filter, charged_iff]
  constructor
  · rintro ⟨v, ⟨hv, hcost, hne⟩, rfl⟩
    exact ⟨hne, v, hv, hcost, rfl⟩
  · rintro ⟨hne, v, hv, hcost, rfl⟩
    exact ⟨v, ⟨hv, hcost, hne⟩, rfl⟩

theorem reasons_append_of_charged (h : v.charged = true) :
    reasons (visited ++ [v]) = reasons visited ++ [v.description] := by
  simp [reasons, h]

theorem reasons_append_of_not_charged (h : v.charged = false) :
    reasons (visited ++ [v]) = reasons visited := by
  simp [reasons, h]

theorem chargedTo_append (d : String) (visited : List MetricUnit) (v : MetricUnit) :
    chargedTo d (visited ++ [v]) =
      chargedTo d visited + if v.description = d then v.cost.toInt else 0 := by
  by_cases hd : v.description = d <;> by_cases hc : v.cost.toInt = 0 <;> simp [chargedTo, hd, hc]

/-- Totals that account for the units visited so far. -/
structure Tallied (visited : List MetricUnit) (sums : List (String × Int)) : Prop where
  keys : ∀ d, d ∈ sums.map (·.1) ↔ d ∈ reasons visited
  ordered : (sums.map (·.1)).Pairwise fun d e =>
    (reasons visited).idxOf d < (reasons visited).idxOf e
  total : ∀ d, d ≠ "" → (sums.lookup d).getD 0 = chargedTo d visited
  all : (sums.map (·.2)).sum = ((visited.filter charged).map fun v => v.cost.toInt).sum

theorem addCost_eq_put (d : String) (c : Int) (sums : List (String × Int)) :
    addCost d c sums = Keyed.put d ((sums.lookup d).getD 0 + c) sums := by
  induction sums with
  | nil => simp [addCost, Keyed.put]
  | cons p sums ih =>
    obtain ⟨k, total⟩ := p
    by_cases hk : k = d
    · simp [addCost, Keyed.put, hk]
    · rw [addCost, Keyed.put, if_neg hk, if_neg hk, ih, Keyed.lookup_cons_of_ne (Ne.symm hk)]

theorem sum_addCost (d : String) (c : Int) (sums : List (String × Int)) :
    ((addCost d c sums).map (·.2)).sum = (sums.map (·.2)).sum + c := by
  induction sums with
  | nil => simp [addCost]
  | cons p sums ih =>
    obtain ⟨k, total⟩ := p
    rw [addCost]
    split_ifs
    · simp only [List.map_cons, List.sum_cons]
      omega
    · simp only [List.map_cons, List.sum_cons, ih]
      omega

theorem Tallied.distinct (h : Tallied visited sums) : Keyed.Distinct sums :=
  h.ordered.imp fun hlt heq => absurd (heq ▸ hlt) (lt_irrefl _)

theorem pairwise_idxOf_append {keys reasons : List String}
    (hkeys : ∀ d, d ∈ keys ↔ d ∈ reasons)
    (hordered : keys.Pairwise fun d e => reasons.idxOf d < reasons.idxOf e) (d : String) :
    (if d ∈ keys then keys else keys ++ [d]).Pairwise fun e e' =>
      (reasons ++ [d]).idxOf e < (reasons ++ [d]).idxOf e' := by
  have hkept : keys.Pairwise fun e e' =>
      (reasons ++ [d]).idxOf e < (reasons ++ [d]).idxOf e' := by
    apply hordered.imp_of_mem
    intro e e' he he' hlt
    rwa [List.idxOf_append_of_mem ((hkeys e).1 he), List.idxOf_append_of_mem ((hkeys e').1 he')]
  split_ifs with hd
  · exact hkept
  · refine List.pairwise_append.2 ⟨hkept, List.pairwise_singleton _ _, ?_⟩
    intro e he e' he'
    have heq : e' = d := List.mem_singleton.1 he'
    have hlt := List.idxOf_lt_length_of_mem ((hkeys e).1 he)
    rw [heq, List.idxOf_append_of_mem ((hkeys e).1 he),
      List.idxOf_append_of_notMem (mt (hkeys d).2 hd)]
    omega

/-- A charged unit adds to the total of its description. -/
theorem Tallied.charge (h : Tallied visited sums) (hv : v.charged = true) :
    Tallied (visited ++ [v]) (addCost v.description v.cost.toInt sums) := by
  have hput := addCost_eq_put v.description v.cost.toInt sums
  have hkeys := Keyed.keys_put v.description
    ((sums.lookup v.description).getD 0 + v.cost.toInt) sums
  have hreasons : reasons (visited ++ [v]) = reasons visited ++ [v.description] :=
    reasons_append_of_charged hv
  rw [← hput] at hkeys
  constructor
  · intro d
    rw [hkeys, hreasons, List.mem_append, List.mem_singleton, ← h.keys d]
    split_ifs with hmem
    · exact ⟨.inl, fun hd => hd.elim id fun heq => heq ▸ hmem⟩
    · rw [List.mem_append, List.mem_singleton]
  · rw [hkeys, hreasons]
    exact pairwise_idxOf_append h.keys h.ordered v.description
  · intro d hd
    rw [hput, Keyed.lookup_put, chargedTo_append, ← h.total d hd]
    by_cases heq : d = v.description
    · subst heq
      simp
    · rw [if_neg heq, if_neg (Ne.symm heq), add_zero]
  · rw [sum_addCost, h.all, List.filter_append, List.map_append, List.sum_append]
    simp [hv]

theorem Tallied.pass (h : Tallied visited sums) (hv : v.charged = false) :
    Tallied (visited ++ [v]) sums := by
  have hfree (d : String) (hd : d ≠ "") : (if v.description = d then v.cost.toInt else 0) = 0 := by
    split_ifs with heq
    · by_contra hcost
      exact Bool.eq_false_iff.1 hv (charged_iff.2 ⟨hcost, heq ▸ hd⟩)
    · rfl
  have hreasons : reasons (visited ++ [v]) = reasons visited := reasons_append_of_not_charged hv
  refine ⟨?_, ?_, ?_, ?_⟩
  · rw [hreasons]
    exact h.keys
  · rw [hreasons]
    exact h.ordered
  · intro d hd
    rw [h.total d hd, chargedTo_append, hfree d hd, add_zero]
  · rw [h.all, List.filter_append, List.map_append, List.sum_append]
    simp [hv]

theorem Tallied.visit (h : Tallied visited sums) (v : MetricUnit) :
    Tallied (visited ++ [v])
      (if v.cost.toInt ≠ 0 ∧ v.description ≠ "" then addCost v.description v.cost.toInt sums
        else sums) := by
  split_ifs with hv
  · exact h.charge (charged_iff.2 hv)
  · exact h.pass (Bool.eq_false_iff.2 (mt charged_iff.1 hv))

theorem tallied_totals (visited : List MetricUnit) : Tallied visited (totals visited) := by
  induction visited using List.reverseRecOn with
  | nil => exact ⟨by simp [totals, reasons], by simp [totals], by simp [totals, chargedTo], rfl⟩
  | append_singleton visited v ih =>
    rw [totals, List.foldl_append]
    exact ih.visit v

theorem Tallied.mem_iff (h : Tallied visited sums) (d : String) (c : Int) :
    (d, c) ∈ sums ↔ d ∈ reasons visited ∧ c = chargedTo d visited := by
  have hkey (c : Int) (hmem : (d, c) ∈ sums) : d ∈ reasons visited :=
    (h.keys d).1 (List.mem_map_of_mem hmem)
  have htotal (c : Int) (hmem : (d, c) ∈ sums) : c = chargedTo d visited := by
    rw [← h.total d (mem_reasons.1 (hkey c hmem)).1, h.distinct.lookup_of_mem hmem,
      Option.getD_some]
  constructor
  · intro hmem
    exact ⟨hkey c hmem, htotal c hmem⟩
  · rintro ⟨hd, rfl⟩
    obtain ⟨⟨_, c⟩, hmem, rfl⟩ := List.mem_map.1 ((h.keys d).2 hd)
    rwa [← htotal c hmem]

section Sorting

theorem descending_trans (a b c : String × Int) (hab : decide (b.2 ≤ a.2) = true)
    (hbc : decide (c.2 ≤ b.2) = true) : decide (c.2 ≤ a.2) = true := by
  rw [decide_eq_true_iff] at hab hbc ⊢
  omega

theorem descending_total (a b : String × Int) : (decide (b.2 ≤ a.2) || decide (a.2 ≤ b.2)) = true := by
  rw [Bool.or_eq_true, decide_eq_true_iff, decide_eq_true_iff]
  omega

theorem filter_sort (sums : List (String × Int)) (c : Int) :
    (sums.mergeSort fun a b => b.2 ≤ a.2).filter (·.2 = c) = sums.filter (·.2 = c) := by
  have hties : (sums.filter (·.2 = c)).Pairwise fun a b => decide (b.2 ≤ a.2) = true := by
    apply List.pairwise_of_forall_mem_list
    intro a ha b hb
    have ha := of_decide_eq_true (List.mem_filter.1 ha).2
    have hb := of_decide_eq_true (List.mem_filter.1 hb).2
    rw [decide_eq_true_iff]
    omega
  have hsublist := (List.sublist_mergeSort descending_trans descending_total hties
    List.filter_sublist).filter (·.2 = c)
  rw [List.filter_filter] at hsublist
  simp only [Bool.and_self] at hsublist
  refine (hsublist.eq_of_length ?_).symm
  exact ((List.mergeSort_perm sums _).symm.filter _).length_eq

/-- Sorted by their totals, entries that are in some order stay in it where the totals agree. -/
theorem pairwise_sort {r : String × Int → String × Int → Prop} (h : sums.Pairwise r) :
    (sums.mergeSort fun a b => b.2 ≤ a.2).Pairwise fun a b => b.2 < a.2 ∨ a.2 = b.2 ∧ r a b := by
  have hsorted := List.pairwise_mergeSort descending_trans descending_total sums
  rw [List.pairwise_iff_forall_sublist] at h hsorted ⊢
  intro a b hab
  have hle : b.2 ≤ a.2 := of_decide_eq_true (hsorted hab)
  rcases hle.lt_or_eq with hlt | heq
  · exact .inl hlt
  · have hfilter := hab.filter (·.2 = a.2)
    rw [filter_sort] at hfilter
    have hpair : [a, b].filter (·.2 = a.2) = [a, b] := by simp [heq]
    rw [hpair] at hfilter
    exact .inr ⟨heq.symm, h (hfilter.trans List.filter_sublist)⟩

end Sorting

theorem lastFirstAll_perm_descendants (u : MetricUnit) :
    (lastFirstAll u.children).Perm u.descendants := by
  rw [lastFirstAll_eq_flatMap, descendants]
  refine (List.Perm.flatMap_right _ u.children.reverse_perm).trans ?_
  exact List.Perm.flatMap_left _ fun c _ => lastFirst_perm_preorder c

theorem walk_children_iff :
    Walk List.reverse u.children.reverse visited ↔ visited = lastFirstAll u.children := by
  rw [lastFirstAll_eq_flatMap]
  constructor
  · exact Walk.eq_flatMap lastFirst_eq_cons
  · rintro rfl
    exact walk_flatMap lastFirst_eq_cons _

theorem reasons_perm {us vs : List MetricUnit} (h : us.Perm vs) : (reasons us).Perm (reasons vs) :=
  (h.filter _).map _

theorem chargedTo_perm {us vs : List MetricUnit} (h : us.Perm vs) (d : String) :
    chargedTo d us = chargedTo d vs :=
  ((h.filter _).map _).sum_eq

theorem sum_charged {us : List MetricUnit} (h : ∀ v ∈ us, v.cost.toInt ≠ 0 → v.description ≠ "") :
    ((us.filter charged).map fun v => v.cost.toInt).sum = (us.map fun v => v.cost.toInt).sum := by
  induction us with
  | nil => rfl
  | cons v us ih =>
    have ih := ih fun w hw => h w (List.mem_cons_of_mem v hw)
    by_cases hv : v.charged = true
    · rw [List.filter_cons_of_pos hv, List.map_cons, List.map_cons, List.sum_cons, List.sum_cons, ih]
    · have hfree : v.cost.toInt = 0 := by
        by_contra hcost
        exact hv (charged_iff.2 ⟨hcost, h v List.mem_cons_self hcost⟩)
      rw [List.filter_cons_of_neg hv, ih, List.map_cons, List.sum_cons, hfree, zero_add]

section Engines

open Score Syntax

theorem description_of_metricTree {κ : Type} [Construct κ] {rules : Rules κ}
    {table : CostSection κ} {text : List Char} {tree : Node}
    (h : metricTree rules table text tree = .ok root) (hv : v ∈ root.descendants) :
    v.description ≠ "" := by
  obtain ⟨us, hroot, hus⟩ := units_of_metricTree h
  subst hroot
  rcases hus with rfl | ⟨costs, rfl⟩
  · exact absurd hv List.not_mem_nil
  · obtain ⟨m, -, p, w, hw, hvw⟩ := exists_node_of_mem_units hv
    obtain ⟨mark, -, hmark⟩ := exists_mark_of_unit? hw
    have hdescription : w.description ≠ "" := by
      rw [hmark]
      simp [Mark.unit, description, toString]
    rcases hvw with rfl | rfl
    · rwa [description_withChildren]
    · exact hdescription

theorem description_of_compute {engine : Engine} {uri : String} {t : Text} {s : Settings}
    {source : TreeSource} (h : engine.compute uri t s source = .ok root)
    (hv : v ∈ root.descendants) : v.description ≠ "" := by
  obtain ⟨cs, -, h⟩ := ok_of_bind h
  obtain ⟨tree, -, h⟩ := ok_of_bind h
  have h := ok_of_mapError h
  cases engine with
  | script grammar => exact description_of_metricTree h hv
  | host grammar => exact description_of_metricTree h hv
  | lua => exact description_of_metricTree h hv

end Engines

theorem mem_descendants_trans (hu : u ∈ root.preorder) (hv : v ∈ u.descendants) :
    v ∈ root.descendants := by
  have hsublist := preorder_sublist hu
  rw [preorder_eq_cons u, preorder_eq_cons root] at hsublist
  exact hsublist.tail.subset hv

/-- The breakdown of a unit has one line for every description that something below the unit costs
under, with all that such units cost. The totals do not increase from line to line, and equal ones stand
as a walk over everything below the unit, with the last child on top, first charges to them. In a tree
that an engine builds the unit's own cost and the lines add up to what the unit collects. -/
theorem explanation_accounts_for_costs (u : MetricUnit) :
    u.explanation = "\n".intercalate (u.breakdown.map fun (description, total) =>
      "+" ++ decimal total ++ " " ++ description) ∧
    (u.breakdown.map Prod.fst).Nodup ∧
    (∀ d total, (d, total) ∈ u.breakdown ↔
      (d ≠ "" ∧ ∃ v ∈ u.descendants, v.cost.toInt ≠ 0 ∧ v.description = d) ∧
        total = chargedTo d u.descendants) ∧
    (∃ walked, (∀ visited, Walk List.reverse u.children.reverse visited ↔ visited = walked) ∧
      u.breakdown.Pairwise fun a b => b.2 < a.2 ∨
        a.2 = b.2 ∧ (reasons walked).idxOf a.1 < (reasons walked).idxOf b.1) ∧
    ∀ (engine : Engine) (uri : String) (t : Text) (s : Settings) (source : TreeSource)
      (root : MetricUnit), engine.compute uri t s source = .ok root → u ∈ root.preorder →
      u.cost.toInt + (u.breakdown.map Prod.snd).sum = u.collected := by
  have htallied : Tallied (lastFirstAll u.children) (totals (lastFirstAll u.children)) :=
    tallied_totals _
  have hperm : u.breakdown.Perm (totals (lastFirstAll u.children)) := List.mergeSort_perm _ _
  have hwalked := lastFirstAll_perm_descendants u
  refine ⟨rfl, ?_, ?_, ⟨_, fun _ => walk_children_iff, ?_⟩, ?_⟩
  · exact (hperm.map _).nodup_iff.2 htallied.distinct
  · intro d total
    rw [hperm.mem_iff, htallied.mem_iff, (reasons_perm hwalked).mem_iff, chargedTo_perm hwalked,
      mem_reasons]
  · have hordered := List.pairwise_map.1 htallied.ordered
    exact pairwise_sort hordered
  · intro engine uri t s source root hroot hu
    have hcharged : ∀ v ∈ u.descendants, v.cost.toInt ≠ 0 → v.description ≠ "" := fun v hv _ =>
      description_of_compute hroot (mem_descendants_trans hu hv)
    rw [(hperm.map _).sum_eq, htallied.all, ((hwalked.filter _).map _).sum_eq, sum_charged hcharged,
      collected_eq_add_descendants]

open Score Syntax in
/-- Two branches, a loop and an operator in a function, under the default costs. -/
theorem explanation_accounts_for_costs_of_ties :
    let text := "function f()\x7bfor(;;)if(a&&b);if(c);\x7d"
    let body := Node.mk "statement_block" 12 36 (some "body") true
      [.mk "for_statement" 13 29 none true [.mk "if_statement" 20 29 none true
        [.mk "binary_expression" 23 27 none true [.mk "&&" 24 26 (some "operator") false []]]],
        .mk "if_statement" 29 35 none true []]
    let tree := Node.mk "program" 0 36 none true [.mk "function_declaration" 0 36 none true
      [.mk "identifier" 9 10 (some "name") true [], body]]
    ∃ root, (Engine.script "javascript").compute "" (Text.ofString text) {} (.given (some tree)) =
        .ok root ∧ root.collected = 5 ∧ ("for 'if'", 2) ∈ root.breakdown ∧
      ∀ u ∈ root.preorder, u.cost.toInt + (u.breakdown.map Prod.snd).sum = u.collected := by
  intro text body tree
  have htext : Utf8.scalars ((Engine.script "javascript").parsedText (Text.ofString text)) =
      .ok text.toList := by simp [Engine.parsedText, Utf8.scalars, Text.ofString]
  let root := file text.toList.length
    (units (Script.rules (Utf8.encode text.toList)) .default (charOffset text.toList) none tree)
  have hroot : (Engine.script "javascript").compute "" (Text.ofString text) {}
      (.given (some tree)) = .ok root := compute_of_script_costs htext rfl (by decide) rfl
  refine ⟨root, hroot, by decide +kernel, ?_, ?_⟩
  · obtain ⟨-, -, hmem, -⟩ := explanation_accounts_for_costs root
    exact (hmem _ _).2 ⟨⟨by decide, by decide +kernel⟩, by decide +kernel⟩
  · intro u hu
    obtain ⟨-, -, -, -, hsum⟩ := explanation_accounts_for_costs u
    exact hsum _ _ _ _ _ _ hroot hu

end ComplexityHints.MetricUnit
