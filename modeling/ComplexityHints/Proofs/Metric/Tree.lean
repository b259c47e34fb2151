import ComplexityHints.Metric.Unit
import Mathlib.Tactic

namespace ComplexityHints.MetricUnit

def bare (u : MetricUnit) : MetricUnit := u.withChildren []

@[simp] theorem children_withChildren (cs : List MetricUnit) (u : MetricUnit) :
    (u.withChildren cs).children = cs := by cases u; rfl

@[simp] theorem start_withChildren (cs : List MetricUnit) (u : MetricUnit) :
    (u.withChildren cs).start = u.start := by cases u; rfl

@[simp] theorem stop_withChildren (cs : List MetricUnit) (u : MetricUnit) :
    (u.withChildren cs).stop = u.stop := by cases u; rfl

@[simp] theorem visible_withChildren (cs : List MetricUnit) (u : MetricUnit) :
    (u.withChildren cs).visible = u.visible := by cases u; rfl

@[simp] theorem cost_withChildren (cs : List MetricUnit) (u : MetricUnit) :
    (u.withChildren cs).cost = u.cost := by cases u; rfl

@[simp] theorem label_withChildren (cs : List MetricUnit) (u : MetricUnit) :
    (u.withChildren cs).label = u.label := by cases u; rfl

@[simp] theorem description_withChildren (cs : List MetricUnit) (u : MetricUnit) :
    (u.withChildren cs).description = u.description := by cases u; rfl

@[simp] theorem bare_withChildren (cs : List MetricUnit) (u : MetricUnit) :
    (u.withChildren cs).bare = u.bare := by cases u; rfl

theorem withChildren_withChildren (cs ds : List MetricUnit) (u : MetricUnit) :
    (u.withChildren cs).withChildren ds = u.withChildren ds := by cases u; rfl

theorem withChildren_children (u : MetricUnit) : u.withChildren u.children = u := by cases u; rfl

@[simp] theorem at?_nil (u : MetricUnit) : u.at? [] = some u := rfl

@[simp] theorem at?_cons (u : MetricUnit) (i : Nat) (p : List Nat) :
    u.at? (i :: p) = u.children[i]?.bind fun c => c.at? p := rfl

theorem bare_eq_self {u : MetricUnit} (h : u.children = []) : u.bare = u := by
  cases u
  cases h
  rfl

theorem eq_of_bare_eq {u v : MetricUnit} (hbare : u.bare = v.bare)
    (hchildren : u.children = v.children) : u = v := by
  cases u
  cases v
  cases hbare
  cases hchildren
  rfl

mutual

/-- Induction over metric trees: a fact about the children of a unit gives it for the unit. -/
@[elab_as_elim]
theorem induction {motive : MetricUnit → Prop}
    (step : ∀ u : MetricUnit, (∀ c ∈ u.children, motive c) → motive u) :
    ∀ u : MetricUnit, motive u
  | mk _ _ _ _ _ _ children => step _ (inductionAll step children)

theorem inductionAll {motive : MetricUnit → Prop}
    (step : ∀ u : MetricUnit, (∀ c ∈ u.children, motive c) → motive u) :
    ∀ us : List MetricUnit, ∀ u ∈ us, motive u
  | [] => List.forall_mem_nil motive
  | u :: us => List.forall_mem_cons.2 ⟨induction step u, inductionAll step us⟩

end

theorem preorderAll_eq_flatMap (us : List MetricUnit) : preorderAll us = us.flatMap preorder := by
  induction us with
  | nil => rfl
  | cons u us ih => rw [preorderAll, ih, List.flatMap_cons]

theorem preorder_eq_cons (u : MetricUnit) : u.preorder = u :: u.children.flatMap preorder := by
  cases u
  rw [preorder, preorderAll_eq_flatMap]
  rfl

theorem collectedAll_eq_sum (us : List MetricUnit) : collectedAll us = (us.map collected).sum := by
  induction us with
  | nil => rfl
  | cons u us ih => rw [collectedAll, ih, List.map_cons, List.sum_cons]

theorem collected_eq (u : MetricUnit) :
    u.collected = u.cost.toInt + (u.children.map collected).sum := by
  cases u
  rw [collected, collectedAll_eq_sum]
  rfl

/-- A unit on its own and the units above it, its parent first, each on its own. -/
structure Placement where
  above : List MetricUnit
  unit : MetricUnit

mutual

/-- The placements of a tree below the units `above`, in the order of `preorder`. -/
def placements (above : List MetricUnit) : MetricUnit → List Placement
  | mk start stop label cost visible description children =>
    let unit := mk start stop label cost visible description []
    ⟨above, unit⟩ :: placementsAll (unit :: above) children

def placementsAll (above : List MetricUnit) : List MetricUnit → List Placement
  | [] => []
  | u :: us => placements above u ++ placementsAll above us

end

theorem placementsAll_eq_flatMap (above us : List MetricUnit) :
    placementsAll above us = us.flatMap (placements above) := by
  induction us with
  | nil => rfl
  | cons u us ih => rw [placementsAll, ih, List.flatMap_cons]

theorem placements_eq_cons (above : List MetricUnit) (u : MetricUnit) :
    u.placements above = ⟨above, u.bare⟩ :: u.children.flatMap (placements (u.bare :: above)) := by
  cases u
  rw [placements, placementsAll_eq_flatMap]
  rfl

theorem map_unit_placements (above : List MetricUnit) (u : MetricUnit) :
    (u.placements above).map Placement.unit = u.preorder.map bare := by
  induction u using induction generalizing above with
  | step u ih =>
    rw [placements_eq_cons, preorder_eq_cons, List.map_cons, List.map_cons, List.map_flatMap,
      List.map_flatMap]
    apply congrArg (u.bare :: ·)
    apply List.flatMap_congr
    intro c hc
    exact ih c hc _

theorem length_above_of_mem_placements {above : List MetricUnit} {u : MetricUnit} {p : Placement}
    (h : p ∈ u.placements above) : above.length ≤ p.above.length := by
  induction u using induction generalizing above with
  | step u ih =>
    rw [placements_eq_cons] at h
    rcases List.mem_cons.1 h with rfl | h
    · exact le_rfl
    · obtain ⟨c, hc, hp⟩ := List.mem_flatMap.1 h
      have hlt : (u.bare :: above).length ≤ p.above.length := ih c hc hp
      rw [List.length_cons] at hlt
      omega

theorem children_append_inj {above : List MetricUnit} {root : MetricUnit}
    {cs ds us vs : List MetricUnit}
    (h : cs.flatMap (placements (root :: above)) ++ us.flatMap (placements above) =
      ds.flatMap (placements (root :: above)) ++ vs.flatMap (placements above)) :
    cs.flatMap (placements (root :: above)) = ds.flatMap (placements (root :: above)) ∧
      us.flatMap (placements above) = vs.flatMap (placements above) := by
  let deeper : Placement → Bool := fun p => above.length < p.above.length
  have hinner (cs : List MetricUnit) :
      ∀ p ∈ cs.flatMap (placements (root :: above)), deeper p = true := by
    intro p hp
    obtain ⟨c, -, hp⟩ := List.mem_flatMap.1 hp
    exact decide_eq_true (length_above_of_mem_placements hp)
  have houter (us : List MetricUnit) : (us.flatMap (placements above)).takeWhile deeper = [] := by
    cases us with
    | nil => rfl
    | cons u us => simp [placements_eq_cons, deeper]
  have htake := congrArg (List.takeWhile deeper) h
  rw [List.takeWhile_append_of_pos (hinner cs), List.takeWhile_append_of_pos (hinner ds), houter,
    houter, List.append_nil, List.append_nil] at htake
  exact ⟨htake, List.append_cancel_left (htake ▸ h)⟩

theorem forest_eq_of_placements_eq {above : List MetricUnit} {cs ds : List MetricUnit}
    (htrees : ∀ c ∈ cs, ∀ d : MetricUnit, c.placements above = d.placements above → c = d)
    (h : cs.flatMap (placements above) = ds.flatMap (placements above)) : cs = ds := by
  induction cs generalizing ds with
  | nil =>
    cases ds with
    | nil => rfl
    | cons d ds => simp [placements_eq_cons] at h
  | cons c cs ih =>
    cases ds with
    | nil => simp [placements_eq_cons] at h
    | cons d ds =>
      rw [List.flatMap_cons, List.flatMap_cons, placements_eq_cons, placements_eq_cons,
        List.cons_append, List.cons_append] at h
      obtain ⟨hhead, hrest⟩ := List.cons.inj h
      have hbare : c.bare = d.bare := congrArg Placement.unit hhead
      rw [← hbare] at hrest
      obtain ⟨hchildren, hsiblings⟩ := children_append_inj hrest
      have hcd : c = d := by
        apply htrees c List.mem_cons_self
        rw [placements_eq_cons, placements_eq_cons, ← hbare, hchildren]
      rw [hcd, ih (fun x hx => htrees x (List.mem_cons_of_mem c hx)) hsiblings]

/-- Trees with the same placements are the same. -/
theorem placements_injective (above : List MetricUnit) :
    Function.Injective (placements above) := by
  intro u
  induction u using induction generalizing above with
  | step u ih =>
    intro v h
    rw [placements_eq_cons, placements_eq_cons] at h
    obtain ⟨hhead, hchildren⟩ := List.cons.inj h
    have hbare : u.bare = v.bare := congrArg Placement.unit hhead
    rw [← hbare] at hchildren
    apply eq_of_bare_eq hbare
    apply forest_eq_of_placements_eq _ hchildren
    intro c hc d hd
    exact ih c hc _ hd

theorem visible_of_kept {s : Settings} {u : MetricUnit} (h : u.kept s = true) : u.visible = true := by
  rw [kept, Bool.and_eq_true] at h
  exact h.1

end ComplexityHints.MetricUnit
