import ComplexityHints.Proofs.Metric.Tree

namespace ComplexityHints.MetricUnit

variable {arrange : List MetricUnit → List MetricUnit} {listing : MetricUnit → List MetricUnit}
  {stack visited : List MetricUnit} {u : MetricUnit}

/-- A walk from a stack, its top first, visits these units. -/
inductive Walk (arrange : List MetricUnit → List MetricUnit) :
    List MetricUnit → List MetricUnit → Prop
  | done : Walk arrange [] []
  | visit {u : MetricUnit} {stack visited : List MetricUnit}
      (h : Walk arrange (arrange u.children ++ stack) visited) :
      Walk arrange (u :: stack) (u :: visited)

theorem Walk.eq_flatMap (hlisting : ∀ u, listing u = u :: (arrange u.children).flatMap listing)
    (h : Walk arrange stack visited) : visited = stack.flatMap listing := by
  induction h with
  | done => rfl
  | visit _ ih => rw [ih, List.flatMap_append, List.flatMap_cons, hlisting, List.cons_append]

/-- With every visit one unit less is left to be listed, so a walk ends. -/
theorem walk_flatMap (hlisting : ∀ u, listing u = u :: (arrange u.children).flatMap listing)
    (stack : List MetricUnit) : Walk arrange stack (stack.flatMap listing) := by
  induction hn : (stack.flatMap listing).length using Nat.strong_induction_on generalizing stack with
  | _ n ih =>
    cases stack with
    | nil => exact .done
    | cons u stack =>
      have hstep : (u :: stack).flatMap listing =
          u :: (arrange u.children ++ stack).flatMap listing := by
        rw [List.flatMap_cons, hlisting, List.cons_append, List.flatMap_append]
      rw [hstep, List.length_cons] at hn
      rw [hstep]
      exact .visit (ih _ (by omega) _ rfl)

theorem walk_iff (hlisting : ∀ u, listing u = u :: (arrange u.children).flatMap listing) :
    Walk arrange [u] visited ↔ visited = listing u := by
  have hone : [u].flatMap listing = listing u := List.flatMap_singleton ..
  rw [← hone]
  constructor
  · exact Walk.eq_flatMap hlisting
  · rintro rfl
    exact walk_flatMap hlisting [u]

theorem walk_id_iff : Walk id [u] visited ↔ visited = u.preorder :=
  walk_iff preorder_eq_cons

theorem lastFirstAll_eq_flatMap (us : List MetricUnit) :
    lastFirstAll us = us.reverse.flatMap lastFirst := by
  induction us with
  | nil => rfl
  | cons u us ih =>
    rw [lastFirstAll, ih, List.reverse_cons, List.flatMap_append, List.flatMap_singleton]

theorem lastFirst_eq_cons (u : MetricUnit) :
    u.lastFirst = u :: u.children.reverse.flatMap lastFirst := by
  cases u
  rw [lastFirst, lastFirstAll_eq_flatMap]
  rfl

theorem walk_reverse_iff : Walk List.reverse [u] visited ↔ visited = u.lastFirst :=
  walk_iff lastFirst_eq_cons

theorem lastFirst_perm_preorder (u : MetricUnit) : u.lastFirst.Perm u.preorder := by
  induction u using induction with
  | step u ih =>
    rw [lastFirst_eq_cons, preorder_eq_cons]
    refine .cons u ?_
    refine (List.Perm.flatMap_right _ u.children.reverse_perm).trans ?_
    exact List.Perm.flatMap_left _ ih

end ComplexityHints.MetricUnit
