import ComplexityHints.Proofs.Metric.Tree

namespace ComplexityHints.MetricUnit

theorem at?_append (u : MetricUnit) (p q : List Nat) :
    u.at? (p ++ q) = (u.at? p).bind fun v => v.at? q := by
  induction p generalizing u with
  | nil => rfl
  | cons i p ih =>
    rw [List.cons_append, at?_cons, at?_cons, Option.bind_assoc]
    congr 1
    funext c
    exact ih c

theorem lt_append (p : List Nat) {r : List Nat} (h : r ≠ []) : p < p ++ r := by
  induction p with
  | nil =>
    obtain ⟨i, r, rfl⟩ := List.exists_cons_of_ne_nil h
    exact List.nil_lt_cons i r
  | cons i p ih => exact List.cons_lt_cons_iff.2 (.inr ⟨rfl, ih⟩)

mutual

/-- The addresses of a tree, parents first and siblings in order. -/
def addresses : MetricUnit → List (List Nat)
  | mk _ _ _ _ _ _ children => [] :: addressesFrom 0 children

def addressesFrom (first : Nat) : List MetricUnit → List (List Nat)
  | [] => []
  | u :: us => (addresses u).map (first :: ·) ++ addressesFrom (first + 1) us

end

theorem addresses_eq_cons (u : MetricUnit) : u.addresses = [] :: addressesFrom 0 u.children := by
  cases u
  rw [addresses]
  rfl

theorem mem_addressesFrom {first : Nat} {us : List MetricUnit} {p : List Nat} :
    p ∈ addressesFrom first us ↔
      ∃ i q c, p = (first + i) :: q ∧ us[i]? = some c ∧ q ∈ c.addresses := by
  induction us generalizing first with
  | nil => simp [addressesFrom]
  | cons u us ih =>
    rw [addressesFrom, List.mem_append, List.mem_map, ih]
    constructor
    · rintro (⟨q, hq, rfl⟩ | ⟨i, q, c, rfl, hc, hq⟩)
      · exact ⟨0, q, u, rfl, rfl, hq⟩
      · exact ⟨i + 1, q, c, by rw [Nat.add_right_comm, Nat.add_assoc], hc, hq⟩
    · rintro ⟨_ | i, q, c, rfl, hc, hq⟩
      · cases hc
        exact .inl ⟨q, hq, rfl⟩
      · exact .inr ⟨i, q, c, by rw [Nat.add_right_comm, Nat.add_assoc], hc, hq⟩

theorem mem_addresses {u : MetricUnit} {p : List Nat} :
    p ∈ u.addresses ↔ (u.at? p).isSome = true := by
  induction u using induction generalizing p with
  | step u ih =>
    rw [addresses_eq_cons, List.mem_cons, mem_addressesFrom]
    cases p with
    | nil => simp
    | cons i p =>
      rw [at?_cons]
      constructor
      · rintro (h | ⟨j, q, c, heq, hc, hq⟩)
        · cases h
        · rw [Nat.zero_add] at heq
          cases heq
          rw [hc]
          exact (ih c (List.mem_of_getElem? hc)).1 hq
      · intro h
        obtain ⟨c, hc⟩ := Option.isSome_iff_exists.1 (Option.isSome_of_isSome_bind h)
        rw [hc] at h
        exact .inr ⟨i, p, c, by rw [Nat.zero_add], hc, (ih c (List.mem_of_getElem? hc)).2 h⟩

theorem pairwise_addressesFrom {first : Nat} {us : List MetricUnit}
    (h : ∀ u ∈ us, u.addresses.Pairwise (· < ·)) : (addressesFrom first us).Pairwise (· < ·) := by
  induction us generalizing first with
  | nil => exact .nil
  | cons u us ih =>
    obtain ⟨hu, hus⟩ := List.forall_mem_cons.1 h
    rw [addressesFrom]
    refine List.pairwise_append.2 ⟨?_, ih hus, ?_⟩
    · exact List.pairwise_map.2 (hu.imp fun hlt => List.cons_lt_cons_iff.2 (.inr ⟨rfl, hlt⟩))
    · intro p hp q hq
      obtain ⟨p, -, rfl⟩ := List.mem_map.1 hp
      obtain ⟨i, q, c, rfl, -⟩ := mem_addressesFrom.1 hq
      exact List.cons_lt_cons_iff.2 (.inl (by omega))

theorem pairwise_addresses (u : MetricUnit) : u.addresses.Pairwise (· < ·) := by
  induction u using induction with
  | step u ih =>
    rw [addresses_eq_cons]
    refine .cons ?_ (pairwise_addressesFrom ih)
    intro p hp
    obtain ⟨i, q, c, rfl, -⟩ := mem_addressesFrom.1 hp
    exact List.nil_lt_cons _ _

theorem map_addressesFrom {first : Nat} {us : List MetricUnit} {unitAt : List Nat → Option MetricUnit}
    (hat : ∀ i c, us[i]? = some c → ∀ p, unitAt ((first + i) :: p) = c.at? p)
    (h : ∀ u ∈ us, u.addresses.map u.at? = u.preorder.map some) :
    (addressesFrom first us).map unitAt = (us.flatMap preorder).map some := by
  induction us generalizing first with
  | nil => rfl
  | cons u us ih =>
    obtain ⟨hu, hus⟩ := List.forall_mem_cons.1 h
    have hfirst : ((unitAt ∘ (first :: ·)) : List Nat → Option MetricUnit) = u.at? :=
      funext (hat 0 u rfl)
    rw [addressesFrom, List.map_append, List.map_map, hfirst, hu, List.flatMap_cons, List.map_append]
    congr 1
    refine ih ?_ hus
    intro i c hc p
    rw [← hat (i + 1) c hc p, Nat.add_right_comm, Nat.add_assoc]

theorem map_addresses (u : MetricUnit) : u.addresses.map u.at? = u.preorder.map some := by
  induction u using induction with
  | step u ih =>
    rw [addresses_eq_cons, preorder_eq_cons, List.map_cons, List.map_cons]
    congr 1
    refine map_addressesFrom ?_ ih
    intro i c hc p
    rw [Nat.zero_add, at?_cons, hc]
    rfl

theorem mem_preorder_of_at? {u v : MetricUnit} {p : List Nat} (h : u.at? p = some v) :
    v ∈ u.preorder := by
  have hp : p ∈ u.addresses := mem_addresses.2 (by rw [h]; rfl)
  have hmem : some v ∈ u.addresses.map u.at? := List.mem_map.2 ⟨p, hp, h⟩
  rw [map_addresses] at hmem
  simpa using hmem

end ComplexityHints.MetricUnit
