import ComplexityHints.Proofs.Failure
import ComplexityHints.Report.Table
import Mathlib.Order.Bounds.Basic
import Mathlib.Tactic

namespace ComplexityHints

namespace Binary

theorem onGrid_ofInt (n : Int) : onGrid 0 (n < 0) n.natAbs 0 = n := by
  have hmagnitude : n.natAbs * Nat.pow 2 ((0 : Int) - 0).toNat = n.natAbs := by simp
  rw [onGrid, hmagnitude]
  simp only [decide_eq_true_eq]
  split_ifs <;> omega

theorem compare?_ofInt (a b : Int) : compare? (ofInt a) (ofInt b) = some (compare a b) := by
  simp only [compare?, ofInt, min_self, onGrid_ofInt]

theorem lt_ofInt (a b : Int) : (ofInt a).lt (ofInt b) = decide (a < b) := by
  rw [lt, compare?_ofInt]
  simp [compare_lt_iff_lt]

theorem ge_ofInt (a b : Int) : (ofInt a).ge (ofInt b) = decide (b ≤ a) := by
  rw [ge, compare?_ofInt]
  rcases lt_trichotomy a b with hlt | heq | hgt
  · rw [compare_lt_iff_lt.2 hlt, decide_eq_false (by omega : ¬b ≤ a)]
    rfl
  · rw [compare_eq_iff_eq.2 heq, decide_eq_true heq.ge]
    rfl
  · rw [compare_gt_iff_gt.2 hgt, decide_eq_true hgt.le]
    rfl

end Binary

namespace Value

@[simp] theorem binary?_ofAmount (a : Amount) : (ofAmount a).binary? = some (.ofInt a.toInt) := by
  cases a <;> rfl

theorem less_ofAmount (a b : Amount) :
    (ofAmount a).less (ofAmount b) = .ok (a.toInt < b.toInt) := by
  rw [← Binary.lt_ofInt]
  cases a <;> cases b <;> simp [ofAmount, less, binary?, Amount.toInt]

theorem reachedBy_ofAmount (a : Amount) (n : Int) :
    (ofAmount a).reachedBy n = .ok (a.toInt ≤ n) := by
  rw [reachedBy, binary?_ofAmount, ← Binary.ge_ofInt]

end Value

namespace Settings

variable {s : Settings} {b : Level → Amount}

theorem isChain_of_run {last : Value} {vs ahead : List Value}
    (h : run false last vs = .ok (ahead, [])) :
    (last :: vs).IsChain fun v w => w.less v = .ok false := by
  induction vs generalizing last ahead with
  | nil => exact .singleton last
  | cons v vs ih =>
    rw [run] at h
    obtain ⟨falls, hfalls, h⟩ := ok_of_bind h
    split_ifs at h with hrises
    · obtain ⟨⟨ahead', rest⟩, hrun, h⟩ := ok_of_bind h
      cases h
      subst hrises
      exact .cons_cons hfalls (ih hrun)
    · cases h

theorem isChain_of_ascending {vs : List Value} (h : ascending vs = .ok true) :
    vs.IsChain fun v w => w.less v = .ok false := by
  cases vs with
  | nil => exact .nil
  | cons v vs =>
    cases vs with
    | nil => exact .singleton v
    | cons w vs =>
      rw [ascending] at h
      obtain ⟨falling, hfalling, h⟩ := ok_of_bind h
      obtain ⟨⟨ahead, rest⟩, hrun, h⟩ := ok_of_bind h
      obtain ⟨_, -, h⟩ := ok_of_bind h
      obtain ⟨hrises, hrest⟩ : falling = false ∧ rest = [] := by simpa [pure, Except.pure] using h
      subst hrises hrest
      exact .cons_cons hfalling (isChain_of_run hrun)

theorem ascending_of_build {given : List (String × Setting)} (h : build given = .ok s) :
    ascending [s.bound .low, s.bound .normal, s.bound .high, s.bound .extreme] = .ok true := by
  rw [build] at h
  split at h
  · cases h
  · obtain ⟨exclude, -, h⟩ := ok_of_bind h
    obtain ⟨minimumVisible, -, h⟩ := ok_of_bind h
    obtain ⟨inOrder, hinOrder, h⟩ := ok_of_bind h
    split_ifs at h with hascending
    cases h
    rw [hinOrder, hascending]

theorem bounds_of_ascending
    (h : ascending [s.bound .low, s.bound .normal, s.bound .high, s.bound .extreme] = .ok true)
    (hb : ∀ l, s.bound l = .ofAmount (b l)) :
    (b .low).toInt ≤ (b .normal).toInt ∧ (b .normal).toInt ≤ (b .high).toInt ∧
      (b .high).toInt ≤ (b .extreme).toInt := by
  have hchain := isChain_of_ascending h
  simp only [hb, Value.less_ofAmount, List.isChain_cons_cons, Except.ok.injEq,
    decide_eq_false_iff_not, Int.not_lt, List.isChain_singleton, and_true] at hchain
  exact hchain

end Settings

def Level.rank : Level → Nat
  | .low => 0
  | .normal => 1
  | .high => 2
  | .extreme => 3

theorem Level.rank_injective : Function.Injective Level.rank := by
  intro l l' h
  cases l <;> cases l' <;> simp_all [Level.rank]

instance : LinearOrder Level := LinearOrder.lift' Level.rank Level.rank_injective

theorem Level.styled_injective (n : Int) : Function.Injective fun l : Level => l.styled n := by
  intro l l' h
  have hstart (l : Level) : (l.styled n).toList.take 5 = ("[" ++ l.style ++ "]").toList.take 5 := by
    cases l <;> simp [styled, style]
  have heq : ("[" ++ l.style ++ "]").toList.take 5 = ("[" ++ l'.style ++ "]").toList.take 5 := by
    rw [← hstart, ← hstart]
    exact congrArg (fun s : String => s.toList.take 5) h
  revert heq
  cases l <;> cases l' <;> decide

theorem Level.low_le (l : Level) : .low ≤ l := by
  cases l <;> decide

theorem Level.le_extreme (l : Level) : l ≤ .extreme := by
  cases l <;> decide

namespace Settings

variable {s : Settings} {b : Level → Amount} {n n' : Int} {l l' : Level}

/-- The level of a complexity under whole bounds: the highest one whose bound is reached, or the low one.
Its bound and those below it are reached, and those above it are not. The description of the complexity is
that of the level, and so is the style, which tells the level. -/
structure Grades (s : Settings) (b : Level → Amount) (n : Int) (l : Level) : Prop where
  highest : IsGreatest {l | l = .low ∨ (b l).toInt ≤ n} l
  reached : ∀ l', l' ≠ .low → ((b l').toInt ≤ n ↔ l' ≤ l)
  description : s.levelDescription n = .ok (s.description l)
  style : ∀ l', styledComplexity s n = .ok (l'.styled n) ↔ l' = l

/-- The bounds are asked from the top, so the level is the highest one whose bound is reached. -/
theorem exists_isGreatest_level (hb : ∀ l, s.bound l = .ofAmount (b l)) (n : Int) :
    ∃ l, s.level n = .ok l ∧ IsGreatest {l | l = .low ∨ (b l).toInt ≤ n} l := by
  have hlevel : s.level n = .ok (if (b .extreme).toInt ≤ n then .extreme
      else if (b .high).toInt ≤ n then .high
      else if (b .normal).toInt ≤ n then .normal else .low) := by
    simp only [level, hb, Value.reachedBy_ofAmount, bind, Except.bind, pure, Except.pure,
      decide_eq_true_eq]
    split_ifs <;> rfl
  refine ⟨_, hlevel, ?_, ?_⟩
  · split_ifs with hextreme hhigh hnormal
    · exact .inr hextreme
    · exact .inr hhigh
    · exact .inr hnormal
    · exact .inl rfl
  · intro l hl
    split_ifs with hextreme hhigh hnormal
    · exact l.le_extreme
    · cases l with
      | extreme => exact absurd (hl.resolve_left (by decide)) hextreme
      | _ => decide
    · cases l with
      | extreme => exact absurd (hl.resolve_left (by decide)) hextreme
      | high => exact absurd (hl.resolve_left (by decide)) hhigh
      | _ => decide
    · cases l with
      | extreme => exact absurd (hl.resolve_left (by decide)) hextreme
      | high => exact absurd (hl.resolve_left (by decide)) hhigh
      | normal => exact absurd (hl.resolve_left (by decide)) hnormal
      | low => exact le_rfl

theorem monotone_bounds (h : (b .low).toInt ≤ (b .normal).toInt ∧
    (b .normal).toInt ≤ (b .high).toInt ∧ (b .high).toInt ≤ (b .extreme).toInt) :
    Monotone fun l => (b l).toInt := by
  intro l l' hle
  have hrank : l.rank ≤ l'.rank := hle
  cases l <;> cases l' <;> simp only [Level.rank] at hrank ⊢ <;> omega

theorem exists_grades (hb : ∀ l, s.bound l = .ofAmount (b l))
    (hmono : Monotone fun l => (b l).toInt) (n : Int) : ∃ l, s.Grades b n l := by
  obtain ⟨l, hl, hgreatest⟩ := exists_isGreatest_level hb n
  refine ⟨l, hgreatest, ?_, ?_, ?_⟩
  · intro l' hl'
    constructor
    · intro hreached
      exact hgreatest.2 (.inr hreached)
    · intro hle
      rcases hgreatest.1 with hlow | hreached
      · -- nothing but the low level is as low
        subst hlow
        exact absurd (le_antisymm hle l'.low_le) hl'
      · exact (hmono hle).trans hreached
  · rw [levelDescription, hl]
    rfl
  · intro l'
    have hstyle : styledComplexity s n = .ok (l.styled n) := by
      rw [styledComplexity, hl]
      rfl
    rw [hstyle, Except.ok.injEq, eq_comm]
    exact (Level.styled_injective n).eq_iff

theorem Grades.mono (h : s.Grades b n l) (h' : s.Grades b n' l') (hn : n ≤ n') : l ≤ l' := by
  refine h.highest.mono h'.highest ?_
  intro m hm
  exact hm.imp_right fun hreached => hreached.trans hn

end Settings

end ComplexityHints
