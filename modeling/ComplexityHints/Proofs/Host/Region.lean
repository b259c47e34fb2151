import ComplexityHints.Host.Mask
import Mathlib.Data.List.Forall2
import Mathlib.Tactic

namespace ComplexityHints.Host

def SameBreak (c d : CodePoint) : Prop :=
  c = d ∨ c.isTerminator = false ∧ d.isTerminator = false

/-- Texts of one length with the same line terminators at the same offsets. -/
abbrev Aligned : Text → Text → Prop := List.Forall₂ SameBreak

theorem aligned_refl (t : Text) : Aligned t t :=
  List.forall₂_same.2 fun _ _ => .inl rfl

theorem aligned_blank (t : Text) : Aligned (blank t) t := by
  apply List.forall₂_map_left_iff.2
  apply List.forall₂_same.2
  intro c _
  split
  · exact .inl rfl
  · rename_i hc
    exact .inr ⟨by decide, by simpa using hc⟩

@[simp] theorem length_blank (t : Text) : (blank t).length = t.length := by
  simp [blank]

theorem aligned_neutralize (t : Text) : Aligned (neutralize t) t := by
  fun_induction neutralize t with
  | case1 rest ih => exact .cons (.inl rfl) (.cons (.inr ⟨by decide, by decide⟩) ih)
  | case2 c rest _ ih => exact .cons (.inl rfl) ih
  | case3 => exact .nil

theorem head?_neutralize (t : Text) : (neutralize t).head? = t.head? := by
  unfold neutralize
  split <;> rfl

def opener : Text := [.scalar '/', .scalar '*']

def closer : Text := [.scalar '*', .scalar '/']

@[simp] theorem length_opener : opener.length = 2 := rfl

@[simp] theorem length_closer : closer.length = 2 := rfl

theorem not_closer_infix_neutralize (t : Text) : ¬ closer <:+: neutralize t := by
  fun_induction neutralize t with
  | case1 rest ih => simpa [closer, List.infix_cons_iff] using ih
  | case2 c rest hc ih =>
    rw [List.infix_cons_iff]
    intro h
    rcases h with h | h
    · -- a closer that starts here was there before, which is the first case
      obtain ⟨rfl, tail, htail⟩ := List.cons_prefix_cons.1 h
      have hhead := head?_neutralize rest
      rw [← htail] at hhead
      obtain ⟨rest', rfl⟩ := List.head?_eq_some_iff.1 hhead.symm
      exact hc rest' rfl rfl
    · exact ih h
  | case3 => simp [closer]

theorem of_mem_pairs {from_ i : Nat} {t : Text} (h : i ∈ pairs from_ t) :
    ∃ k, i = from_ + k ∧ ∃ a b, t.drop k = a :: b :: t.drop (k + 2) ∧
      a.isTerminator = false ∧ b.isTerminator = false := by
  fun_induction pairs from_ t with
  | case1 from_ a b rest _ ih =>
    obtain ⟨k, rfl, hk⟩ := ih h
    exact ⟨k + 1, by omega, hk⟩
  | case2 from_ a b rest hterm ih =>
    rcases List.mem_cons.1 h with rfl | h
    · exact ⟨0, rfl, a, b, rfl, by simpa using hterm⟩
    · obtain ⟨k, rfl, hk⟩ := ih h
      exact ⟨k + 1, by omega, hk⟩
  | case3 => simp at h

theorem of_mem_candidates {start i : Nat} {t : Text} (h : i ∈ pairs start (t.drop start)) :
    start ≤ i ∧ ∃ x y, t.drop i = x :: y :: t.drop (i + 2) ∧
      x.isTerminator = false ∧ y.isTerminator = false := by
  obtain ⟨k, rfl, x, y, hk, hx, hy⟩ := of_mem_pairs h
  rw [List.drop_drop, List.drop_drop, ← Nat.add_assoc] at hk
  exact ⟨Nat.le_add_right _ _, x, y, hk, hx, hy⟩

theorem split_at_pairs {t : Text} {i j : Nat} {x₁ x₂ y₁ y₂ : CodePoint} (hij : i + 2 ≤ j)
    (hx : t.drop i = x₁ :: x₂ :: t.drop (i + 2)) (hy : t.drop j = y₁ :: y₂ :: t.drop (j + 2)) :
    t = t.take i ++ ([x₁, x₂] ++ ((t.take j).drop (i + 2) ++ ([y₁, y₂] ++ t.drop (j + 2)))) := by
  have hrest : t.drop (i + 2) = (t.take j).drop (i + 2) ++ ([y₁, y₂] ++ t.drop (j + 2)) := by
    have hj : i + 2 + (j - (i + 2)) = j := by omega
    rw [← List.take_append_drop (j - (i + 2)) (t.drop (i + 2)), List.drop_drop, hj, hy,
      List.drop_take]
    rfl
  rw [← hrest]
  exact (List.take_append_drop i t).symm.trans (congrArg (t.take i ++ ·) hx)

theorem exists_terminator_of_nextLine_le {s r : Text} (hr : r ≠ [])
    (h : nextLine (s ++ r) ≤ s.length) : ∃ c ∈ s, c.isTerminator = true := by
  induction s with
  | nil =>
    obtain ⟨c, r, rfl⟩ := List.exists_cons_of_ne_nil hr
    have hpos : 0 < nextLine (c :: r) := by
      unfold nextLine
      split <;> omega
    exact absurd h (Nat.not_le_of_lt hpos)
  | cons c s ih =>
    by_cases hc : c.isTerminator = true
    · exact ⟨c, List.mem_cons_self, hc⟩
    · simp only [List.cons_append, nextLine, hc, Bool.false_eq_true, if_false, List.length_cons,
        Nat.add_le_add_iff_right] at h
      obtain ⟨d, hd, hterm⟩ := ih h
      exact ⟨d, List.mem_cons_of_mem c hd, hterm⟩

/-- One comment between blanks in place of a region. Behind a script it opens behind a line
terminator. -/
def IsComment (afterScript : Bool) (region masked : Text) : Prop :=
  ∃ before x inside y after covered,
    region = before ++ (x ++ (inside ++ (y ++ after))) ∧
    masked = blank before ++ (opener ++ (covered ++ (closer ++ blank after))) ∧
    Aligned opener x ∧ Aligned covered inside ∧ Aligned closer y ∧
    ¬ closer <:+: covered ∧
    (afterScript = true → ∃ c ∈ before, c.isTerminator = true)

theorem maskMarkup_cases (afterScript : Bool) (t : Text) :
    maskMarkup afterScript t = blank t ∨ IsComment afterScript t (maskMarkup afterScript t) := by
  unfold maskMarkup
  generalize hstart : (if afterScript then nextLine t else 0) = start
  dsimp only
  split
  · rename_i first last hfirst hlast
    split_ifs with hroom
    · exact .inl rfl
    · -- the first and the last candidate do not overlap: one is opened, the other closed
      right
      obtain ⟨hle, x₁, x₂, hx, hx₁, hx₂⟩ := of_mem_candidates (List.mem_of_head? hfirst)
      obtain ⟨-, y₁, y₂, hy, hy₁, hy₂⟩ := of_mem_candidates (List.mem_of_getLast? hlast)
      have ht := split_at_pairs (Nat.le_of_not_lt hroom) hx hy
      refine ⟨t.take first, [x₁, x₂], (t.take last).drop (first + 2), [y₁, y₂],
        t.drop (last + 2), ((neutralize t).take last).drop (first + 2), ht, ?_, ?_, ?_, ?_, ?_, ?_⟩
      · simp [opener, closer]
      · exact .cons (.inr ⟨by decide, hx₁⟩) (.cons (.inr ⟨by decide, hx₂⟩) .nil)
      · exact List.forall₂_drop _ (List.forall₂_take _ (aligned_neutralize t))
      · exact .cons (.inr ⟨by decide, hy₁⟩) (.cons (.inr ⟨by decide, hy₂⟩) .nil)
      · intro h
        apply not_closer_infix_neutralize t
        exact h.trans ((List.drop_suffix _ _).isInfix.trans (List.take_prefix _ _).isInfix)
      · intro hafter
        -- behind a script the search starts on the next line
        have hlen : first ≤ t.length := by
          by_contra hlt
          simp [List.drop_eq_nil_of_le (Nat.le_of_not_le hlt)] at hx
        have hline : nextLine t ≤ first := by simpa [hafter] using hstart.trans_le hle
        have hrest : t.drop first ≠ [] := by simp [hx]
        apply exists_terminator_of_nextLine_le hrest
        rwa [List.take_append_drop, List.length_take, Nat.min_eq_left hlen]
  · exact .inl rfl

theorem aligned_maskMarkup (afterScript : Bool) (t : Text) :
    Aligned (maskMarkup afterScript t) t := by
  rcases maskMarkup_cases afterScript t with h | ⟨before, x, inside, y, after, covered, ht, hm, h⟩
  · rw [h]
    exact aligned_blank t
  · obtain ⟨hx, hinside, hy, -, -⟩ := h
    rw [hm, ht]
    exact List.rel_append (aligned_blank before) (List.rel_append hx
      (List.rel_append hinside (List.rel_append hy (aligned_blank after))))

@[simp] theorem length_maskMarkup (afterScript : Bool) (t : Text) :
    (maskMarkup afterScript t).length = t.length :=
  (aligned_maskMarkup afterScript t).length_eq

end ComplexityHints.Host
