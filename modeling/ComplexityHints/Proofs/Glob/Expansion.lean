import ComplexityHints.Glob.Braces
import Mathlib.Data.List.Basic
import Mathlib.Order.WellFounded

namespace ComplexityHints.Glob

variable {s t q : List Char} {g : Group}

theorem expandChars_of_none (h : firstGroup? s = none) : expandChars s = [s] := by
  rw [expandChars]
  split
  · rfl
  · rename_i hg
    rw [h] at hg
    contradiction

theorem expandChars_of_some (h : firstGroup? s = some g) :
    expandChars s =
      g.choices.flatMap fun choice => expandChars (g.before ++ (choice ++ g.after)) := by
  rw [expandChars]
  split
  · rename_i hg
    rw [h] at hg
    contradiction
  · rename_i g' hg
    have hgg : g' = g := Option.some.inj (hg.symm.trans h)
    subst hgg
    rw [List.flatMap_def, List.flatMap_def]
    exact congrArg List.flatten
      (List.attach_map_val (f := fun choice => expandChars (g'.before ++ (choice ++ g'.after))))

theorem expandChars_of_not_mem (h : '{' ∉ s) : expandChars s = [s] := by
  apply expandChars_of_none
  fun_induction firstGroup? s with
  | case1 => rfl
  | case2 c rest ih =>
    simp only [List.mem_cons, not_or] at h
    rw [ih h.2.2]
    rfl
  | case3 c rest _ choices after hg =>
    rw [List.mem_cons, not_or] at h
    rw [if_neg (Ne.symm h.1)] at hg
    contradiction
  | case4 c rest _ _ ih =>
    rw [List.mem_cons, not_or] at h
    rw [ih h.2]
    rfl

/-- `t` is one of the patterns that the expansion of `s` goes on with. -/
def Recurses (t s : List Char) : Prop :=
  ∃ g, firstGroup? s = some g ∧ ∃ choice ∈ g.choices, t = g.before ++ (choice ++ g.after)

theorem Recurses.braces_lt (h : Recurses t s) : braces t < braces s := by
  obtain ⟨g, hg, choice, hchoice, rfl⟩ := h
  exact braces_lt_of_firstGroup? hg hchoice

theorem wellFounded_recurses : WellFounded Recurses :=
  Subrelation.wf Recurses.braces_lt (InvImage.wf braces wellFounded_lt)

theorem consItem_ne_nil (c : Char) (items : List (List Char)) : consItem c items ≠ [] := by
  unfold consItem
  split <;> simp

theorem groupItems_ne_nil {depth : Nat} {after : List Char} {items : List (List Char)}
    (h : groupItems depth s = some (items, after)) : items ≠ [] := by
  fun_induction groupItems depth s generalizing items after <;>
    simp only [Option.map_eq_some_iff, Prod.exists, Prod.mk.injEq, Option.some.injEq,
      reduceCtorEq] at h <;>
    grind [consItem_ne_nil]

theorem numbers_ne_nil (first last : Int) : numbers first last ≠ [] := by
  simp [numbers]

theorem choices_ne_nil_of_groupAt? {after : List Char} {choices : List (List Char)}
    (h : groupAt? s = some (choices, after)) : choices ≠ [] := by
  simp only [groupAt?, Option.bind_eq_bind, Option.bind_eq_some_iff, Option.pure_def, Prod.exists,
    Option.some.injEq, Prod.mk.injEq] at h
  obtain ⟨items, _, hitems, _, hchoices, rfl, rfl⟩ := h
  unfold alternatives? at hchoices
  split at hchoices
  · obtain ⟨⟨first, last⟩, _, rfl⟩ := Option.map_eq_some_iff.1 hchoices
    simpa using numbers_ne_nil first last
  · cases hchoices
    exact groupItems_ne_nil hitems

theorem choices_ne_nil (h : firstGroup? s = some g) : g.choices ≠ [] := by
  fun_induction firstGroup? s generalizing g with
  | case1 => simp at h
  | case2 c rest ih =>
    obtain ⟨g, hg, rfl⟩ := Option.map_eq_some_iff.1 h
    exact (ih hg : g.choices ≠ [])
  | case3 c rest _ choices after hg =>
    cases h
    split at hg
    · exact choices_ne_nil_of_groupAt? hg
    · contradiction
  | case4 c rest _ _ ih =>
    obtain ⟨g, hg, rfl⟩ := Option.map_eq_some_iff.1 h
    exact (ih hg : g.choices ≠ [])

theorem expandChars_ne_nil (s : List Char) : expandChars s ≠ [] := by
  induction s using wellFounded_recurses.induction with
  | _ s ih =>
    cases hg : firstGroup? s with
    | none => simp [expandChars_of_none hg]
    | some g =>
      obtain ⟨choice, hchoice⟩ := List.exists_mem_of_ne_nil _ (choices_ne_nil hg)
      have hrest := ih _ ⟨g, hg, choice, hchoice, rfl⟩
      rw [expandChars_of_some hg]
      intro hnil
      exact hrest (List.flatMap_eq_nil_iff.1 hnil choice hchoice)

/-- What a pattern expands to has no group left. -/
theorem firstGroup?_of_mem_expandChars (h : q ∈ expandChars s) : firstGroup? q = none := by
  induction s using wellFounded_recurses.induction with
  | _ s ih =>
    cases hg : firstGroup? s with
    | none =>
      rw [expandChars_of_none hg, List.mem_singleton] at h
      rw [h, hg]
    | some g =>
      rw [expandChars_of_some hg] at h
      obtain ⟨choice, hchoice, hq⟩ := List.mem_flatMap.1 h
      exact ih _ ⟨g, hg, choice, hchoice, rfl⟩ hq

theorem expand_of_mem_expand {pattern q : String} (h : q ∈ expand pattern) : expand q = [q] := by
  obtain ⟨cs, hcs, rfl⟩ := List.mem_map.1 h
  have hnone := firstGroup?_of_mem_expandChars hcs
  rw [expand, String.toList_ofList, expandChars_of_none hnone]
  rfl

/-- Expansion goes on with patterns that have fewer opening braces, so it ends; it gives at least one
pattern, and expanding what it gives changes nothing. -/
theorem expand_ends_fully_expanded (pattern : String) :
    let s := pattern.toList
    (firstGroup? s = none → expandChars s = [s]) ∧
    (∀ g, firstGroup? s = some g →
      expandChars s =
        (g.choices.map fun choice => g.before ++ (choice ++ g.after)).flatMap expandChars) ∧
    (∀ t, Recurses t s → t.count '{' < s.count '{') ∧ Acc Recurses s ∧
    expand pattern ≠ [] ∧ (∀ q ∈ expand pattern, expand q = [q]) ∧
    (expand pattern).flatMap expand = expand pattern := by
  refine ⟨expandChars_of_none, ?_, ?_, wellFounded_recurses.apply _, ?_, ?_, ?_⟩
  · intro g hg
    rw [expandChars_of_some hg, List.flatMap_map]
  · intro t ht
    exact ht.braces_lt
  · have hne := expandChars_ne_nil pattern.toList
    simpa [expand] using hne
  · intro q hq
    exact expand_of_mem_expand hq
  · have hsame : (expand pattern).flatMap expand = (expand pattern).flatMap fun q => [q] :=
      List.flatMap_congr fun q hq => expand_of_mem_expand hq
    rw [hsame, List.flatMap_singleton']

end ComplexityHints.Glob
