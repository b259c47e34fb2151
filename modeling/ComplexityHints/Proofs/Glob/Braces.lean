import ComplexityHints.Glob.Braces
import Mathlib.Tactic

namespace ComplexityHints.Glob

theorem sublist_of_map_consItem {c : Char} {s after : List Char} {items : List (List Char)}
    {read : Option (List (List Char) × List Char)}
    (hread : ∀ {items after}, read = some (items, after) → (items.flatten ++ after).Sublist s)
    (h : (read.map fun (items, after) => (consItem c items, after)) = some (items, after)) :
    (items.flatten ++ after).Sublist (c :: s) := by
  obtain ⟨⟨items, after⟩, hg, he⟩ := Option.map_eq_some_iff.1 h
  cases he
  rw [flatten_consItem]
  exact (hread hg).cons_cons c

theorem sublist_of_groupItems {depth : Nat} {s after : List Char} {items : List (List Char)}
    (h : groupItems depth s = some (items, after)) : (items.flatten ++ after).Sublist s := by
  fun_induction groupItems depth s generalizing items after with
  | case1 => simp at h
  | case2 depth c rest ih =>
    obtain ⟨⟨items, after⟩, hg, he⟩ := Option.map_eq_some_iff.1 h
    cases he
    rw [flatten_consItem, flatten_consItem]
    exact ((ih hg).cons_cons c).cons_cons _
  | case3 depth rest _ ih => exact sublist_of_map_consItem ih h
  | case4 rest =>
    cases h
    exact List.sublist_cons_self _ _
  | case5 rest depth _ _ ih => exact sublist_of_map_consItem ih h
  | case6 depth c rest _ _ _ _ ih =>
    -- the comma between two items
    obtain ⟨⟨items, after⟩, hg, he⟩ := Option.map_eq_some_iff.1 h
    cases he
    exact (ih hg).cons c
  | case7 depth c rest _ _ _ _ ih => exact sublist_of_map_consItem ih h

def Drawn (s : List Char) (c : Char) : Prop := c ∈ s ∨ c.isDigit = true ∨ c = '-'

theorem Drawn.mono {s t : List Char} {c : Char} (h : Drawn s c) (hst : s ⊆ t) : Drawn t c :=
  h.imp_left fun hc => hst hc

theorem drawn_of_mem_groupAt? {s after : List Char} {choices : List (List Char)}
    (h : groupAt? s = some (choices, after)) {choice : List Char} (hchoice : choice ∈ choices)
    {c : Char} (hc : c ∈ choice ++ after) : Drawn s c := by
  simp only [groupAt?, Option.bind_eq_bind, Option.bind_eq_some_iff, Option.pure_def, Prod.exists,
    Option.some.injEq, Prod.mk.injEq] at h
  obtain ⟨items, _, hg, _, halt, rfl, rfl⟩ := h
  have hsub := (sublist_of_groupItems hg).subset
  rcases List.mem_append.1 hc with hc | hc
  · unfold alternatives? at halt
    split at halt
    · -- a range, whose choices are numerals
      obtain ⟨⟨first, last⟩, _, rfl⟩ := Option.map_eq_some_iff.1 halt
      obtain ⟨n, _, rfl⟩ := List.mem_map.1 hchoice
      exact .inr (isDigit_or_minus_of_mem_decimalChars hc)
    · cases halt
      have hmem : c ∈ items.flatten := List.mem_flatten_of_mem hchoice hc
      exact .inl (hsub (List.mem_append_left _ hmem))
  · exact .inl (hsub (List.mem_append_right _ hc))

theorem drawn_cons {s t : List Char} (h : ∀ c ∈ t, Drawn s c) (d : Char) :
    ∀ c ∈ d :: t, Drawn (d :: s) c := by
  intro c hc
  rcases List.mem_cons.1 hc with rfl | hc
  · exact .inl List.mem_cons_self
  · exact (h c hc).mono (List.subset_cons_self d s)

theorem drawn_of_firstGroup? {s : List Char} {g : Group} (h : firstGroup? s = some g)
    {choice : List Char} (hchoice : choice ∈ g.choices) :
    ∀ c ∈ g.before ++ (choice ++ g.after), Drawn s c := by
  fun_induction firstGroup? s generalizing g with
  | case1 => simp at h
  | case2 d rest ih =>
    obtain ⟨g, hg, rfl⟩ := Option.map_eq_some_iff.1 h
    exact drawn_cons (drawn_cons (ih hg hchoice) d) '\\'
  | case3 d rest _ choices after hg =>
    cases h
    intro c hc
    by_cases hd : d = '{'
    · rw [if_pos hd] at hg
      exact (drawn_of_mem_groupAt? hg hchoice hc).mono (List.subset_cons_self d rest)
    · simp [hd] at hg
  | case4 d rest _ _ ih =>
    obtain ⟨g, hg, rfl⟩ := Option.map_eq_some_iff.1 h
    exact drawn_cons (ih hg hchoice) d

/-- Expanded patterns are drawn from the pattern and from digits and minus signs. -/
theorem drawn_of_mem_expandChars {s q : List Char} (h : q ∈ expandChars s) {c : Char}
    (hc : c ∈ q) : Drawn s c := by
  fun_induction expandChars s with
  | case1 s hnone =>
    rw [List.mem_singleton] at h
    exact .inl (h ▸ hc)
  | case2 s g hg ih =>
    obtain ⟨⟨choice, hchoice⟩, -, hq⟩ := List.mem_flatMap.1 h
    rcases ih choice hchoice hq with hmem | hnumeral
    · exact drawn_of_firstGroup? hg hchoice c hmem
    · exact .inr hnumeral

end ComplexityHints.Glob
