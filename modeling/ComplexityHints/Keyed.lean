namespace ComplexityHints

abbrev Keyed (α : Type) := List (String × α)

namespace Keyed

variable {α : Type} {key k : String} {v : α} {m entries : Keyed α}

/-- Sets a key that is already there in its place, or adds it at the end. -/
def put (key : String) (v : α) : Keyed α → Keyed α
  | [] => [(key, v)]
  | (k, old) :: rest => if k = key then (k, v) :: rest else (k, old) :: put key v rest

def putAll (m entries : Keyed α) : Keyed α :=
  entries.foldl (fun m (key, v) => put key v m) m

def Distinct (m : Keyed α) : Prop := (m.map (·.1)).Nodup

instance (m : Keyed α) : Decidable m.Distinct := inferInstanceAs (Decidable (m.map (·.1)).Nodup)

theorem lookup_cons_of_ne (h : k ≠ key) (v : α) (m : Keyed α) :
    List.lookup k ((key, v) :: m) = m.lookup k := by
  rw [List.lookup_cons, beq_eq_false_iff_ne.2 h]

theorem lookup_put (key k : String) (v : α) (m : Keyed α) :
    (put key v m).lookup k = if k = key then some v else m.lookup k := by
  induction m with
  | nil =>
    by_cases h : k = key
    · simp [put, h]
    · simp [put, h, lookup_cons_of_ne h]
  | cons e m ih =>
    obtain ⟨k', old⟩ := e
    by_cases hkey : k' = key
    · subst hkey
      by_cases h : k = k'
      · simp [put, h]
      · simp [put, h, lookup_cons_of_ne h]
    · by_cases h : k = k'
      · subst h
        simp [put, hkey]
      · simp [put, hkey, lookup_cons_of_ne h, ih]

theorem keys_put (key : String) (v : α) (m : Keyed α) :
    (put key v m).map (·.1) = if key ∈ m.map (·.1) then m.map (·.1) else m.map (·.1) ++ [key] := by
  induction m with
  | nil => simp [put]
  | cons e m ih =>
    obtain ⟨k, old⟩ := e
    by_cases hk : k = key
    · simp [put, hk]
    · rw [put, if_neg hk]
      simp only [List.map_cons, ih]
      by_cases hmem : key ∈ m.map (·.1)
      · rw [if_pos hmem, if_pos (List.mem_cons_of_mem k hmem)]
      · rw [if_neg hmem, if_neg (List.not_mem_cons_of_ne_of_not_mem (Ne.symm hk) hmem),
          List.cons_append]

theorem mem_of_lookup (h : m.lookup key = some v) : (key, v) ∈ m := by
  obtain ⟨before, after, rfl, -⟩ := List.lookup_eq_some_iff.1 h
  simp

theorem lookup_eq_none (h : key ∉ m.map (·.1)) : m.lookup key = none := by
  rw [List.lookup_eq_none_iff]
  intro e he
  exact bne_iff_ne.2 fun heq => h (heq ▸ List.mem_map_of_mem he)

theorem not_mem_of_lookup (h : m.lookup key = none) : key ∉ m.map (·.1) := by
  intro hmem
  obtain ⟨e, he, rfl⟩ := List.mem_map.1 hmem
  exact bne_iff_ne.1 (List.lookup_eq_none_iff.1 h e he) rfl

theorem lookup_map_snd {β : Type} (f : α → β) (m : Keyed α) (k : String) :
    List.lookup k (m.map fun (key, v) => (key, f v)) = (m.lookup k).map f := by
  induction m with
  | nil => rfl
  | cons e m ih =>
    obtain ⟨key, v⟩ := e
    by_cases h : k = key
    · simp [h]
    · rw [List.map_cons, lookup_cons_of_ne h, lookup_cons_of_ne h, ih]

theorem lookup_filter_ne (h : k ≠ key) (m : Keyed α) :
    List.lookup k (m.filter (·.1 ≠ key)) = m.lookup k := by
  induction m with
  | nil => rfl
  | cons e m ih =>
    obtain ⟨k', v⟩ := e
    by_cases hkey : k' = key
    · subst hkey
      rw [List.filter_cons_of_neg (by simp), ih, lookup_cons_of_ne h]
    · rw [List.filter_cons_of_pos (by simpa using hkey)]
      by_cases hk : k = k'
      · simp [hk]
      · rw [lookup_cons_of_ne hk, lookup_cons_of_ne hk, ih]

theorem lookup_filter_self (key : String) (m : Keyed α) :
    List.lookup key (m.filter (·.1 ≠ key)) = none := by
  refine lookup_eq_none ?_
  simp

theorem Distinct.of_cons {e : String × α} (h : Distinct (e :: m)) :
    e.1 ∉ m.map (·.1) ∧ Distinct m :=
  List.nodup_cons.1 h

theorem Distinct.lookup_of_mem (h : Distinct m) (hmem : (key, v) ∈ m) :
    m.lookup key = some v := by
  induction m with
  | nil => simp at hmem
  | cons e m ih =>
    obtain ⟨hnotMem, hm⟩ := h.of_cons
    rcases List.mem_cons.1 hmem with rfl | hmem
    · simp
    · have hne : key ≠ e.1 := fun heq => hnotMem (heq ▸ List.mem_map_of_mem hmem)
      rw [lookup_cons_of_ne hne, ih hm hmem]

/-- Of entries with distinct keys each one counts, and the keys they do not set stay as they were. -/
theorem lookup_putAll (h : Distinct entries) (m : Keyed α) (k : String) :
    (putAll m entries).lookup k = (entries.lookup k).or (m.lookup k) := by
  induction entries generalizing m with
  | nil => rfl
  | cons e entries ih =>
    obtain ⟨key, v⟩ := e
    obtain ⟨hnotMem, hentries⟩ := h.of_cons
    rw [putAll, List.foldl_cons, ← putAll, ih hentries, lookup_put]
    by_cases hk : k = key
    · subst hk
      simp [lookup_eq_none hnotMem]
    · rw [if_neg hk, lookup_cons_of_ne hk]

theorem mem_put {e : String × α} (h : e ∈ put key v m) : e = (key, v) ∨ e ∈ m := by
  induction m with
  | nil => simpa [put] using h
  | cons e' m ih =>
    rw [put] at h
    split at h
    · rename_i heq
      subst heq
      exact (List.mem_cons.1 h).imp_right (List.mem_cons_of_mem _)
    · rcases List.mem_cons.1 h with rfl | h
      · exact .inr List.mem_cons_self
      · exact (ih h).imp_right (List.mem_cons_of_mem _)

theorem Distinct.put (h : Distinct m) (key : String) (v : α) : Distinct (put key v m) := by
  induction m with
  | nil => simp [Keyed.put, Distinct]
  | cons e m ih =>
    obtain ⟨k, old⟩ := e
    obtain ⟨hnotMem, hm⟩ := h.of_cons
    rw [Keyed.put]
    split
    · exact h
    · rename_i hne
      refine List.nodup_cons.2 ⟨?_, ih hm⟩
      intro hmem
      obtain ⟨e, he, heq⟩ := List.mem_map.1 hmem
      rcases mem_put he with rfl | he
      · exact hne heq.symm
      · exact hnotMem (List.mem_map.2 ⟨e, he, heq⟩)

end Keyed

end ComplexityHints
