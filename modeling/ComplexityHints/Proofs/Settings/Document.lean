import ComplexityHints.Settings.Toml.Document

namespace ComplexityHints.Toml

open Keyed (put)

/-- A value whose tables set each key once. -/
inductive SetOnce : Value → Prop where
  | scalar {v : Value} (h : isContainer v = false) : SetOnce v
  | list {items : List Value} (h : ∀ v ∈ items, SetOnce v) : SetOnce (.list items)
  | table {entries : Entries} (hkeys : entries.Distinct)
      (h : ∀ key v, (key, v) ∈ entries → SetOnce v) : SetOnce (.table entries)

namespace SetOnce

variable {items : List Value} {entries entries' : Entries} {key : String} {v : Value}

theorem distinct (h : SetOnce (.table entries)) : entries.Distinct := by
  cases h with
  | scalar h => simp [isContainer] at h
  | table hkeys h => exact hkeys

theorem of_mem_table (h : SetOnce (.table entries)) (hv : (key, v) ∈ entries) : SetOnce v := by
  cases h with
  | scalar h => simp [isContainer] at h
  | table hkeys h => exact h key v hv

theorem of_lookup (h : SetOnce (.table entries)) (hv : entries.lookup key = some v) : SetOnce v :=
  h.of_mem_table (Keyed.mem_of_lookup hv)

theorem of_mem_list (h : SetOnce (.list items)) (hv : v ∈ items) : SetOnce v := by
  cases h with
  | scalar h => simp [isContainer] at h
  | list h => exact h v hv

theorem empty : SetOnce (.table []) := .table List.nodup_nil (by simp)

theorem append (h : SetOnce (.list items)) (hv : SetOnce v) : SetOnce (.list (items ++ [v])) := by
  refine .list ?_
  intro x hx
  rcases List.mem_append.1 hx with hx | hx
  · exact h.of_mem_list hx
  · obtain rfl := List.mem_singleton.1 hx
    exact hv

theorem dropLast (h : SetOnce (.list items)) : SetOnce (.list items.dropLast) :=
  .list fun _ hv => h.of_mem_list ((List.dropLast_sublist items).subset hv)

theorem put (h : SetOnce (.table entries)) (key : String) (hv : SetOnce v) :
    SetOnce (.table (put key v entries)) := by
  refine .table (h.distinct.put key v) ?_
  intro k x hx
  rcases Keyed.mem_put hx with heq | hx
  · cases heq
    exact hv
  · exact h.of_mem_table hx

theorem addNew (h : SetOnce (.table entries)) (hv : SetOnce v)
    (heq : addNew key v entries = some entries') : SetOnce (.table entries') := by
  rw [Toml.addNew] at heq
  split at heq
  · cases heq
  · cases heq
    exact h.put key hv

theorem addTable (h : SetOnce (.table entries)) (heq : addTable key entries = some entries') :
    SetOnce (.table entries') := by
  rw [Toml.addTable] at heq
  split at heq
  · cases heq
    refine h.put key (.list ?_)
    intro v hv
    obtain rfl := List.mem_singleton.1 hv
    exact empty
  · rename_i items hitems
    cases heq
    exact h.put key ((h.of_lookup hitems).append empty)
  · cases heq

theorem update {lists : Bool} {f : Entries → Option Entries} {path : List String}
    (hf : ∀ e e', SetOnce (.table e) → f e = some e' → SetOnce (.table e'))
    (h : SetOnce (.table entries)) (heq : update lists f path entries = some entries') :
    SetOnce (.table entries') := by
  induction path generalizing entries entries' with
  | nil => exact hf _ _ h heq
  | cons key path ih =>
    rw [Toml.update] at heq
    split at heq
    · obtain ⟨inner, hinner, heq⟩ := Option.bind_eq_some_iff.1 heq
      cases heq
      exact h.put key (ih empty hinner)
    · rename_i old hold
      obtain ⟨inner, hinner, heq⟩ := Option.bind_eq_some_iff.1 heq
      cases heq
      exact h.put key (ih (h.of_lookup hold) hinner)
    · rename_i items hitems
      have hlist := h.of_lookup hitems
      split at heq
      · -- the last table of a list is changed in its place
        rename_i old hlast
        obtain ⟨inner, hinner, heq⟩ := Option.bind_eq_some_iff.1 heq
        cases heq
        have hold := hlist.of_mem_list (List.mem_of_getLast? hlast)
        exact h.put key (hlist.dropLast.append (ih hold hinner))
      · cases heq
    · cases heq

end SetOnce

theorem setOnce_add {t t' : Inline} {path : List String} {v : Value}
    (h : SetOnce (.table t.entries)) (hv : SetOnce v) (heq : t.add path v = some t') :
    SetOnce (.table t'.entries) := by
  rw [Inline.add] at heq
  split at heq
  · cases heq
  · obtain ⟨key, -, heq⟩ := Option.bind_eq_some_iff.1 heq
    obtain ⟨entries, hentries, heq⟩ := Option.bind_eq_some_iff.1 heq
    cases heq
    exact h.update (fun _ _ he => he.addNew hv) hentries

theorem isContainer_basedInt {base : Nat} {isDigit : Char → Bool} {s rest : List Char} {v : Value}
    (h : basedInt base isDigit s = some (v, rest)) : isContainer v = false := by
  rw [basedInt] at h
  split at h
  · cases h
  · cases h
    rfl

theorem isContainer_decimalNumber {s rest : List Char} {v : Value}
    (h : decimalNumber s = some (v, rest)) : isContainer v = false := by
  rw [decimalNumber] at h
  obtain ⟨⟨whole, rest'⟩, -, h⟩ := Option.bind_eq_some_iff.1 h
  dsimp only at h
  split at h
  · cases h
    rfl
  · cases h
    rfl

theorem isContainer_number {s rest : List Char} {v : Value} (h : number s = some (v, rest)) :
    isContainer v = false := by
  rw [number.eq_def] at h
  split at h
  · exact isContainer_basedInt h
  · exact isContainer_basedInt h
  · exact isContainer_basedInt h
  · dsimp only at h
    split at h
    · cases h
      rfl
    · cases h
      rfl
    · exact isContainer_decimalNumber h

theorem isContainer_stampOrNumber {s rest : List Char} {v : Value}
    (h : stampOrNumber s = some (v, rest)) : isContainer v = false := by
  rw [stampOrNumber] at h
  split at h
  · obtain ⟨d, -, h⟩ := Option.bind_eq_some_iff.1 h
    cases h
    rfl
  · split at h
    · cases h
      rfl
    · exact isContainer_number h

/-- Whatever is read as a value sets its keys once. The three readers call each other with less
fuel. -/
theorem setOnce_readers (fuel : Nat) :
    (∀ s v rest, value fuel s = some (v, rest) → SetOnce v) ∧
    (∀ s v rest, items fuel s = some (v, rest) → SetOnce v) ∧
    ∀ t s v rest, SetOnce (.table t.entries) → members fuel t s = some (v, rest) → SetOnce v := by
  induction fuel with
  | zero => simp [value, items, members]
  | succ fuel ih =>
    obtain ⟨hvalue, hitems, hmembers⟩ := ih
    refine ⟨?_, ?_, ?_⟩
    · intro s v rest h
      rw [value.eq_def] at h
      dsimp only at h
      split at h
      · exact hitems _ _ _ h
      · split at h
        · cases h
          exact .empty
        · exact hmembers _ _ _ _ .empty h
      · cases h
        exact .scalar rfl
      · cases h
        exact .scalar rfl
      · obtain ⟨⟨str, rest'⟩, -, heq⟩ := Option.map_eq_some_iff.1 h
        cases heq
        exact .scalar rfl
      · obtain ⟨⟨str, rest'⟩, -, heq⟩ := Option.map_eq_some_iff.1 h
        cases heq
        exact .scalar rfl
      · exact .scalar (isContainer_stampOrNumber h)
    · intro s v rest h
      rw [items] at h
      obtain ⟨s', -, h⟩ := Option.bind_eq_some_iff.1 h
      split at h
      · cases h
        exact .list (by simp)
      · obtain ⟨⟨v', rest'⟩, hv, h⟩ := Option.bind_eq_some_iff.1 h
        have hv' := hvalue _ _ _ hv
        obtain ⟨s'', -, h⟩ := Option.bind_eq_some_iff.1 h
        split at h
        · cases h
          exact .list (by simpa using hv')
        · obtain ⟨found, hvs, h⟩ := Option.bind_eq_some_iff.1 h
          split at h
          · cases h
            refine .list (List.forall_mem_cons.2 ⟨hv', ?_⟩)
            intro x hx
            exact (hitems _ _ _ hvs).of_mem_list hx
          · cases h
        · cases h
    · intro t s v rest ht h
      rw [members] at h
      obtain ⟨⟨path, rest'⟩, -, h⟩ := Option.bind_eq_some_iff.1 h
      dsimp only at h
      split at h
      · obtain ⟨⟨v', rest''⟩, hv, h⟩ := Option.bind_eq_some_iff.1 h
        obtain ⟨t', ht', h⟩ := Option.bind_eq_some_iff.1 h
        have hadd := setOnce_add ht (hvalue _ _ _ hv) ht'
        split at h
        · cases h
          exact hadd
        · exact hmembers _ _ _ _ hadd h
        · cases h
      · cases h

theorem setOnce_assign {st st' : State} {path : List String} {v : Value}
    (h : SetOnce (.table st.entries)) (hv : SetOnce v) (heq : st.assign path v = some st') :
    SetOnce (.table st'.entries) := by
  rw [State.assign] at heq
  dsimp only at heq
  split at heq
  · cases heq
  · split at heq
    · cases heq
    · obtain ⟨last, -, heq⟩ := Option.bind_eq_some_iff.1 heq
      obtain ⟨entries, hentries, heq⟩ := Option.bind_eq_some_iff.1 heq
      cases heq
      exact h.update (fun _ _ he => he.addNew hv) hentries

theorem setOnce_openTable {st st' : State} {path : List String}
    (h : SetOnce (.table st.entries)) (heq : st.openTable path = some st') :
    SetOnce (.table st'.entries) := by
  rw [State.openTable] at heq
  split at heq
  · cases heq
  · obtain ⟨entries, hentries, heq⟩ := Option.bind_eq_some_iff.1 heq
    cases heq
    refine h.update ?_ hentries
    intro e e' he heq
    cases heq
    exact he

theorem setOnce_openListed {st st' : State} {path : List String}
    (h : SetOnce (.table st.entries)) (heq : st.openListed path = some st') :
    SetOnce (.table st'.entries) := by
  rw [State.openListed] at heq
  split at heq
  · cases heq
  · obtain ⟨last, -, heq⟩ := Option.bind_eq_some_iff.1 heq
    obtain ⟨entries, hentries, heq⟩ := Option.bind_eq_some_iff.1 heq
    cases heq
    exact h.update (fun _ _ he => he.addTable) hentries

theorem setOnce_statement {st st' : State} {s rest : List Char}
    (h : SetOnce (.table st.entries)) (heq : statement st s = some (st', rest)) :
    SetOnce (.table st'.entries) := by
  have hclose : SetOnce (.table st.close.entries) := h
  rw [statement.eq_def] at heq
  split at heq
  · obtain ⟨⟨path, rest'⟩, -, heq⟩ := Option.bind_eq_some_iff.1 heq
    dsimp only at heq
    split at heq
    · obtain ⟨st'', hst, heq⟩ := Option.bind_eq_some_iff.1 heq
      cases heq
      exact setOnce_openListed hclose hst
    · cases heq
  · obtain ⟨⟨path, rest'⟩, -, heq⟩ := Option.bind_eq_some_iff.1 heq
    dsimp only at heq
    split at heq
    · obtain ⟨st'', hst, heq⟩ := Option.bind_eq_some_iff.1 heq
      cases heq
      exact setOnce_openTable hclose hst
    · cases heq
  · obtain ⟨⟨path, rest'⟩, -, heq⟩ := Option.bind_eq_some_iff.1 heq
    dsimp only at heq
    split at heq
    · obtain ⟨⟨v, rest''⟩, hv, heq⟩ := Option.bind_eq_some_iff.1 heq
      obtain ⟨st'', hst, heq⟩ := Option.bind_eq_some_iff.1 heq
      cases heq
      exact setOnce_assign h ((setOnce_readers _).1 _ _ _ hv) hst
    · cases heq

theorem setOnce_lines {fuel : Nat} {st st' : State} {s : List Char}
    (h : SetOnce (.table st.entries)) (heq : lines fuel st s = some st') :
    SetOnce (.table st'.entries) := by
  induction fuel generalizing st s with
  | zero =>
    cases heq
    exact h
  | succ fuel ih =>
    rw [lines] at heq
    split at heq
    · cases heq
      exact h
    · exact ih h heq
    · obtain ⟨rest, -, heq⟩ := Option.bind_eq_some_iff.1 heq
      exact ih h heq
    · obtain ⟨⟨st'', rest⟩, hstatement, heq⟩ := Option.bind_eq_some_iff.1 heq
      obtain ⟨rest', -, heq⟩ := Option.bind_eq_some_iff.1 heq
      exact ih (setOnce_statement h hstatement) heq

/-- A document sets each key of each table once. -/
theorem setOnce_parse {text : List Char} {entries : Entries} (h : parse text = some entries) :
    SetOnce (.table entries) := by
  obtain ⟨st, hst, rfl⟩ := Option.map_eq_some_iff.1 h
  exact setOnce_lines .empty hst

end ComplexityHints.Toml
