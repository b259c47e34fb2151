import ComplexityHints.Proofs.Failure
import ComplexityHints.Proofs.Settings.Document
import ComplexityHints.Settings.Load

namespace ComplexityHints.Load

open Keyed (put putAll)

section Value

variable {key : String} {earlier : Option Setting} {v : Value} {s : Setting} {fault : Fault}

theorem mergeValue_of_not_isSection (h : isSection key = false) :
    mergeValue key earlier v = .ok (.plain v) := by
  simp [mergeValue, h]

theorem earlierSection_map_table (o : Option Toml.Entries) :
    earlierSection (o.map fun entries => .plain (.table entries)) = .ok ⟨o.getD [], false⟩ := by
  cases o with
  | none => rfl
  | some entries => cases entries <;> rfl

theorem mergeValue_table (h : isSection key = true) (o : Option Toml.Entries)
    (entries : Toml.Entries) :
    mergeValue key (o.map fun entries => .plain (.table entries)) (.table entries) =
      .ok (.plain (.table (putAll (o.getD []) entries))) := by
  simp [mergeValue, h, earlierSection_map_table, bind, Except.bind, pure, Except.pure]

theorem mergeValue_eq_ok (h : mergeValue key earlier v = .ok s) :
    s = .plain v ∨ s = .mixedTable ∨ ∃ entries, s = .plain (.table entries) := by
  rw [mergeValue.eq_def] at h
  split at h
  · obtain ⟨pairs, -, h⟩ := ok_of_bind h
    cases h
    split
    · exact .inr (.inl rfl)
    · exact .inr (.inr ⟨_, rfl⟩)
  · cases h
    exact .inl rfl

theorem earlierSection_eq_error (h : earlierSection earlier = .error fault) :
    ∃ v, earlier = some (.plain v) ∧ v.isTrue = true ∧ ∀ entries, v ≠ .table entries := by
  rw [earlierSection.eq_def] at h
  split at h
  · cases h
  · cases h
  · split at h
    · cases h
    · rename_i v htrue
      refine ⟨v, rfl, by simpa using htrue, ?_⟩
      rintro entries rfl
      cases h
  · cases h

theorem mergeValue_eq_error (h : mergeValue key earlier v = .error fault) :
    isSection key = true ∧ (∃ entries, v = .table entries) ∧ earlierSection earlier = .error fault := by
  rw [mergeValue.eq_def] at h
  split at h
  · rename_i entries hsection
    rcases error_of_bind h with h | ⟨pairs, -, h⟩
    · exact ⟨hsection, ⟨entries, rfl⟩, h⟩
    · cases h
  · cases h

end Value

section File

variable {m m' : Merged} {d : Toml.Entries} {fault : Fault}

/-- A file leaves the keys that it does not set as they were and merges its value into each other
one. -/
theorem mergeFile_eq_ok (hd : d.Distinct) (h : mergeFile m d = .ok m') (key : String) :
    (d.lookup key = none → m'.lookup key = m.lookup key) ∧
      ∀ v, d.lookup key = some v →
        ∃ s, mergeValue key (m.lookup key) v = .ok s ∧ m'.lookup key = some s := by
  induction d generalizing m with
  | nil =>
    cases h
    simp
  | cons e d ih =>
    obtain ⟨k, v⟩ := e
    obtain ⟨hnotMem, hd⟩ := hd.of_cons
    rw [mergeFile] at h
    obtain ⟨s, hs, h⟩ := ok_of_bind h
    obtain ⟨hnone, hsome⟩ := ih hd h
    by_cases hk : key = k
    · -- the rest of the file does not set the key again
      subst hk
      rw [hnone (Keyed.lookup_eq_none hnotMem), Keyed.lookup_put, if_pos rfl]
      simp [hs]
    · rw [Keyed.lookup_put, if_neg hk] at hnone hsome
      rw [Keyed.lookup_cons_of_ne hk]
      exact ⟨hnone, hsome⟩

theorem mergeFile_eq_error (hd : d.Distinct) (h : mergeFile m d = .error fault) :
    ∃ key v, d.lookup key = some v ∧ mergeValue key (m.lookup key) v = .error fault := by
  induction d generalizing m with
  | nil => cases h
  | cons e d ih =>
    obtain ⟨k, v⟩ := e
    obtain ⟨hnotMem, hd⟩ := hd.of_cons
    rw [mergeFile] at h
    rcases error_of_bind h with h | ⟨s, -, h⟩
    · exact ⟨k, v, by simp, h⟩
    · obtain ⟨key, v', hv', h⟩ := ih hd h
      have hne : key ≠ k := by
        rintro rfl
        exact hnotMem (List.mem_map.2 ⟨_, Keyed.mem_of_lookup hv', rfl⟩)
      rw [Keyed.lookup_put, if_neg hne] at h
      exact ⟨key, v', by rwa [Keyed.lookup_cons_of_ne hne], h⟩

end File

section Files

variable {m m' : Merged} {docs : List Toml.Entries}

theorem lookup_foldlM_mergeFile {key : String} (hkey : isSection key = false)
    (hdocs : ∀ d ∈ docs, d.Distinct) (h : docs.foldlM mergeFile m = .ok m') :
    m'.lookup key = ((docs.reverse.findSome? (·.lookup key)).map .plain).or (m.lookup key) := by
  induction docs generalizing m with
  | nil =>
    cases h
    rfl
  | cons d docs ih =>
    rw [List.foldlM_cons] at h
    obtain ⟨m₁, hm₁, h⟩ := ok_of_bind h
    obtain ⟨hd, hdocs⟩ := List.forall_mem_cons.1 hdocs
    obtain ⟨hnone, hsome⟩ := mergeFile_eq_ok hd hm₁ key
    have hstep : m₁.lookup key = ((d.lookup key).map .plain).or (m.lookup key) := by
      cases hv : d.lookup key with
      | none => simp [hnone hv]
      | some v =>
        obtain ⟨s, hs, hlookup⟩ := hsome v hv
        rw [mergeValue_of_not_isSection hkey] at hs
        cases hs
        simp [hlookup]
    rw [ih hdocs h, hstep, List.reverse_cons, List.findSome?_append, List.findSome?_singleton,
      Option.map_or, Option.or_assoc]

def costIn? (key name : String) (d : Toml.Entries) : Option Value :=
  match d.lookup key with
  | some (.table entries) => entries.lookup name
  | _ => none

def SectionsAreTables (d : Toml.Entries) : Prop :=
  ∀ key v, isSection key = true → d.lookup key = some v → ∃ entries, v = .table entries

instance : DecidablePred fun v => ∃ entries, v = Value.table entries
  | .table entries => isTrue ⟨entries, rfl⟩
  | .null | .bool _ | .int _ | .float _ | .str _ | .list _ | .stamp _ => isFalse nofun

theorem sectionsAreTables_iff {d : Toml.Entries} : SectionsAreTables d ↔
    (∀ v ∈ d.lookup "script", ∃ entries, v = .table entries) ∧
      ∀ v ∈ d.lookup "lua", ∃ entries, v = .table entries := by
  constructor
  · intro h
    exact ⟨fun v hv => h "script" v rfl hv, fun v hv => h "lua" v rfl hv⟩
  · rintro ⟨hscript, hlua⟩ key v hkey hv
    have hsection : key = "script" ∨ key = "lua" := by simpa [isSection] using hkey
    rcases hsection with rfl | rfl
    · exact hscript v hv
    · exact hlua v hv

instance : DecidablePred SectionsAreTables := fun _ => decidable_of_iff _ sectionsAreTables_iff.symm

/-- A section that is a table in all files has, cost by cost, the value of the last file that sets
it. -/
theorem costs_foldlM_mergeFile {key : String} (hkey : isSection key = true)
    (hdocs : ∀ d ∈ docs, Toml.SetOnce (.table d)) (htables : ∀ d ∈ docs, SectionsAreTables d)
    {o : Option Toml.Entries} (hm : m.lookup key = o.map fun entries => .plain (.table entries))
    (h : docs.foldlM mergeFile m = .ok m') :
    ∃ o' : Option Toml.Entries,
      m'.lookup key = (o'.map fun entries => .plain (.table entries)) ∧
      ∀ name, (o'.getD []).lookup name =
        (docs.reverse.findSome? (costIn? key name)).or ((o.getD []).lookup name) := by
  induction docs generalizing m o with
  | nil =>
    cases h
    exact ⟨o, hm, by simp⟩
  | cons d docs ih =>
    rw [List.foldlM_cons] at h
    obtain ⟨m₁, hm₁, h⟩ := ok_of_bind h
    obtain ⟨hd, hdocs⟩ := List.forall_mem_cons.1 hdocs
    obtain ⟨htable, htables⟩ := List.forall_mem_cons.1 htables
    obtain ⟨hnone, hsome⟩ := mergeFile_eq_ok hd.distinct hm₁ key
    have hstep : ∃ o₁ : Option Toml.Entries,
        m₁.lookup key = (o₁.map fun entries => .plain (.table entries)) ∧
        ∀ name, (o₁.getD []).lookup name = (costIn? key name d).or ((o.getD []).lookup name) := by
      cases hv : d.lookup key with
      | none => exact ⟨o, by rw [hnone hv, hm], by simp [costIn?, hv]⟩
      | some v =>
        obtain ⟨entries, rfl⟩ := htable key v hkey hv
        obtain ⟨s, hs, hlookup⟩ := hsome _ hv
        rw [hm, mergeValue_table hkey] at hs
        cases hs
        refine ⟨some (putAll (o.getD []) entries), hlookup, ?_⟩
        intro name
        simp [costIn?, hv, Keyed.lookup_putAll (hd.of_lookup hv).distinct]
    obtain ⟨o₁, ho₁, hcosts⟩ := hstep
    obtain ⟨o', ho', hcosts'⟩ := ih hdocs htables ho₁ h
    refine ⟨o', ho', ?_⟩
    intro name
    rw [hcosts', hcosts, List.reverse_cons, List.findSome?_append, List.findSome?_singleton,
      Option.or_assoc]

end Files

section Reading

variable {t : FileTree} {p : Path} {explicit : Option Path} {m m' : Merged} {f : Failure}

def settingsFiles (t : FileTree) (explicit : Option Path) : List Path :=
  homeFile t :: projectFile t :: explicit.toList

def document? (t : FileTree) (p : Path) : Option Toml.Entries :=
  if t.exists_ p then (readFile t p).toOption else none

theorem isThere_eq_ok {present : Bool} (h : isThere t p = .ok present) : t.exists_ p = present := by
  have h := ok_of_mapError h
  rw [FileTree.presence] at h
  rw [FileTree.exists_]
  cases hfind : t.find p with
  | ok kind =>
    rw [hfind] at h
    exact Except.ok.inj h
  | error e =>
    rw [hfind] at h
    dsimp only at h
    split at h
    · exact Except.ok.inj h
    · cases h

def documents (t : FileTree) (explicit : Option Path) : List Toml.Entries :=
  (settingsFiles t explicit).filterMap (document? t)

theorem readFile_of_document? {d : Toml.Entries} (h : document? t p = some d) :
    readFile t p = .ok d := by
  rw [document?] at h
  split at h
  · cases hread : readFile t p with
    | error e =>
      rw [hread] at h
      cases h
    | ok d' =>
      rw [hread] at h
      cases h
      rfl
  · cases h

theorem setOnce_of_readFile {d : Toml.Entries} (h : readFile t p = .ok d) :
    Toml.SetOnce (.table d) := by
  rw [readFile] at h
  split at h
  · cases h
  · split at h
    · cases h
    · split at h
      next => cases h
      next hparse =>
        cases h
        exact Toml.setOnce_parse hparse
      next => cases h

theorem setOnce_of_mem_documents {d : Toml.Entries} (h : d ∈ documents t explicit) :
    Toml.SetOnce (.table d) := by
  obtain ⟨p, -, hp⟩ := List.mem_filterMap.1 h
  exact setOnce_of_readFile (readFile_of_document? hp)

theorem withFile_eq_ok (hp : t.exists_ p = true) (h : withFile t p m = .ok m') :
    (document? t p).toList.foldlM mergeFile m = .ok m' := by
  obtain ⟨d, hd, h⟩ := ok_of_bind h
  simpa [document?, hp, hd, Except.toOption] using ok_of_mapError h

theorem withFile_eq_error (hp : t.exists_ p = true) (h : withFile t p m = .error f) :
    readFile t p = .error f ∨
      ∃ d fault, document? t p = some d ∧ mergeFile m d = .error fault ∧ f = .fault fault := by
  rcases error_of_bind h with h | ⟨d, hd, h⟩
  · exact .inl h
  · obtain ⟨fault, hfault, rfl⟩ := error_of_mapError h
    exact .inr ⟨d, fault, by simp [document?, hp, hd, Except.toOption], hfault, rfl⟩

theorem withOptionalFile_eq_ok (h : withOptionalFile t p m = .ok m') :
    (document? t p).toList.foldlM mergeFile m = .ok m' := by
  obtain ⟨present, hthere, h⟩ := ok_of_bind h
  have hp := isThere_eq_ok hthere
  cases present with
  | true => exact withFile_eq_ok hp h
  | false =>
    cases h
    simp [document?, hp, pure, Except.pure]

theorem withExplicitFile_eq_ok (h : withExplicitFile t explicit m = .ok m') :
    (explicit.bind (document? t)).toList.foldlM mergeFile m = .ok m' := by
  cases explicit with
  | none =>
    cases h
    rfl
  | some p =>
    obtain ⟨present, hthere, h⟩ := ok_of_bind h
    cases present with
    | true => exact withFile_eq_ok (isThere_eq_ok hthere) h
    | false => cases h

theorem documents_eq_append (t : FileTree) (explicit : Option Path) :
    documents t explicit = (document? t (homeFile t)).toList ++
      ((document? t (projectFile t)).toList ++ (explicit.bind (document? t)).toList) := by
  have hcons (p : Path) (ps : List Path) : (p :: ps).filterMap (document? t) =
      (document? t p).toList ++ ps.filterMap (document? t) := by
    cases h : document? t p <;> simp [h]
  rw [documents, settingsFiles, hcons, hcons]
  cases explicit with
  | none => rfl
  | some p =>
    rw [Option.toList_some, hcons]
    simp

theorem mergeFiles_eq_ok (h : mergeFiles t explicit = .ok m) :
    (documents t explicit).foldlM mergeFile [] = .ok m := by
  obtain ⟨m₁, h₁, h⟩ := ok_of_bind h
  obtain ⟨m₂, h₂, h⟩ := ok_of_bind h
  rw [documents_eq_append]
  exact foldlM_append_ok (withOptionalFile_eq_ok h₁)
    (foldlM_append_ok (withOptionalFile_eq_ok h₂) (withExplicitFile_eq_ok h))

end Reading

end ComplexityHints.Load
