import ComplexityHints.Files.Snapshot
import ComplexityHints.Proofs.Settings.Merge

namespace ComplexityHints

theorem Environment.isConfiguration_of_settings {environment : List (String × String)}
    {fields : List (String × Settings.FieldKind)} {f : Failure}
    (h : settings environment fields = .error f) : f.IsConfiguration := by
  induction fields with
  | nil => cases h
  | cons e fields ih =>
    rw [settings] at h
    split at h
    · exact ih h
    · split at h
      · cases h
        trivial
      · exact ih h
      · rcases error_of_bind h with h | ⟨rest, -, h⟩
        · exact ih h
        · cases h

namespace Load

section Build

variable {m : Merged} {f : Failure}

theorem isConfiguration_of_sectionOf {κ : Type} [Construct κ] {v : Value}
    (h : sectionOf κ v = .error f) : f.IsConfiguration := by
  rw [sectionOf.eq_def] at h
  split at h
  · split at h
    · cases h
    · cases h
      trivial
    · cases h
      trivial
  · cases h
    trivial

theorem isConfiguration_of_buildSection {κ : Type} [Construct κ] {wrap : CostTable κ → Setting}
    {built? : Setting → Option (CostTable κ)} (h : buildSection κ wrap built? m = .error f) :
    f.IsConfiguration := by
  rw [buildSection] at h
  split at h
  · cases h
  · cases h
  · cases h
    trivial
  · rcases error_of_bind h with h | ⟨costs, -, h⟩
    · exact isConfiguration_of_sectionOf h
    · cases h
  · split at h
    · cases h
    · cases h
      trivial

theorem isConfiguration_of_build (h : build m = .error f) : f.IsConfiguration := by
  rcases error_of_bind h with h | ⟨m₁, -, h⟩
  · exact isConfiguration_of_buildSection h
  · rcases error_of_bind h with h | ⟨m₂, -, h⟩
    · exact isConfiguration_of_buildSection h
    · split at h
      · cases h
      · cases h
        trivial
      · cases h
        trivial

end Build

section Files

variable {t : FileTree} {explicit : Option Path} {m m' : Merged} {docs : List Toml.Entries}
  {f : Failure}

def Undecodable (t : FileTree) (p : Path) (f : Failure) : Prop :=
  ∃ bytes malformed, t.read p = .ok bytes ∧ Utf8.decode bytes = .error malformed ∧
    f = .undecodable malformed

def Exceeding (t : FileTree) (p : Path) (f : Failure) : Prop :=
  ∃ bytes text why, t.read p = .ok bytes ∧ Utf8.decode bytes = .ok text ∧
    t.overflow bytes = some why ∧ f = .exhausted why

/-- A file of which the system does not tell whether it is there. -/
def Unreachable (t : FileTree) (p : Path) (f : Failure) : Prop :=
  ∃ e, t.find p = .error e ∧ e.isAbsence = false ∧ f = .unreachable e p.text

/-- Two documents of a run of which the earlier one gives a section a value that no table can be made
of and the later one a table. -/
def Clash (docs : List Toml.Entries) (f : Failure) : Prop :=
  ∃ earlier later key v entries fault, [earlier, later].Sublist docs ∧ isSection key = true ∧
    earlier.lookup key = some v ∧ v.isTrue = true ∧ (∀ entries, v ≠ .table entries) ∧
    later.lookup key = some (.table entries) ∧ earlierSection (some (.plain v)) = .error fault ∧
    f = .fault fault

theorem readFile_eq_error {p : Path} (h : readFile t p = .error f) :
    f.IsConfiguration ∨ Undecodable t p f ∨ Exceeding t p f := by
  rw [readFile] at h
  split at h
  · cases h
    exact .inl trivial
  · rename_i bytes hbytes
    split at h
    · rename_i malformed hmalformed
      cases h
      exact .inr (.inl ⟨bytes, malformed, hbytes, hmalformed, rfl⟩)
    · rename_i text htext
      split at h
      · rename_i why hwhy
        cases h
        exact .inr (.inr ⟨bytes, text, why, hbytes, htext, hwhy, rfl⟩)
      · cases h
      · cases h
        exact .inl trivial

theorem isThere_eq_error {p : Path} (h : isThere t p = .error f) : Unreachable t p f := by
  obtain ⟨e, hpresence, rfl⟩ := error_of_mapError h
  rw [FileTree.presence.eq_def] at hpresence
  split at hpresence
  next => cases hpresence
  next e' hfind =>
    split at hpresence
    next => cases hpresence
    next habsence =>
      cases hpresence
      exact ⟨e, hfind, Bool.not_eq_true _ ▸ habsence, rfl⟩

theorem mem_of_foldlM_mergeFile (hdocs : ∀ d ∈ docs, d.Distinct)
    (h : docs.foldlM mergeFile m = .ok m') {key : String} {v : Value}
    (hv : m'.lookup key = some (.plain v)) (htable : ∀ entries, v ≠ .table entries) :
    m.lookup key = some (.plain v) ∨ ∃ d ∈ docs, d.lookup key = some v := by
  induction docs generalizing m with
  | nil =>
    cases h
    exact .inl hv
  | cons d docs ih =>
    rw [List.foldlM_cons] at h
    obtain ⟨m₁, hm₁, h⟩ := ok_of_bind h
    obtain ⟨hd, hdocs⟩ := List.forall_mem_cons.1 hdocs
    rcases ih hdocs h with hv₁ | ⟨d', hd', hv'⟩
    · obtain ⟨hnone, hsome⟩ := mergeFile_eq_ok hd hm₁ key
      cases hv' : d.lookup key with
      | none => exact .inl (hnone hv' ▸ hv₁)
      | some v' =>
        obtain ⟨s, hs, hlookup⟩ := hsome v' hv'
        rw [hv₁] at hlookup
        cases hlookup
        rcases mergeValue_eq_ok hs with heq | heq | ⟨entries, heq⟩
        · cases heq
          exact .inr ⟨d, List.mem_cons_self, hv'⟩
        · cases heq
        · cases heq
          exact absurd rfl (htable entries)
    · exact .inr ⟨d', List.mem_cons_of_mem _ hd', hv'⟩

/-- One document of a run cannot be merged into those before it. -/
def Unmergeable (docs : List Toml.Entries) (f : Failure) : Prop :=
  ∃ before d after m fault, docs = before ++ d :: after ∧ before.foldlM mergeFile [] = .ok m ∧
    mergeFile m d = .error fault ∧ f = .fault fault

/-- A document that cannot be merged clashes with one of those before it. -/
theorem clash_of_unmergeable (hdocs : ∀ d ∈ docs, d.Distinct) (h : Unmergeable docs f) :
    Clash docs f := by
  obtain ⟨before, d, after, m, fault, rfl, hbefore, hmerge, rfl⟩ := h
  obtain ⟨key, v, hv, hvalue⟩ := mergeFile_eq_error (hdocs d (by simp)) hmerge
  obtain ⟨hkey, ⟨entries, rfl⟩, hearlier⟩ := mergeValue_eq_error hvalue
  obtain ⟨v, hplain, htrue, htable⟩ := earlierSection_eq_error hearlier
  have hbeforeDistinct : ∀ d' ∈ before, d'.Distinct :=
    fun d' hd' => hdocs d' (List.mem_append_left _ hd')
  rcases mem_of_foldlM_mergeFile hbeforeDistinct hbefore hplain htable with
    hnil | ⟨earlier, hmem, hv'⟩
  · cases hnil
  · refine ⟨earlier, d, key, v, entries, fault, ?_, hkey, hv', htrue, htable, hv,
      hplain ▸ hearlier, rfl⟩
    exact (List.singleton_sublist.2 hmem).append (List.singleton_sublist.2 List.mem_cons_self)

theorem withOptionalFile_eq_error {p : Path} (h : withOptionalFile t p m = .error f) :
    Unreachable t p f ∨ t.exists_ p = true ∧ withFile t p m = .error f := by
  rcases error_of_bind h with h | ⟨present, hthere, h⟩
  · exact .inl (isThere_eq_error h)
  · cases present with
    | true => exact .inr ⟨isThere_eq_ok hthere, h⟩
    | false => cases h

theorem withExplicitFile_eq_error (h : withExplicitFile t explicit m = .error f) :
    f.IsConfiguration ∨ ∃ p, explicit = some p ∧
      (Unreachable t p f ∨ t.exists_ p = true ∧ withFile t p m = .error f) := by
  cases explicit with
  | none => cases h
  | some p =>
    rcases error_of_bind h with h | ⟨present, hthere, h⟩
    · exact .inr ⟨p, rfl, .inl (isThere_eq_error h)⟩
    · cases present with
      | true => exact .inr ⟨p, rfl, .inr ⟨isThere_eq_ok hthere, h⟩⟩
      | false =>
        cases h
        exact .inl trivial

/-- Where the merge stops at a file, that file cannot be reached, read or merged into those before. -/
theorem files_eq_error {p : Path} {before after : List Toml.Entries}
    (hp : p ∈ settingsFiles t explicit)
    (hdocs : documents t explicit = before ++ ((document? t p).toList ++ after))
    (hbefore : before.foldlM mergeFile [] = .ok m)
    (h : Unreachable t p f ∨ t.exists_ p = true ∧ withFile t p m = .error f) :
    (∃ p ∈ settingsFiles t explicit, Unreachable t p f ∨ readFile t p = .error f) ∨
      Unmergeable (documents t explicit) f := by
  rcases h with h | ⟨hthere, h⟩
  · exact .inl ⟨p, hp, .inl h⟩
  · rcases withFile_eq_error hthere h with hread | ⟨d, fault, hd, hmerge, rfl⟩
    · exact .inl ⟨p, hp, .inr hread⟩
    · rw [hd] at hdocs
      exact .inr ⟨before, d, after, m, fault, hdocs, hbefore, hmerge, rfl⟩

theorem mergeFiles_eq_error (h : mergeFiles t explicit = .error f) :
    f.IsConfiguration ∨
      (∃ p ∈ settingsFiles t explicit, Unreachable t p f ∨ readFile t p = .error f) ∨
      Unmergeable (documents t explicit) f := by
  have hdocs := documents_eq_append t explicit
  rcases error_of_bind h with h | ⟨m₁, h₁, h⟩
  · have hnil : [].foldlM mergeFile [] = .ok [] := rfl
    rw [← List.nil_append (_ ++ _)] at hdocs
    exact .inr (files_eq_error (by simp [settingsFiles]) hdocs hnil (withOptionalFile_eq_error h))
  · have hhome := withOptionalFile_eq_ok h₁
    rcases error_of_bind h with h | ⟨m₂, h₂, h⟩
    · exact .inr (files_eq_error (by simp [settingsFiles]) hdocs hhome
        (withOptionalFile_eq_error h))
    · have hproject := foldlM_append_ok hhome (withOptionalFile_eq_ok h₂)
      rcases withExplicitFile_eq_error h with hf | ⟨p, rfl, hfile⟩
      · exact .inl hf
      · rw [Option.bind_some, ← List.append_assoc, ← List.append_nil (document? t p).toList] at hdocs
        exact .inr (files_eq_error (by simp [settingsFiles]) hdocs hproject hfile)

end Files

def twoFiles (user project : Utf8.Bytes) : FileTree := Snapshot.tree
  { directory := ["w"], home := ["h"], directories := []
    files := [(["h", ".codemetrics.toml"], user), (["w", "codemetrics.toml"], project)] }

def clashing : FileTree :=
  twoFiles (Utf8.encode "script = 5".toList) (Utf8.encode "[script]\nif_statement = 2".toList)

/-- What loading ends in, if that is a fault. -/
def fault? : Except Failure Settings → Option Fault
  | .error (.fault fault) => some fault
  | _ => none

theorem eq_error_of_fault? {x : Except Failure Settings} {fault : Fault} (h : fault? x = some fault) :
    x = .error (.fault fault) := by
  unfold fault? at h
  split at h
  · cases h
    rfl
  · cases h

/-- Loading fails and the settings are not blamed. -/
def Escapes (x : Except Failure Settings) : Prop := ∃ f, x = .error f ∧ ¬ f.IsConfiguration

instance : DecidablePred Failure.IsConfiguration
  | .problem (.configuration ..) | .problem (.invalidSetting ..) => isTrue trivial
  | .problem (.general ..) | .problem (.analysis ..) | .problem (.fileAccess ..)
  | .problem (.parsing ..) | .problem (.unsupportedLanguage ..) | .fault _ | .undecodable _
  | .badPattern | .unknownEncoding _ | .unreachable .. | .exhausted _ => isFalse id

instance : DecidablePred Escapes
  | .ok _ => isFalse nofun
  | .error f => decidable_of_iff (¬ f.IsConfiguration) (by simp [Escapes])

end Load

end ComplexityHints
