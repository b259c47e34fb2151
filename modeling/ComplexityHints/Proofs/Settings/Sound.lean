import ComplexityHints.Proofs.Settings.Levels
import ComplexityHints.Proofs.Settings.Precedence

namespace ComplexityHints

namespace CostTable

variable {κ : Type} [Construct κ] {entries : List (String × Value)} {costs : CostTable κ}

theorem default_valid : (default : CostTable κ).Valid := fun k => Int.natCast_nonneg (Construct.cost k)

theorem nonneg_of_entryCost {k : κ} {a : Amount} (h : entryCost entries k = .ok a) : 0 ≤ a.toInt := by
  rw [entryCost] at h
  split at h
  · cases h
    exact default_valid k
  · split at h
    · rename_i ha
      cases h
      simpa using (Option.filter_eq_some_iff.1 ha).2
    · cases h

theorem valid_of_build (h : build entries = .ok costs) : costs.Valid := by
  intro k
  rw [build] at h
  split at h
  · cases h
  · split at h
    · cases h
    · cases h
      dsimp only
      split
      · rename_i hcost
        exact nonneg_of_entryCost hcost
      · exact default_valid k

end CostTable

namespace Settings

theorem eq_of_patterns {v : Value} {ss : List String} (h : patterns v = .ok ss) :
    v = .list (ss.map .str) ∨ ∃ entries, v = .table entries ∧ ss = entries.map (·.1) := by
  rw [patterns.eq_def] at h
  split at h
  · rename_i entries
    cases h
    exact .inr ⟨entries, rfl, rfl⟩
  · split at h
    · rename_i hitems
      cases h
      exact .inl (congrArg Value.list (eq_map_str_of_mapM hitems))
    · cases h
  · cases h
  · cases h

theorem amount?_of_threshold {v : Value} {a : Amount} (h : threshold v = .ok a) :
    v.amount? = some a := by
  rw [threshold] at h
  split at h
  · rename_i ha
    cases h
    exact ha
  · cases h

theorem elim_section {κ : Type} [Construct κ] {wrap : CostTable κ → Setting}
    {read : Setting → CostSection κ} (hread : ∀ costs, read (wrap costs) = .costs costs)
    {given : List (String × Setting)} {key : String} {o : Option (CostTable κ)}
    (ho : given.lookup key = o.map wrap) :
    (given.lookup key).elim (.costs .default) read = .costs (o.getD .default) := by
  rw [ho]
  cases o with
  | none => rfl
  | some costs => exact hread costs

end Settings

namespace Load

open Keyed (putAll)

section Objects

variable {m m' overrides : Merged} {docs : List Toml.Entries}
  {environment : List (String × String)} {ambient : Keyed Value} {key : String} {s : Setting}

/-- What a file or the environment can give: no section object. -/
def Unbuilt (s : Setting) : Prop := (∃ v, s = .plain v) ∨ s = .mixedTable

theorem Unbuilt.script? (h : Unbuilt s) : s.script? = none := by
  rcases h with ⟨v, rfl⟩ | rfl <;> rfl

theorem Unbuilt.lua? (h : Unbuilt s) : s.lua? = none := by
  rcases h with ⟨v, rfl⟩ | rfl <;> rfl

theorem unbuilt_of_foldlM_mergeFile (hdocs : ∀ d ∈ docs, d.Distinct)
    (hm : ∀ s, m.lookup key = some s → Unbuilt s) (h : docs.foldlM mergeFile m = .ok m') :
    ∀ s, m'.lookup key = some s → Unbuilt s := by
  induction docs generalizing m with
  | nil =>
    cases h
    exact hm
  | cons d docs ih =>
    rw [List.foldlM_cons] at h
    obtain ⟨m₁, hm₁, h⟩ := ok_of_bind h
    obtain ⟨hd, hdocs⟩ := List.forall_mem_cons.1 hdocs
    obtain ⟨hnone, hsome⟩ := mergeFile_eq_ok hd hm₁ key
    refine ih hdocs ?_ h
    intro s hs
    cases hv : d.lookup key with
    | none => exact hm s (hnone hv ▸ hs)
    | some v =>
      obtain ⟨s', hmerge, hlookup⟩ := hsome v hv
      have heq : s = s' := Option.some.inj (hs.symm.trans hlookup)
      rcases mergeValue_eq_ok hmerge with hvalue | hmixed | ⟨entries, htable⟩
      · exact .inl ⟨v, heq.trans hvalue⟩
      · exact .inr (heq.trans hmixed)
      · exact .inl ⟨_, heq.trans htable⟩

theorem mem_overrides_or_unbuilt (hdocs : ∀ d ∈ docs, d.Distinct)
    (hm : docs.foldlM mergeFile [] = .ok m)
    (hambient : Environment.settings environment Settings.fields = .ok ambient)
    (hoverrides : overrides.Distinct)
    (h : (putAll (putAll m (ambient.map fun (key, v) => (key, .plain v)))
      (given overrides)).lookup key = some s) : (key, s) ∈ overrides ∨ Unbuilt s := by
  rw [lookup_putAll_sources hambient hoverrides] at h
  rcases Option.or_eq_some_iff.1 h with hgiven | ⟨_, h⟩
  · exact .inl (List.mem_filter.1 (Keyed.mem_of_lookup hgiven)).1
  · rcases Option.or_eq_some_iff.1 h with hambient | ⟨_, hfile⟩
    · obtain ⟨v, -, hv⟩ := Option.map_eq_some_iff.1 hambient
      exact .inr (.inl ⟨v, hv.symm⟩)
    · exact .inr (unbuilt_of_foldlM_mergeFile hdocs (by simp) hm s hfile)

end Objects

section Sections

variable {κ : Type} [Construct κ] {wrap : CostTable κ → Setting}
  {built? : Setting → Option (CostTable κ)} {m m' overrides : Merged}

/-- The section objects among the overrides were built from some entries. -/
def SectionsBuilt (built? : Setting → Option (CostTable κ)) (overrides : Merged) : Prop :=
  ∀ key s costs, (key, s) ∈ overrides → built? s = some costs →
    ∃ entries, CostTable.build entries = .ok costs

theorem buildSection_eq_ok (h : buildSection κ wrap built? m = .ok m') :
    ∃ o : Option (CostTable κ), m'.lookup (Construct.table κ) = o.map wrap ∧
      ∀ costs, o = some costs → (∃ entries, CostTable.build entries = .ok costs) ∨
        (m.lookup (Construct.table κ)).bind built? = some costs := by
  have hown (s : Setting) : List.lookup (Construct.table κ)
      (m.filter (·.1 ≠ Construct.table κ) ++ [(Construct.table κ, s)]) = some s := by
    rw [List.lookup_append, Keyed.lookup_filter_self]
    simp
  rw [buildSection] at h
  split at h
  · cases h
    exact ⟨none, Keyed.lookup_filter_self _ m, by simp⟩
  · cases h
    exact ⟨none, Keyed.lookup_filter_self _ m, by simp⟩
  · cases h
  · obtain ⟨costs, hcosts, h⟩ := ok_of_bind h
    cases h
    obtain ⟨entries, -, hbuild⟩ := build_of_sectionOf hcosts
    refine ⟨some costs, hown _, ?_⟩
    intro costs' heq
    rw [← Option.some.inj heq]
    exact .inl ⟨entries, hbuild⟩
  · rename_i hm
    split at h
    · rename_i costs hcosts
      cases h
      refine ⟨some costs, hown _, ?_⟩
      intro costs' heq
      rw [hm, ← heq]
      exact .inr hcosts
    · cases h

/-- Whichever way a section comes, no cost of it is negative. -/
theorem valid_of_buildSection (hbuilt : SectionsBuilt built? overrides)
    (hunbuilt : ∀ s, Unbuilt s → built? s = none)
    (hm : ∀ s, m.lookup (Construct.table κ) = some s →
      (Construct.table κ, s) ∈ overrides ∨ Unbuilt s)
    (h : buildSection κ wrap built? m = .ok m') :
    ∃ o : Option (CostTable κ), m'.lookup (Construct.table κ) = o.map wrap ∧
      (o.getD .default).Valid := by
  obtain ⟨o, ho, hcosts⟩ := buildSection_eq_ok h
  refine ⟨o, ho, ?_⟩
  cases o with
  | none => exact CostTable.default_valid
  | some costs =>
    rcases hcosts costs rfl with ⟨entries, hbuild⟩ | hobject
    · exact CostTable.valid_of_build hbuild
    · obtain ⟨s, hs, hcosts⟩ := Option.bind_eq_some_iff.1 hobject
      rcases hm s hs with hmem | hnone
      · obtain ⟨entries, hbuild⟩ := hbuilt _ s costs hmem hcosts
        exact CostTable.valid_of_build hbuild
      · exact absurd ((hunbuilt s hnone).symm.trans hcosts) (by simp)

end Sections

/-- Loaded settings meet all constraints: the exclusion list is a list of strings, or the keys of a
table, that the highest source gives; the threshold is a whole number; no cost is negative; and whole
bounds rise. So every complexity has a level, the highest one that it reaches or the low one, which its
description and its style are taken from and which does not fall when the complexity grows. -/
theorem settings_meet_constraints {t : FileTree} {environment : List (String × String)}
    {explicit : Option Path} {overrides : Merged} {s : Settings}
    (h : settings t environment explicit overrides = .ok s) (hoverrides : Keywords overrides)
    (hscript : SectionsBuilt Setting.script? overrides)
    (hlua : SectionsBuilt Setting.lua? overrides) :
    (∃ v, (fieldSource? t environment explicit overrides .exclude).getD Field.exclude.default = v ∧
      (v = .list (s.exclude.map .str) ∨ ∃ entries, v = .table entries ∧
        s.exclude = entries.map (·.1))) ∧
    ((fieldSource? t environment explicit overrides .minimumVisible).getD
      Field.minimumVisible.default).amount? = some s.minimumVisible ∧
    (∃ costs, s.script = .costs costs ∧ costs.Valid) ∧
    (∃ costs, s.lua = .costs costs ∧ costs.Valid) ∧
    ∀ b : Level → Amount, (∀ l, s.bound l = .ofAmount (b l)) →
      ((b .low).toInt ≤ (b .normal).toInt ∧ (b .normal).toInt ≤ (b .high).toInt ∧
        (b .high).toInt ≤ (b .extreme).toInt) ∧
      (∀ n, ∃ l, s.Grades b n l) ∧
      ∀ n n' l l', n ≤ n' → s.Grades b n l → s.Grades b n' l' → l ≤ l' := by
  obtain ⟨m, ambient, hm, hambient, h⟩ := settings_eq_ok h
  obtain ⟨m₁, m₂, h₁, h₂, h⟩ := build_eq_ok h
  have hm := mergeFiles_eq_ok hm
  have hdocs (d) (hd : d ∈ documents t explicit) := (setOnce_of_mem_documents hd).distinct
  have hfield (f : Field) : m₂.lookup f.name =
      (fieldSource? t environment explicit overrides f).map .plain := by
    have hname := f.isSection_name
    have hscript : f.name ≠ "script" := fun heq => absurd (heq ▸ hname) (by decide)
    have hlua : f.name ≠ "lua" := fun heq => absurd (heq ▸ hname) (by decide)
    rw [lookup_buildSection_of_ne hlua h₂, lookup_buildSection_of_ne hscript h₁,
      lookup_field hoverrides hm hambient]
  obtain ⟨exclude, minimumVisible, hexclude, hminimum, hs⟩ := Settings.assemble_of_build h
  refine ⟨⟨_, rfl, ?_⟩, ?_, ?_, ?_, ?_⟩
  · rw [← Settings.plainOr_of_lookup (hfield .exclude), hs]
    exact Settings.eq_of_patterns hexclude
  · rw [← Settings.plainOr_of_lookup (hfield .minimumVisible), hs]
    exact Settings.amount?_of_threshold hminimum
  · obtain ⟨o, ho, hvalid⟩ := valid_of_buildSection hscript (fun _ => Unbuilt.script?)
      (fun _ => mem_overrides_or_unbuilt hdocs hm hambient hoverrides.distinct) h₁
    have hlookup : m₂.lookup "script" = o.map .script :=
      (lookup_buildSection_of_ne (by decide) h₂).trans ho
    refine ⟨_, ?_, hvalid⟩
    rw [hs]
    exact Settings.elim_section (fun _ => rfl) hlookup
  · -- building the script section leaves the Lua section as it was merged
    have hlookup : m₁.lookup "lua" = _ := lookup_buildSection_of_ne (by decide) h₁
    obtain ⟨o, ho, hvalid⟩ := valid_of_buildSection hlua (fun _ => Unbuilt.lua?)
      (fun _ hs => mem_overrides_or_unbuilt hdocs hm hambient hoverrides.distinct
        (hlookup.symm.trans hs)) h₂
    refine ⟨_, ?_, hvalid⟩
    rw [hs]
    exact Settings.elim_section (fun _ => rfl) ho
  · intro b hb
    have hbounds := Settings.bounds_of_ascending (Settings.ascending_of_build h) hb
    have hmono := Settings.monotone_bounds hbounds
    refine ⟨hbounds, Settings.exists_grades hb hmono, ?_⟩
    intro n n' l l' hn hl hl'
    exact hl.mono hl' hn

/-- A table of costs in a file, a bound in the environment, and a section object as an override. -/
theorem settings_meet_constraints_of_sources :
    let t : FileTree := Snapshot.tree
      { directory := ["w"], home := ["h"], directories := []
        files := [(["w", "codemetrics.toml"], Utf8.encode "script.if_statement=4".toList)] }
    let environment := [("CODEMETRICS_COMPLEXITY_LEVEL_HIGH", "12")]
    let costs : CostTable LuaConstruct := fun k =>
      if k = .gotoStatement then .number 2 else CostTable.default k
    let overrides : Merged := [("lua", .lua costs)]
    let b : Level → Amount := fun
      | .low => .number 0
      | .normal => .number 5
      | .high => .number 12
      | .extreme => .number 25
    ∃ s, settings t environment none overrides = .ok s ∧
      (∃ costs, s.script = .costs costs ∧ costs.Valid) ∧
      (∃ costs, s.lua = .costs costs ∧ costs.Valid) ∧
      (∀ l, s.bound l = .ofAmount (b l)) ∧ s.Grades b 12 .high := by
  intro t environment costs overrides b
  have hbuild : CostTable.build [("goto_statement", .int 2)] = .ok costs := by
    refine congrArg Except.ok (funext fun k => ?_)
    cases k <;> rfl
  have hkeywords : Keywords overrides := by
    refine ⟨by decide, ?_⟩
    intro key x hx hkey
    cases List.mem_singleton.1 hx
    exact absurd hkey (by decide)
  have hscript : SectionsBuilt Setting.script? overrides := by
    intro key x c hx hc
    cases List.mem_singleton.1 hx
    cases hc
  have hlua : SectionsBuilt Setting.lua? overrides := by
    intro key x c hx hc
    cases List.mem_singleton.1 hx
    cases hc
    exact ⟨_, hbuild⟩
  have hok : (settings t environment none overrides).toOption.map
      (fun s => [s.bound .low, s.bound .normal, s.bound .high, s.bound .extreme].map Value.amount?) =
      some [some (b .low), some (b .normal), some (b .high), some (b .extreme)] := by
    decide +kernel
  obtain ⟨s, hs, hamounts⟩ := Option.map_eq_some_iff.1 hok
  have hs : settings t environment none overrides = .ok s := ok_of_toOption hs
  have hbounds : ∀ l, s.bound l = .ofAmount (b l) := by
    simp only [List.map_cons, List.map_nil, List.cons.injEq, and_true] at hamounts
    obtain ⟨hlow, hnormal, hhigh, hextreme⟩ := hamounts
    intro l
    cases l with
    | low => exact (Value.ofAmount_of_amount? hlow).symm
    | normal => exact (Value.ofAmount_of_amount? hnormal).symm
    | high => exact (Value.ofAmount_of_amount? hhigh).symm
    | extreme => exact (Value.ofAmount_of_amount? hextreme).symm
  obtain ⟨-, -, hvalid, hvalid', hlevels⟩ := settings_meet_constraints hs hkeywords hscript hlua
  obtain ⟨-, hgrades, -⟩ := hlevels b hbounds
  obtain ⟨l, hl⟩ := hgrades 12
  have hhigh : Level.high ≤ l := (hl.reached .high (by decide)).1 (by decide)
  have hextreme : ¬Level.extreme ≤ l := mt (hl.reached .extreme (by decide)).2 (by decide)
  have heq : l = .high := by
    cases l with
    | high => rfl
    | extreme => exact absurd le_rfl hextreme
    | _ => exact absurd hhigh (by decide)
  exact ⟨s, hs, hvalid, hvalid', hbounds, heq ▸ hl⟩

end Load

end ComplexityHints
