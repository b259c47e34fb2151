import ComplexityHints.Files.Snapshot
import ComplexityHints.Proofs.Score.Total
import ComplexityHints.Proofs.Settings.Fields
import ComplexityHints.Proofs.Settings.Merge

namespace ComplexityHints

namespace Environment

open Settings (FieldKind)

variable {environment : List (String × String)} {fields : Keyed FieldKind} {ambient : Keyed Value}

def value? (environment : List (String × String)) (field : String) (kind : FieldKind) :
    Option Value :=
  (environment.lookup (variableName field)).bind fun s => (read kind s).toOption.join

theorem settings_cons_eq_ok {field : String} {kind : FieldKind}
    (h : settings environment ((field, kind) :: fields) = .ok ambient) :
    ∃ rest, settings environment fields = .ok rest ∧
      ambient = ((value? environment field kind).map (field, ·)).toList ++ rest := by
  rw [settings] at h
  split at h
  · rename_i hnone
    exact ⟨ambient, h, by simp [value?, hnone]⟩
  · rename_i s hs
    split at h
    · cases h
    · rename_i hread
      exact ⟨ambient, h, by simp [value?, hs, hread, Except.toOption]⟩
    · rename_i v hread
      obtain ⟨rest, hrest, h⟩ := ok_of_bind h
      cases h
      exact ⟨rest, hrest, by simp [value?, hs, hread, Except.toOption]⟩

theorem lookup_settings (hfields : fields.Distinct)
    (h : settings environment fields = .ok ambient) :
    ambient.Distinct ∧
      ∀ field, ambient.lookup field = (fields.lookup field).bind (value? environment field) := by
  induction fields generalizing ambient with
  | nil =>
    cases h
    exact ⟨List.nodup_nil, fun _ => rfl⟩
  | cons e fields ih =>
    obtain ⟨key, kind⟩ := e
    obtain ⟨hnotMem, hfields⟩ := hfields.of_cons
    obtain ⟨rest, hrest, rfl⟩ := settings_cons_eq_ok h
    obtain ⟨hdistinct, hlookup⟩ := ih hfields hrest
    have hnone : rest.lookup key = none := by
      rw [hlookup, Keyed.lookup_eq_none hnotMem, Option.bind_none]
    cases hv : value? environment key kind with
    | none =>
      refine ⟨by simpa using hdistinct, ?_⟩
      intro field
      by_cases hfield : field = key
      · subst hfield
        simp [hnone, hv]
      · simp [hlookup, Keyed.lookup_cons_of_ne hfield]
    | some v =>
      refine ⟨List.nodup_cons.2 ⟨Keyed.not_mem_of_lookup hnone, hdistinct⟩, ?_⟩
      intro field
      by_cases hfield : field = key
      · subst hfield
        simp [hv]
      · simp [hlookup, Keyed.lookup_cons_of_ne hfield]

end Environment

theorem Settings.fields_distinct : Keyed.Distinct Settings.fields := by
  decide

theorem Field.lookup_fields (f : Field) : Settings.fields.lookup f.name = some f.kind :=
  Settings.fields_distinct.lookup_of_mem f.mem_fields

theorem Field.isSection_name (f : Field) : Load.isSection f.name = false := by
  cases f with
  | enabled language => cases language <;> decide
  | bound level => cases level <;> decide
  | description level => cases level <;> decide
  | _ => decide

namespace Load

open Keyed (put putAll)

/-- Overrides as a caller gives them: each under a key of its own, and nothing but plain values for
the fields outside the sections. -/
structure Keywords (overrides : Merged) : Prop where
  distinct : overrides.Distinct
  plain : ∀ key s, (key, s) ∈ overrides → isSection key = false → ∃ v, s = .plain v

theorem distinct_given {overrides : Merged} (h : overrides.Distinct) :
    Keyed.Distinct (given overrides) := by
  refine h.sublist ?_
  exact List.filter_sublist.map _

/-- What is merged for a key comes from the overrides, or else from the environment, or else from the
files. -/
theorem lookup_putAll_sources {environment : List (String × String)} {ambient : Keyed Value}
    {overrides : Merged} (hambient : Environment.settings environment Settings.fields = .ok ambient)
    (hoverrides : overrides.Distinct) (m : Merged) (key : String) :
    (putAll (putAll m (ambient.map fun (key, v) => (key, .plain v))) (given overrides)).lookup key =
      ((given overrides).lookup key).or
        ((((Settings.fields.lookup key).bind (Environment.value? environment key)).map .plain).or
          (m.lookup key)) := by
  obtain ⟨hdistinct, hlookup⟩ := Environment.lookup_settings Settings.fields_distinct hambient
  have hplain : Keyed.Distinct (ambient.map fun (key, v) => (key, Setting.plain v)) := by
    simpa [Keyed.Distinct, Function.comp_def] using hdistinct
  rw [Keyed.lookup_putAll (distinct_given hoverrides), Keyed.lookup_putAll hplain,
    Keyed.lookup_map_snd, hlookup]

section Sections

variable {κ : Type} [Construct κ] {wrap : CostTable κ → Setting}
  {built? : Setting → Option (CostTable κ)} {m m' : Merged}

theorem lookup_buildSection_of_ne {key : String} (hkey : key ≠ Construct.table κ)
    (h : buildSection κ wrap built? m = .ok m') : m'.lookup key = m.lookup key := by
  have hothers (s : Setting) : List.lookup key
      (m.filter (·.1 ≠ Construct.table κ) ++ [(Construct.table κ, s)]) = m.lookup key := by
    rw [List.lookup_append, Keyed.lookup_filter_ne hkey, Keyed.lookup_cons_of_ne hkey]
    simp
  rw [buildSection] at h
  split at h
  · cases h
    exact Keyed.lookup_filter_ne hkey m
  · cases h
    exact Keyed.lookup_filter_ne hkey m
  · cases h
  · obtain ⟨costs, -, h⟩ := ok_of_bind h
    cases h
    exact hothers _
  · split at h
    · cases h
      exact hothers _
    · cases h

def costOf? (built? : Setting → Option (CostTable κ)) (s : Setting) (k : κ) : Option Value :=
  match s with
  | .plain (.table entries) => entries.lookup (Construct.name k)
  | s => (built? s).map fun costs => .ofAmount (costs k)

theorem build_of_sectionOf {v : Value} {costs : CostTable κ} (h : sectionOf κ v = .ok costs) :
    ∃ entries, v = .table entries ∧ CostTable.build entries = .ok costs := by
  rw [sectionOf.eq_def] at h
  split at h
  · rename_i entries
    split at h
    · rename_i hcosts
      cases h
      exact ⟨entries, rfl, hcosts⟩
    · cases h
    · cases h
  · cases h

theorem lookup_buildSection (hall : ∀ k : κ, k ∈ Construct.all)
    (hbuilt : ∀ v, built? (.plain v) = none) (h : buildSection κ wrap built? m = .ok m') :
    ∃ o : Option (CostTable κ), m'.lookup (Construct.table κ) = o.map wrap ∧
      ∀ k, Value.ofAmount (o.getD .default k) =
        ((m.lookup (Construct.table κ)).bind (costOf? built? · k)).getD
          (.ofAmount (CostTable.default k)) := by
  have hown (s : Setting) : List.lookup (Construct.table κ)
      (m.filter (·.1 ≠ Construct.table κ) ++ [(Construct.table κ, s)]) = some s := by
    rw [List.lookup_append, Keyed.lookup_filter_self]
    simp
  rw [buildSection] at h
  split at h
  · rename_i hm
    cases h
    exact ⟨none, Keyed.lookup_filter_self _ m, by simp [hm]⟩
  · rename_i hm
    cases h
    exact ⟨none, Keyed.lookup_filter_self _ m, by simp [hm, costOf?, hbuilt]⟩
  · cases h
  · rename_i v _ hm
    obtain ⟨costs, hcosts, h⟩ := ok_of_bind h
    cases h
    obtain ⟨entries, rfl, hbuild⟩ := build_of_sectionOf hcosts
    refine ⟨some costs, hown _, ?_⟩
    intro k
    simpa [hm, costOf?] using CostTable.ofAmount_of_build hall hbuild k
  · rename_i s _ _ _ hm
    split at h
    · rename_i costs hcosts
      cases h
      refine ⟨some costs, hown _, ?_⟩
      intro k
      cases s with
      | plain v => simp [hbuilt] at hcosts
      | _ => simp [hm, costOf?, hcosts]
    · cases h

end Sections

/-- The value that a field is given by the highest source that sets it. -/
def fieldSource? (t : FileTree) (environment : List (String × String)) (explicit : Option Path)
    (overrides : Merged) (f : Field) : Option Value :=
  ((given overrides).lookup f.name).bind Setting.plain? <|>
    Environment.value? environment f.name f.kind <|>
    (documents t explicit).reverse.findSome? (·.lookup f.name)

/-- The value that a cost is given: by an override of its section if there is one, and else by the
highest file that sets it. -/
def costSource? {κ : Type} [Construct κ] (built? : Setting → Option (CostTable κ)) (t : FileTree)
    (explicit : Option Path) (overrides : Merged) (k : κ) : Option Value :=
  match (given overrides).lookup (Construct.table κ) with
  | some s => costOf? built? s k
  | none =>
    (documents t explicit).reverse.findSome? (costIn? (Construct.table κ) (Construct.name k))

theorem settings_eq_ok {t : FileTree} {environment : List (String × String)}
    {explicit : Option Path} {overrides : Merged} {s : Settings}
    (h : settings t environment explicit overrides = .ok s) :
    ∃ m ambient, mergeFiles t explicit = .ok m ∧
      Environment.settings environment Settings.fields = .ok ambient ∧
      build (putAll (putAll m (ambient.map fun (key, v) => (key, .plain v))) (given overrides)) =
        .ok s := by
  obtain ⟨m, hm, h⟩ := ok_of_bind h
  obtain ⟨ambient, hambient, h⟩ := ok_of_bind h
  exact ⟨m, ambient, hm, hambient, h⟩

theorem build_eq_ok {m : Merged} {s : Settings} (h : build m = .ok s) :
    ∃ m₁ m₂, buildSection ScriptConstruct .script Setting.script? m = .ok m₁ ∧
      buildSection LuaConstruct .lua Setting.lua? m₁ = .ok m₂ ∧ Settings.build m₂ = .ok s := by
  obtain ⟨m₁, h₁, h⟩ := ok_of_bind h
  obtain ⟨m₂, h₂, h⟩ := ok_of_bind h
  split at h
  · rename_i hs
    cases h
    exact ⟨m₁, m₂, h₁, h₂, hs⟩
  · cases h
  · cases h

theorem Keywords.lookup_given {overrides : Merged} (h : Keywords overrides) (f : Field) :
    (given overrides).lookup f.name =
      (((given overrides).lookup f.name).bind Setting.plain?).map .plain := by
  cases hs : (given overrides).lookup f.name with
  | none => rfl
  | some s =>
    have hmem := (List.mem_filter.1 (Keyed.mem_of_lookup hs)).1
    obtain ⟨v, rfl⟩ := h.plain _ s hmem f.isSection_name
    rfl

section Run

variable {t : FileTree} {environment : List (String × String)} {explicit : Option Path}
  {overrides m : Merged} {ambient : Keyed Value}

theorem lookup_field (hoverrides : Keywords overrides)
    (hm : (documents t explicit).foldlM mergeFile [] = .ok m)
    (hambient : Environment.settings environment Settings.fields = .ok ambient) (f : Field) :
    (putAll (putAll m (ambient.map fun (key, v) => (key, .plain v))) (given overrides)).lookup
      f.name = (fieldSource? t environment explicit overrides f).map .plain := by
  have hdocs (d) (hd : d ∈ documents t explicit) := (setOnce_of_mem_documents hd).distinct
  rw [lookup_putAll_sources hambient hoverrides.distinct, hoverrides.lookup_given,
    f.lookup_fields, Option.bind_some, lookup_foldlM_mergeFile f.isSection_name hdocs hm,
    List.lookup_nil, Option.or_none]
  simp only [fieldSource?, Option.orElse_eq_orElse, Option.orElse_eq_or, Option.map_or]

/-- The costs that are merged for a section are those of its override or of the highest files. -/
theorem costOf?_lookup {κ : Type} [Construct κ] {built? : Setting → Option (CostTable κ)}
    (hsection : isSection (Construct.table κ) = true)
    (hkind : Settings.fields.lookup (Construct.table κ) = some .other)
    (hoverrides : overrides.Distinct)
    (htables : ∀ d ∈ documents t explicit, SectionsAreTables d)
    (hm : (documents t explicit).foldlM mergeFile [] = .ok m)
    (hambient : Environment.settings environment Settings.fields = .ok ambient) (k : κ) :
    ((putAll (putAll m (ambient.map fun (key, v) => (key, .plain v))) (given overrides)).lookup
      (Construct.table κ)).bind (costOf? built? · k) =
        costSource? built? t explicit overrides k := by
  have hignored : Environment.value? environment (Construct.table κ) .other = none := by
    rw [Environment.value?]
    cases environment.lookup (Environment.variableName (Construct.table κ)) <;> rfl
  obtain ⟨o, ho, hcosts⟩ := costs_foldlM_mergeFile hsection
    (fun d hd => setOnce_of_mem_documents hd) htables (o := none) rfl hm
  rw [lookup_putAll_sources hambient hoverrides, hkind, Option.bind_some, hignored,
    Option.map_none, Option.none_or, costSource?]
  cases (given overrides).lookup (Construct.table κ) with
  | some s => rfl
  | none =>
    have hname := hcosts (Construct.name k)
    rw [Option.getD_none, List.lookup_nil, Option.or_none] at hname
    rw [Option.none_or, ho, ← hname]
    cases o <;> rfl

end Run

/-- Loaded settings hold in every field the value of the highest source that sets it, or the default,
and give every construct the cost of the highest source that sets it, or the default. -/
theorem settings_precedence {t : FileTree} {environment : List (String × String)}
    {explicit : Option Path} {overrides : Merged} {s : Settings}
    (h : settings t environment explicit overrides = .ok s) (hoverrides : Keywords overrides)
    (htables : ∀ d ∈ documents t explicit, SectionsAreTables d) :
    (∀ f : Field, s.value f =
      f.holds ((fieldSource? t environment explicit overrides f).getD f.default)) ∧
    (∃ costs, s.script = .costs costs ∧ ∀ k, Value.ofAmount (costs k) =
      (costSource? Setting.script? t explicit overrides k).getD
        (.ofAmount (CostTable.default k))) ∧
    ∃ costs, s.lua = .costs costs ∧ ∀ k, Value.ofAmount (costs k) =
      (costSource? Setting.lua? t explicit overrides k).getD
        (.ofAmount (CostTable.default k)) := by
  obtain ⟨m, ambient, hm, hambient, h⟩ := settings_eq_ok h
  obtain ⟨m₁, m₂, h₁, h₂, h⟩ := build_eq_ok h
  have hm := mergeFiles_eq_ok hm
  obtain ⟨exclude, minimumVisible, -, -, hs⟩ := Settings.assemble_of_build h
  refine ⟨?_, ?_, ?_⟩
  · intro f
    have hname := f.isSection_name
    have hscript : f.name ≠ "script" := fun heq => absurd (heq ▸ hname) (by decide)
    have hlua : f.name ≠ "lua" := fun heq => absurd (heq ▸ hname) (by decide)
    refine Settings.value_of_build h ?_
    rw [lookup_buildSection_of_ne hlua h₂, lookup_buildSection_of_ne hscript h₁,
      lookup_field hoverrides hm hambient]
  · obtain ⟨o, ho, hcosts⟩ := lookup_buildSection Score.Script.mem_all (fun _ => rfl) h₁
    refine ⟨o.getD .default, ?_, ?_⟩
    · have hscript : m₂.lookup "script" = o.map .script :=
        (lookup_buildSection_of_ne (by decide) h₂).trans ho
      rw [hs, Settings.assemble]
      dsimp only
      rw [hscript]
      cases o <;> rfl
    · intro k
      rw [hcosts, costOf?_lookup rfl rfl hoverrides.distinct htables hm hambient]
  · obtain ⟨o, ho, hcosts⟩ := lookup_buildSection Score.Lua.mem_all (fun _ => rfl) h₂
    refine ⟨o.getD .default, ?_, ?_⟩
    · have hlua : m₂.lookup "lua" = o.map .lua := ho
      rw [hs, Settings.assemble]
      dsimp only
      rw [hlua]
      cases o <;> rfl
    · intro k
      rw [hcosts, lookup_buildSection_of_ne (by decide) h₁,
        costOf?_lookup rfl rfl hoverrides.distinct htables hm hambient]

/-- The home file, the file of the project and the explicit one set costs and fields, a date among them;
one field the environment sets too, and the variable of the exclusion list is ignored. -/
theorem settings_precedence_of_layers :
    let t : FileTree := Snapshot.tree
      { directory := ["w"], home := ["h"], directories := []
        files := [
          (["h", ".codemetrics.toml"], Utf8.encode
            "exclude=['h']\nscript.if_statement=2\nscript.else_clause=3".toList),
          (["w", "codemetrics.toml"], Utf8.encode "script.if_statement=4".toList),
          (["w", "x"], Utf8.encode
            "complexity_template='x'\ncomplexity_level_low_description=1979-05-27".toList)] }
    let environment := [("CODEMETRICS_COMPLEXITY_TEMPLATE", "e"), ("CODEMETRICS_EXCLUDE", "e")]
    let overrides : Merged := [("minimum_visible_complexity", .plain .null),
      ("lua", .plain (.table [("goto_statement", .int 2)]))]
    ∃ s, settings t environment (some ⟨false, ["x"]⟩) overrides = .ok s ∧
      [Field.exclude, .template, .description .low, .minimumVisible].map (fun f => (s.value f).text) =
        ["['h']", "e", "1979-05-27", "5"] ∧
      (∃ costs, s.script = .costs costs ∧ [ScriptConstruct.ifStatement, .elseClause].map
        (fun k => (Value.ofAmount (costs k)).text) = ["4", "3"]) ∧
      ∃ costs, s.lua = .costs costs ∧ (Value.ofAmount (costs .gotoStatement)).text = "2" := by
  intro t environment overrides
  have hok : (settings t environment (some ⟨false, ["x"]⟩) overrides).toOption.isSome = true := by
    decide +kernel
  obtain ⟨s, hs⟩ := ok_of_isSome hok
  have hkeywords : Keywords overrides := by
    refine ⟨by decide, ?_⟩
    intro key x hx hkey
    rcases List.mem_cons.1 hx with heq | hx
    · cases heq
      exact ⟨_, rfl⟩
    · cases List.mem_singleton.1 hx
      exact ⟨_, rfl⟩
  have htables : ∀ d ∈ documents t (some ⟨false, ["x"]⟩), SectionsAreTables d := by decide +kernel
  obtain ⟨hfields, ⟨script, hscript, hcosts⟩, lua, hlua, hcosts'⟩ :=
    settings_precedence hs hkeywords htables
  refine ⟨s, hs, ?_, ⟨script, hscript, ?_⟩, lua, hlua, ?_⟩
  · simp only [hfields]
    decide +kernel
  · simp only [hcosts]
    decide +kernel
  · rw [hcosts']
    decide +kernel

end Load

end ComplexityHints
