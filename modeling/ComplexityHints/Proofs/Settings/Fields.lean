import ComplexityHints.Proofs.Failure

namespace ComplexityHints

/-- A setting that is no section. -/
inductive Field where
  | exclude
  | fileSizeLimit
  | enabled (language : Language)
  | minimumVisible
  | diagnosticsEnabled
  | template
  | bound (level : Level)
  | description (level : Level)

namespace Settings

def value (s : Settings) : Field → Value
  | .exclude => .list (s.exclude.map .str)
  | .fileSizeLimit => s.fileSizeLimit
  | .enabled language => s.enabled language
  | .minimumVisible => .ofAmount s.minimumVisible
  | .diagnosticsEnabled => s.diagnosticsEnabled
  | .template => s.template
  | .bound level => s.bound level
  | .description level => s.description level

end Settings

namespace Field

def name : Field → String
  | exclude => "exclude"
  | fileSizeLimit => "file_size_limit_mb"
  | enabled language => language.flag
  | minimumVisible => "minimum_visible_complexity"
  | diagnosticsEnabled => "diagnostics_enabled"
  | template => "complexity_template"
  | bound level => s!"complexity_level_{level.name}"
  | description level => s!"complexity_level_{level.name}_description"

def kind : Field → Settings.FieldKind
  | exclude => .other
  | fileSizeLimit => .float
  | enabled _ => .bool
  | minimumVisible => .int
  | diagnosticsEnabled => .bool
  | template => .str
  | bound _ => .int
  | description _ => .str

def default (f : Field) : Value := ({} : Settings).value f

/-- What a field holds of a value that it is given. The exclusion list takes the keys of a table;
every other field takes the value as it is. -/
def holds : Field → Value → Value
  | exclude, .table entries => .list (entries.map fun (key, _) => .str key)
  | _, v => v

theorem mem_fields (f : Field) : (f.name, f.kind) ∈ Settings.fields := by
  cases f with
  | enabled language => cases language <;> decide
  | bound level => cases level <;> decide
  | description level => cases level <;> decide
  | _ => decide

end Field

theorem Value.ofAmount_of_amount? {v : Value} {a : Amount} (h : v.amount? = some a) :
    Value.ofAmount a = v := by
  cases v with
  | int n =>
    cases h
    rfl
  | bool on =>
    cases h
    rfl
  | _ => cases h

namespace Settings

theorem eq_map_str_of_mapM {items : List Value} {ss : List String}
    (h : (items.mapM fun | .str s => some s | _ => none) = some ss) : items = ss.map .str := by
  induction items generalizing ss with
  | nil =>
    cases h
    rfl
  | cons v items ih =>
    rw [List.mapM_cons] at h
    obtain ⟨s, hs, h⟩ := Option.bind_eq_some_iff.1 h
    obtain ⟨rest, hrest, h⟩ := Option.bind_eq_some_iff.1 h
    cases h
    split at hs
    · cases hs
      rw [ih hrest, List.map_cons]
    · cases hs

theorem list_of_patterns {v : Value} {ss : List String} (h : patterns v = .ok ss) :
    Value.list (ss.map .str) = Field.exclude.holds v := by
  rw [patterns.eq_def] at h
  split at h
  · cases h
    simp [Field.holds]
  · split at h
    · rename_i hitems
      cases h
      rw [Field.holds, eq_map_str_of_mapM hitems]
      simp
    · cases h
  · cases h
  · cases h

theorem ofAmount_of_threshold {v : Value} {a : Amount} (h : threshold v = .ok a) :
    Value.ofAmount a = v := by
  rw [threshold] at h
  split at h
  · rename_i ha
    cases h
    exact Value.ofAmount_of_amount? ha
  · cases h

theorem assemble_of_build {given : List (String × Setting)} {s : Settings}
    (h : build given = .ok s) :
    ∃ exclude minimumVisible,
      patterns (plainOr given "exclude" Field.exclude.default) = .ok exclude ∧
      threshold (plainOr given "minimum_visible_complexity" Field.minimumVisible.default) =
        .ok minimumVisible ∧
      s = assemble given exclude minimumVisible := by
  rw [build] at h
  split at h
  · cases h
  · obtain ⟨exclude, hexclude, h⟩ := ok_of_bind h
    obtain ⟨minimumVisible, hminimum, h⟩ := ok_of_bind h
    obtain ⟨inOrder, -, h⟩ := ok_of_bind h
    split at h
    · cases h
      exact ⟨exclude, minimumVisible, hexclude, hminimum, rfl⟩
    · cases h

theorem plainOr_of_lookup {given : List (String × Setting)} {key : String} {o : Option Value}
    (h : given.lookup key = o.map .plain) (default : Value) :
    plainOr given key default = o.getD default := by
  cases o <;> simp [plainOr, h]

/-- Every field holds the value that is given under its name, or its default. -/
theorem value_of_build {given : List (String × Setting)} {s : Settings} (h : build given = .ok s)
    {f : Field} {o : Option Value} (hf : given.lookup f.name = o.map .plain) :
    s.value f = f.holds (o.getD f.default) := by
  obtain ⟨exclude, minimumVisible, hexclude, hminimum, rfl⟩ := assemble_of_build h
  rw [← plainOr_of_lookup hf]
  cases f with
  | exclude => exact list_of_patterns hexclude
  | minimumVisible => exact ofAmount_of_threshold hminimum
  | _ => rfl

end Settings

namespace CostTable

variable {κ : Type} [Construct κ] {entries : List (String × Value)}

theorem ofAmount_of_entryCost {k : κ} {a : Amount} (h : entryCost entries k = .ok a) :
    Value.ofAmount a = (entries.lookup (Construct.name k)).getD (.ofAmount (default k)) := by
  rw [entryCost] at h
  split at h
  · rename_i hnone
    cases h
    rw [hnone, Option.getD_none]
  · rename_i v hv
    split at h
    · rename_i ha
      cases h
      rw [hv, Option.getD_some]
      exact Value.ofAmount_of_amount? (Option.filter_eq_some_iff.1 ha).1
    · cases h

theorem ofAmount_of_build (hall : ∀ k : κ, k ∈ Construct.all) {costs : CostTable κ}
    (h : build entries = .ok costs) (k : κ) :
    Value.ofAmount (costs k) =
      (entries.lookup (Construct.name k)).getD (.ofAmount (default k)) := by
  rw [build] at h
  split at h
  · cases h
  · split at h
    · cases h
    · rename_i hnone
      cases h
      have hk := List.findSome?_eq_none_iff.1 hnone k (hall k)
      split at hk
      · rename_i a ha
        simp only [ha]
        exact ofAmount_of_entryCost ha
      · cases hk

end CostTable

end ComplexityHints
