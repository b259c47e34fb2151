import ComplexityHints.Proofs.Reports
import ComplexityHints.Proofs.Settings.Levels
import ComplexityHints.Proofs.Settings.Precedence
import Mathlib.Tactic.Push

namespace ComplexityHints

namespace Value

theorem isSome_binary?_of_less {v w : Value} {b : Bool} (h : v.less w = .ok b) :
    v.binary?.isSome = w.binary?.isSome := by
  cases v <;> cases w <;> simp_all [less, binary?]

theorem isOk_reachedBy (bound : Value) (n : Int) :
    (bound.reachedBy n).isOk = bound.binary?.isSome := by
  rw [reachedBy]
  cases bound.binary? <;> rfl

end Value

namespace Settings

variable {s : Settings} {n : Int}

def Measures (s : Settings) : Prop := ∀ l, (s.bound l).binary?.isSome = true

/-- The settings have a message for a complexity: the template is a text, and so is the description of
its level. -/
def Words (s : Settings) (n : Int) : Prop :=
  (∃ template, s.template = .str template) ∧
    ∃ level text, s.level n = .ok level ∧ s.description level = .str text

/-- Bounds whose order was checked are numbers if one of them is. -/
theorem measures_iff
    (h : ascending [s.bound .low, s.bound .normal, s.bound .high, s.bound .extreme] = .ok true)
    (l : Level) : s.Measures ↔ (s.bound l).binary?.isSome = true := by
  have hchain := isChain_of_ascending h
  simp only [List.isChain_cons_cons, List.isChain_singleton, and_true] at hchain
  obtain ⟨hnormal, hhigh, hextreme⟩ := hchain
  have hnormal := Value.isSome_binary?_of_less hnormal
  have hhigh := Value.isSome_binary?_of_less hhigh
  have hextreme := Value.isSome_binary?_of_less hextreme
  have hsame (l' : Level) : (s.bound l').binary?.isSome = (s.bound l).binary?.isSome := by
    cases l <;> cases l' <;> simp_all
  constructor
  · intro hall
    exact hall l
  · intro hl l'
    rw [hsame, hl]

theorem Measures.exists_level (h : s.Measures) (n : Int) : ∃ l, s.level n = .ok l := by
  apply Settings.exists_level
  intro l
  rw [← isOk_iff, Value.isOk_reachedBy]
  exact h l

theorem isSome_extreme_of_level {l : Level} (h : s.level n = .ok l) :
    (s.bound .extreme).binary?.isSome = true := by
  obtain ⟨reached, hreached, -⟩ := ok_of_bind h
  rw [← Value.isOk_reachedBy _ n, hreached]
  rfl

theorem isOk_levelDescription
    (h : ascending [s.bound .low, s.bound .normal, s.bound .high, s.bound .extreme] = .ok true)
    (n : Int) : (s.levelDescription n).isOk = true ↔ s.Measures := by
  rw [levelDescription, isOk_bind_pure, isOk_iff]
  constructor
  · rintro ⟨l, hl⟩
    exact (measures_iff h .extreme).2 (isSome_extreme_of_level hl)
  · intro hmeasures
    exact hmeasures.exists_level n

theorem Measures.words (h : s.Measures) (htemplate : ∃ text, s.template = .str text)
    (hdescription : ∀ l, ∃ text, s.description l = .str text) (n : Int) : s.Words n := by
  obtain ⟨level, hlevel⟩ := h.exists_level n
  obtain ⟨text, htext⟩ := hdescription level
  exact ⟨htemplate, level, text, hlevel, htext⟩

end Settings

section Analysis

variable {s : Settings} {d : Document} {u : MetricUnit} {scorer : Scorer}

theorem MetricUnit.isOk_message :
    (u.message s).isOk = true ↔ u.visible = false ∨ s.Words u.collected := by
  rw [message]
  cases hvisible : u.visible with
  | false => exact iff_of_true rfl (.inl rfl)
  | true =>
    simp only [↓reduceIte, Bool.true_eq_false, false_or, Settings.Words]
    cases htemplate : s.template with
    | str template =>
      cases hlevel : s.level u.collected with
      | error fault =>
        rw [Settings.levelDescription, hlevel]
        simp [bind, Except.bind]
      | ok level =>
        rw [Settings.levelDescription, hlevel]
        cases hdescription : s.description level <;>
          simp [bind, Except.bind, pure, Except.pure, hdescription, throw, throwThe,
            MonadExceptOf.throw]
    | _ => simp [throw, throwThe, MonadExceptOf.throw]

theorem MetricUnit.isOk_message_of_kept (h : u.kept s = true) :
    (u.message s).isOk = true ↔ s.Words u.collected := by
  rw [isOk_message, visible_of_kept h]
  simp

theorem Diagnostic.isOk_ofUnits (s : Settings) (d : Document) (units : List MetricUnit) :
    (ofUnits s d units).isOk = true ↔
      s.diagnosticsEnabled.isTrue = false ∨ ∀ u ∈ units, u.visible = false ∨ s.Words u.collected := by
  rw [ofUnits]
  cases s.diagnosticsEnabled.isTrue with
  | false => simp
  | true =>
    have hunit (u : MetricUnit) : (ofUnit s d u).isOk = (u.message s).isOk := isOk_bind_pure
    simp [isOk_mapM, hunit, MetricUnit.isOk_message]

theorem Diagnostic.ofUnits_eq_error (s : Settings) (d : Document) (tree : MetricUnit) :
    (∃ fault, ofUnits s d (tree.keptUnits s) = .error fault) ↔
      s.diagnosticsEnabled.isTrue = true ∧ ∃ u ∈ tree.keptUnits s, ¬ s.Words u.collected := by
  rw [← isOk_eq_false, ← Bool.not_eq_true, isOk_ofUnits]
  push Not
  simp only [ne_eq, Bool.not_eq_false]
  apply and_congr_right
  intro _
  apply exists_congr
  intro u
  apply and_congr_right
  intro hu
  exact and_iff_right (MetricUnit.visible_of_kept (List.mem_filter.1 hu).2)

/-- An analysis publishes nothing exactly if its engine succeeds and, with diagnostics on, some kept unit
has no message. -/
theorem publication_eq_none : (analyzeWith scorer s d).publication = none ↔
    Gate.admits s d = true ∧ s.diagnosticsEnabled.isTrue = true ∧
      ∃ tree, scorer s d = .ok tree ∧ ∃ u ∈ tree.keptUnits s, ¬ s.Words u.collected := by
  rw [analyzeWith]
  cases hadmits : Gate.admits s d with
  | false => simp
  | true =>
    cases hscore : scorer s d with
    | error failure => simp
    | ok tree =>
      have htree := Diagnostic.ofUnits_eq_error s d tree
      simp only [↓reduceIte, Except.ok.injEq, exists_eq_left', true_and]
      rw [← htree]
      cases Diagnostic.ofUnits s d (tree.keptUnits s) <;> simp

/-- Behind the engine an analysis fails exactly when it publishes nothing. -/
theorem result_eq_fault {tree : MetricUnit} (hadmits : Gate.admits s d = true)
    (hscore : scorer s d = .ok tree) :
    (∃ failure, (analyzeWith scorer s d).result = .error failure) ↔
      (analyzeWith scorer s d).publication = none := by
  rw [analyzeWith, hadmits, hscore]
  simp only [↓reduceIte]
  cases Diagnostic.ofUnits s d (tree.keptUnits s) <;> simp

end Analysis

theorem Load.ascending_of_settings {t : FileTree} {environment : List (String × String)}
    {explicit : Option Path} {overrides : Merged} {s : Settings}
    (h : settings t environment explicit overrides = .ok s) :
    Settings.ascending [s.bound .low, s.bound .normal, s.bound .high, s.bound .extreme] = .ok true := by
  obtain ⟨_, _, -, -, h⟩ := settings_eq_ok h
  obtain ⟨_, _, -, -, h⟩ := build_eq_ok h
  exact Settings.ascending_of_build h

/-- What loaded settings can put into words. The level bounds are numbers all or none, and every complexity
has a description or none has. A visible unit has a message exactly if its complexity is worded, and
diagnostics need one for each unit. An analysis publishes nothing exactly if, with diagnostics on, a kept
unit has no message, and only then it fails behind its engine. With numbers and texts in their places every
complexity is worded. -/
theorem loaded_settings_wording {t : FileTree} {environment : List (String × String)}
    {explicit : Option Path} {overrides : Load.Merged} {s : Settings}
    (h : Load.settings t environment explicit overrides = .ok s) :
    (∀ l, s.Measures ↔ (s.bound l).binary?.isSome = true) ∧
    (∀ n, (s.levelDescription n).isOk = true ↔ s.Measures) ∧
    (∀ u : MetricUnit, (u.message s).isOk = true ↔ u.visible = false ∨ s.Words u.collected) ∧
    (∀ d units, (Diagnostic.ofUnits s d units).isOk = true ↔ s.diagnosticsEnabled.isTrue = false ∨
      ∀ u ∈ units, u.visible = false ∨ s.Words u.collected) ∧
    (∀ scorer d, (analyzeWith scorer s d).publication = none ↔
      Gate.admits s d = true ∧ s.diagnosticsEnabled.isTrue = true ∧
        ∃ tree, scorer s d = .ok tree ∧ ∃ u ∈ tree.keptUnits s, ¬ s.Words u.collected) ∧
    (∀ (scorer : Scorer) d tree, Gate.admits s d = true → scorer s d = .ok tree →
      ((∃ failure, (analyzeWith scorer s d).result = .error failure) ↔
        (analyzeWith scorer s d).publication = none)) ∧
    (s.Measures → (∃ text, s.template = .str text) →
      (∀ l, ∃ text, s.description l = .str text) → ∀ n, s.Words n) := by
  have hascending := Load.ascending_of_settings h
  exact ⟨Settings.measures_iff hascending, Settings.isOk_levelDescription hascending,
    fun _ => MetricUnit.isOk_message, Diagnostic.isOk_ofUnits s, fun _ _ => publication_eq_none,
    fun _ _ _ => result_eq_fault, Settings.Measures.words⟩

/-- A number for the description of the high level: low complexities have a message, high ones do not, and
an analysis that keeps a unit of high complexity publishes nothing. -/
theorem loaded_settings_wording_of_number :
    let w := Command.sampleWorld
      "file_size_limit_mb=-1\ndiagnostics_enabled=true\ncomplexity_level_high_description=5"
    let unit (cost : Int) := MetricUnit.mk 0 1 "function f" (.number cost) true "" []
    let scorer : Scorer := fun _ _ => .ok (.file 1 [unit 12])
    let d : Document := ⟨"a", "lua", [.scalar 'x'], 0⟩
    ∃ s, Load.settings w.tree w.environment none [] = .ok s ∧ s.Measures ∧
      (s.levelDescription 12).isOk = true ∧ ((unit 3).message s).isOk = true ∧
      ((unit 12).message s).isOk = false ∧ (analyzeWith scorer s d).publication = none := by
  intro w unit scorer d
  have hrun : (Load.settings w.tree w.environment none []).toOption.map (fun s =>
      ((s.bound .extreme).binary?.isSome, ((unit 3).message s).isOk, ((unit 12).message s).isOk)) =
      some (true, true, false) := by
    decide +kernel
  have hkept : (Load.settings w.tree w.environment none []).toOption.map (fun s =>
      (Gate.admits s d, s.diagnosticsEnabled.isTrue, (unit 12).kept s)) = some (true, true, true) := by
    decide +kernel
  obtain ⟨s, hload, hrun⟩ := Option.map_eq_some_iff.1 hrun
  rw [hload, Option.map_some, Option.some.injEq] at hkept
  obtain ⟨hextreme, hrun⟩ := Prod.mk.inj hrun
  obtain ⟨hlow, hhigh⟩ := Prod.mk.inj hrun
  obtain ⟨hadmits, hkept⟩ := Prod.mk.inj hkept
  obtain ⟨hon, hkept⟩ := Prod.mk.inj hkept
  have hload := ok_of_toOption hload
  obtain ⟨hbound, hlevels, hmessage, -, hpublication, -⟩ := loaded_settings_wording hload
  have hmeasures : s.Measures := (hbound .extreme).2 hextreme
  have hnot : ¬ s.Words 12 := by
    intro hwords
    rw [(hmessage (unit 12)).2 (.inr hwords)] at hhigh
    cases hhigh
  refine ⟨s, hload, hmeasures, (hlevels 12).2 hmeasures, hlow, hhigh, ?_⟩
  refine (hpublication scorer d).2 ⟨hadmits, hon, _, rfl, unit 12, ?_, hnot⟩
  exact List.mem_filter.2 ⟨.tail _ (.head _), hkept⟩

/-- Settings with a number for the description of the low level are accepted, and the engine scores the Lua
file; the unit that is kept has no message all the same, the analysis fails, and nothing is published. -/
theorem accepted_settings_lack_message :
    let w := Command.sampleWorld ("file_size_limit_mb=-1\ndiagnostics_enabled=true\n" ++
      "minimum_visible_complexity=0\ncomplexity_level_low_description=5")
    let d : Document := ⟨"file:///w/a.lua", "lua", Text.ofString "function f() end", 0⟩
    ∃ s tree u, Load.settings w.tree w.environment none [] = .ok s ∧ scoreDocument s d = .ok tree ∧
      u ∈ tree.keptUnits s ∧ (u.message s).isOk = false ∧
      (∃ failure, (analyze s d).result = .error failure) ∧ (analyze s d).publication = none := by
  intro w d
  have hrun : (Load.settings w.tree w.environment none []).toOption.map (fun s =>
      ((scoreDocument s d).toOption.map fun tree =>
          (tree.keptUnits s).map fun u => (u.message s).isOk,
        (analyze s d).result.isOk, (analyze s d).publication)) =
      some (some [false], false, none) := by
    decide +kernel
  obtain ⟨s, hs, hrun⟩ := Option.map_eq_some_iff.1 hrun
  obtain ⟨htree, hrun⟩ := Prod.mk.inj hrun
  obtain ⟨hresult, hpublication⟩ := Prod.mk.inj hrun
  obtain ⟨tree, htree, hkept⟩ := Option.map_eq_some_iff.1 htree
  obtain ⟨u, hu, hmessage⟩ := List.mem_map.1 (hkept ▸ List.mem_singleton_self false)
  exact ⟨s, tree, u, ok_of_toOption hs, ok_of_toOption htree, hu, hmessage,
    isOk_eq_false.1 hresult, hpublication⟩

end ComplexityHints
