import ComplexityHints.Proofs.Metric.Kept
import ComplexityHints.Proofs.Settings.Threshold
import ComplexityHints.Proofs.Wording
import Mathlib.Tactic.Choose

namespace ComplexityHints

variable {s : Settings} {b : Level → Amount}

def FailOn.Reached (b : Level → Amount) (u : MetricUnit) : FailOn → Prop
  | any => True
  | high => (b .high).toInt ≤ u.collected
  | extreme => (b .extreme).toInt ≤ u.collected

/-- The limit of a run is passed: the reports over it can be counted, and there are some. -/
def FailOn.Passed (f : FailOn) (s : Settings) (reports : List FileReport) : Prop :=
  ∃ n, f.hits s reports = .ok n ∧ 0 < n

section Reports

variable {r : FileReport}

theorem FileReport.le_maxComplexity (hr : r.units ≠ []) (n : Int) :
    n ≤ r.maxComplexity ↔ ∃ u ∈ r.units, n ≤ u.collected := by
  have hunits : (∃ u ∈ r.units, n ≤ u.collected) ↔
      ∃ c ∈ r.units.map MetricUnit.collected, n ≤ c := by
    simp
  obtain ⟨c, cs, hcs⟩ : ∃ c cs, r.units.map MetricUnit.collected = c :: cs :=
    List.exists_cons_of_ne_nil (by simpa using hr)
  obtain ⟨hmem, hle⟩ := List.max?_eq_some_iff.1 (List.max?_cons' : (c :: cs).max? = some (cs.foldl max c))
  rw [hunits, maxComplexity, hcs]
  constructor
  · intro h
    exact ⟨_, hmem, h⟩
  · rintro ⟨c', hc', h⟩
    exact h.trans (hle c' hc')

theorem FailOn.exists_hit (hb : ∀ l, s.bound l = .ofAmount (b l)) (f : FailOn) (r : FileReport) :
    ∃ hit, f.hit s r = .ok hit ∧ (hit = true ↔ ∃ u ∈ r.units, f.Reached b u) := by
  by_cases hr : r.units = []
  · exact ⟨false, by unfold hit; rw [hr]; rfl, by simp [hr]⟩
  · have hnonempty : r.units.isEmpty = false := List.isEmpty_eq_false_iff.2 hr
    have hlevel (l : Level) : ∃ hit, (s.bound l).reachedBy r.maxComplexity = .ok hit ∧
        (hit = true ↔ ∃ u ∈ r.units, (b l).toInt ≤ u.collected) := by
      rw [hb, Value.reachedBy_ofAmount, ← r.le_maxComplexity hr]
      exact ⟨_, rfl, decide_eq_true_iff⟩
    unfold hit
    rw [hnonempty]
    cases f with
    | any => exact ⟨true, rfl, by simpa [Reached] using List.exists_mem_of_ne_nil _ hr⟩
    | high => exact hlevel .high
    | extreme => exact hlevel .extreme

theorem FailOn.exists_hits (hb : ∀ l, s.bound l = .ofAmount (b l)) (f : FailOn)
    (reports : List FileReport) :
    ∃ n, f.hits s reports = .ok n ∧
      (0 < n ↔ ∃ report ∈ reports, ∃ u ∈ report.units, f.Reached b u) := by
  choose mark hmark hreached using FailOn.exists_hit hb f
  refine ⟨(reports.map mark).count true, by rw [hits, mapM_eq_ok fun r _ => hmark r]; rfl, ?_⟩
  rw [List.count_pos_iff, List.mem_map]
  simp only [hreached]

theorem FailOn.passed_iff (hb : ∀ l, s.bound l = .ofAmount (b l)) (f : FailOn)
    (reports : List FileReport) :
    f.Passed s reports ↔ ∃ report ∈ reports, ∃ u ∈ report.units, f.Reached b u := by
  obtain ⟨n, hn, hpos⟩ := FailOn.exists_hits hb f reports
  rw [Passed, ← hpos, hn]
  simp

theorem FailOn.hits_ne_zero_iff (hb : ∀ l, s.bound l = .ofAmount (b l)) (f : FailOn)
    (reports : List FileReport) : f.hits s reports ≠ .ok 0 ↔ f.Passed s reports := by
  obtain ⟨n, hn, -⟩ := FailOn.exists_hits hb f reports
  rw [Passed, hn]
  simp [Nat.pos_iff_ne_zero]

theorem FileReport.Consistent.not_written (h : r.Consistent s) :
    ¬ r.Written s ↔ ∃ u ∈ r.units, ¬ s.Words u.collected := by
  rw [FileReport.Written]
  push Not
  apply exists_congr
  intro u
  apply and_congr_right
  intro hu
  rw [Ne, MetricUnit.isOk_message_of_kept (h.kept u hu)]

end Reports

/-- An engine that does not look at the threshold. -/
def Scorer.Steady (scorer : Scorer) : Prop := ∀ s a d, scorer (s.withThreshold a) d = scorer s d

theorem scoreDocument_steady : Scorer.Steady scoreDocument := by
  intro s a d
  rw [scoreDocument, scoreDocument, Engine.compute, Engine.compute]
  cases Engine.ofLanguage d.languageId <;> rfl

section Analysis

variable {scorer : Scorer} {d : Document}

theorem result_eq_error : (∃ failure, (analyzeWith scorer s d).result = .error failure) ↔
    Gate.admits s d = true ∧ ((∃ failure, scorer s d = .error failure) ∨
      ∃ tree, scorer s d = .ok tree ∧
        (Diagnostic.ofUnits s d (tree.keptUnits s)).isOk = false) := by
  rw [analyzeWith]
  cases Gate.admits s d with
  | false => simp
  | true =>
    cases scorer s d with
    | error failure => simp
    | ok tree => cases hxs : Diagnostic.ofUnits s d (tree.keptUnits s) <;> simp [hxs]

theorem mem_result {u : MetricUnit} :
    (∃ units, (analyzeWith scorer s d).result = .ok units ∧ u ∈ units) ↔
      Gate.admits s d = true ∧ ∃ tree, scorer s d = .ok tree ∧
        (Diagnostic.ofUnits s d (tree.keptUnits s)).isOk = true ∧ u ∈ tree.keptUnits s := by
  rw [analyzeWith]
  cases Gate.admits s d with
  | false => simp
  | true =>
    cases scorer s d with
    | error failure => simp
    | ok tree => cases hxs : Diagnostic.ofUnits s d (tree.keptUnits s) <;> simp [hxs]

end Analysis

namespace Command

variable {scorer : Scorer} {w : World} {language : Option String} {p : Path} {d : Document}
  {tree u : MetricUnit} {board : Board}

structure Scored (scorer : Scorer) (w : World) (s : Settings) (language : Option String) (p : Path)
    (d : Document) (tree : MetricUnit) : Prop where
  loaded : loadDocument w.tree p language = .ok d
  admitted : Gate.admits s d = true
  scored : scorer s d = .ok tree

/-- A file whose analysis comes to its end: behind the engine its diagnostics are written. -/
structure Analyzed (scorer : Scorer) (w : World) (s : Settings) (language : Option String) (p : Path)
    (d : Document) (tree : MetricUnit) : Prop extends Scored scorer w s language p d tree where
  written : (Diagnostic.ofUnits s d (tree.keptUnits s)).isOk = true

/-- A file whose analysis comes to no end. -/
inductive Stuck (scorer : Scorer) (w : World) (s : Settings) (language : Option String) (p : Path) :
    Prop
  | unreadable {failure : Failure} (h : loadDocument w.tree p language = .error failure)
  | unscored {d : Document} {failure : Failure} (hload : loadDocument w.tree p language = .ok d)
      (hadmits : Gate.admits s d = true) (hscore : scorer s d = .error failure)
  | unwritten {d : Document} {tree : MetricUnit} (h : Scored scorer w s language p d tree)
      (hwritten : (Diagnostic.ofUnits s d (tree.keptUnits s)).isOk = false)

theorem error_fileReport :
    (fileReport scorer w s language board p).1.error ≠ none ↔ Stuck scorer w s language p := by
  have herror : (fileReport scorer w s language board p).1.error ≠ none ↔
      (∃ failure, loadDocument w.tree p language = .error failure) ∨
        ∃ d, loadDocument w.tree p language = .ok d ∧
          ∃ failure, (analyzeWith scorer s d).result = .error failure := by
    rw [fileReport]
    cases loadDocument w.tree p language with
    | error failure => simp
    | ok d => rcases hresult : (analyzeWith scorer s d).result with (_ | _) | units <;> simp [hresult]
  rw [herror]
  simp only [result_eq_error]
  constructor
  · rintro (⟨failure, h⟩ | ⟨d, hload, hadmits, ⟨failure, hscore⟩ | ⟨tree, hscore, hwritten⟩⟩)
    · exact .unreadable h
    · exact .unscored hload hadmits hscore
    · exact .unwritten ⟨hload, hadmits, hscore⟩ hwritten
  · rintro (h | ⟨hload, hadmits, hscore⟩ | ⟨⟨hload, hadmits, hscore⟩, hwritten⟩)
    · exact .inl ⟨_, h⟩
    · exact .inr ⟨_, hload, hadmits, .inl ⟨_, hscore⟩⟩
    · exact .inr ⟨_, hload, hadmits, .inr ⟨_, hscore, hwritten⟩⟩

theorem mem_units_fileReport :
    u ∈ (fileReport scorer w s language board p).1.units ↔
      ∃ d tree, Analyzed scorer w s language p d tree ∧ u ∈ tree.keptUnits s := by
  have hunits : u ∈ (fileReport scorer w s language board p).1.units ↔
      ∃ d, loadDocument w.tree p language = .ok d ∧
        ∃ units, (analyzeWith scorer s d).result = .ok units ∧ u ∈ units := by
    rw [fileReport]
    cases loadDocument w.tree p language with
    | error failure => simp
    | ok d => rcases hresult : (analyzeWith scorer s d).result with (_ | _) | units <;> simp [hresult]
  rw [hunits]
  simp only [mem_result]
  constructor
  · rintro ⟨d, hload, hadmits, tree, hscore, hwritten, hu⟩
    exact ⟨d, tree, ⟨⟨hload, hadmits, hscore⟩, hwritten⟩, hu⟩
  · rintro ⟨d, tree, ⟨⟨hload, hadmits, hscore⟩, hwritten⟩, hu⟩
    exact ⟨d, hload, hadmits, tree, hscore, hwritten, hu⟩

/-- A unit for which a run fails: it has no message, or it reaches the limit of the run. -/
def Request.Blames (r : Request) (s : Settings) (b : Level → Amount) (u : MetricUnit) : Prop :=
  ¬ s.Words u.collected ∨ ∃ f, r.failOn = some f ∧ f.Reached b u

/-- A run fails on account of a file if the file is stuck, or over one of its kept units. -/
def Request.Fails (r : Request) (scorer : Scorer) (w : World) (s : Settings) (b : Level → Amount)
    (p : Path) : Prop :=
  Stuck scorer w s r.language p ∨
    ∃ d tree, Analyzed scorer w s r.language p d tree ∧ ∃ u ∈ tree.keptUnits s, r.Blames s b u

/-- Under whole bounds a run exits with one exactly if it fails on account of some file. -/
theorem exit_eq_one_iff (hb : ∀ l, s.bound l = .ofAmount (b l)) (r : Request) (files : List Path) :
    (finish r s (fileReports scorer w s r.language [] files)).exit = 1 ↔
      ∃ p ∈ files, r.Fails scorer w s b p := by
  have hconsistent : ∀ report ∈ fileReports scorer w s r.language [] files, report.Consistent s :=
    fun report h => consistent_of_mem_fileReports scorer w s r.language h
  have hwritable : (∃ report ∈ fileReports scorer w s r.language [] files,
      report.writable s r.json = false) ↔ ∃ report ∈ fileReports scorer w s r.language [] files,
        ∃ u ∈ report.units, ¬ s.Words u.collected := by
    refine exists_congr fun report => and_congr_right fun h => ?_
    rw [← (hconsistent report h).not_written, ← (hconsistent report h).writable_iff r.json,
      Bool.not_eq_true]
  rw [finish_exit_eq_one, hwritable]
  simp only [FailOn.hits_ne_zero_iff hb, FailOn.passed_iff hb, fileReports_eq_map, List.mem_map,
    exists_exists_and_eq_and, error_fileReport, mem_units_fileReport]
  constructor
  · rintro (⟨p, hp, hstuck⟩ | ⟨p, hp, u, ⟨d, tree, h, hu⟩, hwords⟩ |
      ⟨f, hf, p, hp, u, ⟨d, tree, h, hu⟩, hreached⟩)
    · exact ⟨p, hp, .inl hstuck⟩
    · exact ⟨p, hp, .inr ⟨d, tree, h, u, hu, .inl hwords⟩⟩
    · exact ⟨p, hp, .inr ⟨d, tree, h, u, hu, .inr ⟨f, hf, hreached⟩⟩⟩
  · rintro ⟨p, hp, hstuck | ⟨d, tree, h, u, hu, hwords | ⟨f, hf, hreached⟩⟩⟩
    · exact .inl ⟨p, hp, hstuck⟩
    · exact .inr (.inl ⟨p, hp, u, ⟨d, tree, h, hu⟩, hwords⟩)
    · exact .inr (.inr ⟨f, hf, p, hp, u, ⟨d, tree, h, hu⟩, hreached⟩)

section Thresholds

variable {a a' : Amount}

theorem Scored.withThreshold (hscorer : scorer.Steady) (a a' : Amount)
    (h : Scored scorer w (s.withThreshold a') language p d tree) :
    Scored scorer w (s.withThreshold a) language p d tree where
  loaded := h.loaded
  admitted := h.admitted
  scored := by rw [hscorer, ← hscorer s a', h.scored]

theorem written_withThreshold (ha : a.toInt ≤ a'.toInt)
    (h : (Diagnostic.ofUnits (s.withThreshold a) d (tree.keptUnits (s.withThreshold a))).isOk = true) :
    (Diagnostic.ofUnits (s.withThreshold a') d (tree.keptUnits (s.withThreshold a'))).isOk = true := by
  rw [Diagnostic.isOk_ofUnits] at h ⊢
  refine h.imp_right fun h u hu => ?_
  exact h u ((MetricUnit.keptUnits_sublist ha tree).subset hu)

theorem Stuck.withThreshold (hscorer : scorer.Steady) (ha : a.toInt ≤ a'.toInt)
    (h : Stuck scorer w (s.withThreshold a') language p) :
    Stuck scorer w (s.withThreshold a) language p := by
  cases h with
  | unreadable h => exact .unreadable h
  | unscored hload hadmits hscore =>
    exact .unscored hload hadmits (by rw [hscorer, ← hscorer s a', hscore])
  | unwritten h hwritten =>
    refine .unwritten (h.withThreshold hscorer a a') ?_
    rw [← Bool.not_eq_true] at hwritten ⊢
    exact fun hok => hwritten (written_withThreshold ha hok)

/-- A file that makes a run fail makes it fail under a lower threshold: the unit to blame is still kept, or
the file is stuck over another one. -/
theorem Request.Fails.withThreshold {r : Request} (hscorer : scorer.Steady)
    (ha : a.toInt ≤ a'.toInt) (h : r.Fails scorer w (s.withThreshold a') b p) :
    r.Fails scorer w (s.withThreshold a) b p := by
  rcases h with hstuck | ⟨d, tree, h, u, hu, hblames⟩
  · exact .inl (hstuck.withThreshold hscorer ha)
  · have hscored := h.toScored.withThreshold hscorer a a'
    cases hwritten : (Diagnostic.ofUnits (s.withThreshold a) d
        (tree.keptUnits (s.withThreshold a))).isOk with
    | false => exact .inl (.unwritten hscored hwritten)
    | true =>
      exact .inr ⟨d, tree, ⟨hscored, hwritten⟩, u, (MetricUnit.keptUnits_sublist ha tree).subset hu,
        hblames⟩

theorem exit_withThreshold (hb : ∀ l, s.bound l = .ofAmount (b l)) (hscorer : scorer.Steady)
    (r : Request) (files : List Path) (ha : a.toInt ≤ a'.toInt)
    (h : (finish r (s.withThreshold a')
      (fileReports scorer w (s.withThreshold a') r.language [] files)).exit = 1) :
    (finish r (s.withThreshold a)
      (fileReports scorer w (s.withThreshold a) r.language [] files)).exit = 1 := by
  obtain ⟨p, hp, hfails⟩ := (exit_eq_one_iff (s := s.withThreshold a') hb r files).1 h
  exact (exit_eq_one_iff (s := s.withThreshold a) hb r files).2
    ⟨p, hp, hfails.withThreshold hscorer ha⟩

theorem runAnalyzeWith_exit_of_error {r : Request} {failure : Failure}
    (h : Load.settings w.tree w.environment r.config r.overrides = .error failure) :
    (runAnalyzeWith scorer w r).exit = 1 := by
  rw [runAnalyzeWith, h]
  cases failure <;> rfl

theorem runAnalyzeWith_exit_iff {r : Request}
    (h : Load.settings w.tree w.environment r.config r.overrides = .ok s) :
    (runAnalyzeWith scorer w r).exit = 1 ↔
      ∀ files, Files.select w.tree s.exclude r.language.isSome r.paths = .ok files →
        (finish r s (fileReports scorer w s r.language [] files)).exit = 1 := by
  rw [runAnalyzeWith, h]
  cases hselect : Files.select w.tree s.exclude r.language.isSome r.paths <;> simp [hselect]

theorem runAnalyzeWith_withThreshold (hscorer : scorer.Steady) {r : Request} {n n' : Int}
    (hn : n ≤ n')
    (hbounds : ∀ s, Load.settings w.tree w.environment r.config (r.withThreshold n').overrides = .ok s →
      ∃ b : Level → Amount, ∀ l, s.bound l = .ofAmount (b l))
    (h : (runAnalyzeWith scorer w (r.withThreshold n')).exit = 1) :
    (runAnalyzeWith scorer w (r.withThreshold n)).exit = 1 := by
  cases hload : Load.settings w.tree w.environment r.config (r.withThreshold n).overrides with
  | error failure => exact runAnalyzeWith_exit_of_error (r := r.withThreshold n) hload
  | ok s =>
    have hload' := settings_withThreshold n' hload
    obtain ⟨b, hb⟩ := hbounds _ hload'
    -- the settings hold the threshold that they are loaded with
    have hs := settings_withThreshold n hload
    rw [runAnalyzeWith_exit_iff (r := r.withThreshold n) hs]
    rw [runAnalyzeWith_exit_iff (r := r.withThreshold n') hload'] at h
    have ha : (Amount.number n).toInt ≤ (Amount.number n').toInt := hn
    intro files hselect
    exact exit_withThreshold (s := s) hb hscorer r files ha (h files hselect)

end Thresholds

/-- How a run exits, under settings that are built with whole bounds and with an engine that does not look
at the threshold. Every limit can be checked. A run over the extreme limit is over the high one, and what
is over the high one is over any. A limit is passed exactly if some analyzed file has a kept unit that
reaches it. A lower threshold does not let a failing run pass, wherever the threshold comes from, and no
more does a lower one on the command line, where settings are loaded with it. -/
theorem exit_decision_monotone {given : Load.Merged} {s : Settings} {b : Level → Amount}
    (hs : Settings.build given = .ok s) (hb : ∀ l, s.bound l = .ofAmount (b l)) {scorer : Scorer}
    (hscorer : scorer.Steady) (w : World) (r : Request) (files : List Path) :
    let reports (s : Settings) := fileReports scorer w s r.language [] files
    (∀ (f : FailOn) reports, (f.hits s reports).isOk = true) ∧
    (∀ reports, (FailOn.extreme.Passed s reports → FailOn.high.Passed s reports) ∧
      (FailOn.high.Passed s reports → FailOn.any.Passed s reports)) ∧
    (∀ f : FailOn, f.Passed s (reports s) ↔ ∃ p ∈ files, ∃ d tree,
      Analyzed scorer w s r.language p d tree ∧ ∃ u ∈ tree.keptUnits s, f.Reached b u) ∧
    (∀ a a' : Amount, a.toInt ≤ a'.toInt →
      (finish r (s.withThreshold a') (reports (s.withThreshold a'))).exit = 1 →
      (finish r (s.withThreshold a) (reports (s.withThreshold a))).exit = 1) ∧
    ∀ n n' : Int, n ≤ n' →
      (∀ s', Load.settings w.tree w.environment r.config (r.withThreshold n').overrides = .ok s' →
        ∃ b' : Level → Amount, ∀ l, s'.bound l = .ofAmount (b' l)) →
      (runAnalyzeWith scorer w (r.withThreshold n')).exit = 1 →
      (runAnalyzeWith scorer w (r.withThreshold n)).exit = 1 := by
  intro reports
  obtain ⟨-, -, hrises⟩ := Settings.bounds_of_ascending (Settings.ascending_of_build hs) hb
  refine ⟨?_, ?_, ?_, ?_, ?_⟩
  · intro f reports
    obtain ⟨n, hn, -⟩ := FailOn.exists_hits hb f reports
    rw [hn]
    rfl
  · intro reports
    simp only [FailOn.passed_iff hb]
    constructor
    · rintro ⟨report, hreport, u, hu, hextreme⟩
      exact ⟨report, hreport, u, hu, hrises.trans hextreme⟩
    · rintro ⟨report, hreport, u, hu, -⟩
      exact ⟨report, hreport, u, hu, trivial⟩
  · intro f
    rw [FailOn.passed_iff hb]
    simp only [reports, fileReports_eq_map, List.mem_map, exists_exists_and_eq_and,
      mem_units_fileReport]
    constructor
    · rintro ⟨p, hp, u, ⟨d, tree, h, hu⟩, hreached⟩
      exact ⟨p, hp, d, tree, h, u, hu, hreached⟩
    · rintro ⟨p, hp, d, tree, h, u, hu, hreached⟩
      exact ⟨p, hp, u, ⟨d, tree, h, hu⟩, hreached⟩
  · intro a a' ha
    exact exit_withThreshold hb hscorer r files ha
  · intro n n' hn hbounds
    exact runAnalyzeWith_withThreshold hscorer hn hbounds

/-- One unit of complexity one, with the bound of the high level at one. -/
theorem exit_decision_monotone_of_lua_file :
    let w := sampleWorld "file_size_limit_mb=-1\ncomplexity_level_normal=1\ncomplexity_level_high=1"
    let r : Request := { sampleRequest ["a.lua"] true with failOn := some .high }
    ∃ s, Load.settings w.tree w.environment r.config (r.withThreshold 1).overrides = .ok s ∧
      FailOn.high.Passed s (fileReports scoreDocument w s r.language [] r.paths) ∧
      FailOn.any.Passed s (fileReports scoreDocument w s r.language [] r.paths) ∧
      (runAnalyze w (r.withThreshold 1)).exit = 1 ∧ (runAnalyze w (r.withThreshold 0)).exit = 1 := by
  intro w r
  have hrun : (Load.settings w.tree w.environment r.config (r.withThreshold 1).overrides).toOption.map
      (fun s => (decide s.Renders,
        (FailOn.high.hits s (fileReports scoreDocument w s r.language [] r.paths)).toOption)) =
      some (true, some 1) := by
    decide +kernel
  have hexit : (runAnalyze w (r.withThreshold 1)).exit = 1 := by decide +kernel
  obtain ⟨s, hload, hrun⟩ := Option.map_eq_some_iff.1 hrun
  obtain ⟨hs, hhits⟩ := Prod.mk.inj hrun
  have hload := ok_of_toOption hload
  have hwhole : ∀ l, ∃ a, s.bound l = .ofAmount a := (of_decide_eq_true hs : s.Renders).bound
  choose b hb using hwhole
  have hhigh : FailOn.high.Passed s (fileReports scoreDocument w s r.language [] r.paths) :=
    ⟨1, ok_of_toOption hhits, Nat.one_pos⟩
  obtain ⟨_, _, -, -, hbuild⟩ := Load.settings_eq_ok hload
  obtain ⟨_, _, -, -, hbuild⟩ := Load.build_eq_ok hbuild
  obtain ⟨-, hlimits, -, -, hthresholds⟩ :=
    exit_decision_monotone hbuild hb scoreDocument_steady w r r.paths
  have hbounds (s' : Settings)
      (h : Load.settings w.tree w.environment r.config (r.withThreshold 1).overrides = .ok s') :
      ∃ b' : Level → Amount, ∀ l, s'.bound l = .ofAmount (b' l) := by
    cases hload.symm.trans h
    exact ⟨b, hb⟩
  exact ⟨s, hload, hhigh, (hlimits _).2 hhigh, hexit, hthresholds 0 1 (by decide) hbounds hexit⟩

end Command

end ComplexityHints
