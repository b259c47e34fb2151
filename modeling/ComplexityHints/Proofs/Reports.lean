import ComplexityHints.Command
import ComplexityHints.Files.Snapshot
import ComplexityHints.Proofs.Publishing
import ComplexityHints.Proofs.Score.Placement
import Mathlib.Tactic.Push

namespace ComplexityHints

variable {s : Settings} {d : Document} {u : MetricUnit}

namespace Json

def member? (key : String) : Json → Option Json
  | obj members => members.lookup key
  | _ => none

structure Shows (entry : Json) (x : Diagnostic) : Prop where
  message : entry.member? "message" = some (str x.message)
  start : entry.member? "start" = some (ofPosition x.start)
  stop : entry.member? "end" = some (ofPosition x.stop)

theorem exists_ofUnit {x : Diagnostic} (h : Diagnostic.ofUnit s d u = .ok x) :
    ∃ entry, ofUnit s d u = .ok entry ∧ entry.Shows x := by
  obtain ⟨message, hmessage, h⟩ := ok_of_bind h
  cases h
  refine ⟨_, by rw [ofUnit, hmessage]; rfl, ?_⟩
  exact ⟨rfl, rfl, rfl⟩

theorem exists_entries {units : List MetricUnit} {xs : List Diagnostic}
    (h : List.Forall₂ (fun u x => Diagnostic.ofUnit s d u = .ok x) units xs) :
    ∃ entries, units.mapM (ofUnit s d) = .ok entries ∧ List.Forall₂ Shows entries xs := by
  induction h with
  | nil => exact ⟨[], rfl, .nil⟩
  | cons hx _ ih =>
    obtain ⟨entry, hentry, hshows⟩ := exists_ofUnit hx
    obtain ⟨entries, hentries, hall⟩ := ih
    exact ⟨entry :: entries, by rw [List.mapM_cons, hentry, hentries]; rfl, .cons hshows hall⟩

end Json

namespace FileReport

/-- A report whose parts fit together. -/
structure Consistent (s : Settings) (r : FileReport) : Prop where
  failed : r.error ≠ none → r.units = [] ∧ r.diagnostics = []
  kept : ∀ u ∈ r.units, u.kept s = true
  silent : s.diagnosticsEnabled.isTrue = false → r.diagnostics = []
  /-- The JSON report has an entry for each unit, and each diagnostic says what its entry says. -/
  shown : r.error = none → s.diagnosticsEnabled.isTrue = true →
    ∃ json entries, Json.ofReport s r = .ok json ∧ json.member? "metrics" = some (.arr entries) ∧
      List.Forall₂ (fun u entry => Json.ofUnit s r.document u = .ok entry) r.units entries ∧
      List.Forall₂ Json.Shows entries r.diagnostics

theorem consistent_of_error (s : Settings) (d : Document) (message : String) :
    Consistent s { document := d, error := some message } where
  failed _ := ⟨rfl, rfl⟩
  kept := by simp
  silent _ := rfl
  shown h := by cases h

theorem consistent_of_diagnostics {units : List MetricUnit} {xs : List Diagnostic}
    (hkept : ∀ u ∈ units, u.kept s = true) (hxs : Diagnostic.ofUnits s d units = .ok xs) :
    Consistent s { document := d, units, diagnostics := xs } where
  failed h := absurd rfl h
  kept := hkept
  silent hoff := by
    rw [Diagnostic.ofUnits, hoff] at hxs
    cases hxs
    rfl
  shown _ hon := by
    rw [Diagnostic.ofUnits, hon] at hxs
    obtain ⟨entries, hentries, hshows⟩ := Json.exists_entries (forall₂_of_mapM hxs)
    exact ⟨_, entries, by rw [Json.ofReport, hentries]; rfl, rfl, forall₂_of_mapM hentries, hshows⟩

end FileReport

theorem analyzeWith_ok {scorer : Scorer} {units : List MetricUnit}
    (h : (analyzeWith scorer s d).result = .ok units) :
    (∀ u ∈ units, u.kept s = true) ∧ ∃ xs, Diagnostic.ofUnits s d units = .ok xs ∧
      (analyzeWith scorer s d).publication = some ⟨d.uri, xs⟩ := by
  rw [analyzeWith] at h ⊢
  cases hadmits : Gate.admits s d with
  | false =>
    rw [hadmits] at h
    cases h
    refine ⟨by simp, [], ?_, rfl⟩
    rw [Diagnostic.ofUnits]
    split <;> rfl
  | true =>
    rw [hadmits] at h
    cases hscore : scorer s d with
    | error failure =>
      rw [hscore] at h
      cases h
    | ok tree =>
      simp only [hscore, ↓reduceIte] at h ⊢
      cases hxs : Diagnostic.ofUnits s d (tree.keptUnits s) with
      | error fault =>
        rw [hxs] at h
        cases h
      | ok xs =>
        rw [hxs] at h
        cases h
        exact ⟨fun u hu => (List.mem_filter.1 hu).2, xs, hxs, rfl⟩

namespace Command

section Isolation

variable (scorer : Scorer) (w : World) (s : Settings) (language : Option String)

/-- A file has one report, whatever the board holds: what is read back from the board was published
last. -/
theorem exists_fileReport (p : Path) :
    ∃ report : FileReport, report.Consistent s ∧
      ∀ b, (fileReport scorer w s language b p).1 = report := by
  cases hload : loadDocument w.tree p language with
  | error failure =>
    exact ⟨_, FileReport.consistent_of_error s _ _, fun b => by rw [fileReport, hload]⟩
  | ok d =>
    cases hresult : (analyzeWith scorer s d).result with
    | error failure =>
      have hreport : ∃ message, ∀ b, (fileReport scorer w s language b p).1 =
          { document := d, error := some message } := by
        simp only [fileReport, hload, hresult]
        cases failure <;> exact ⟨_, fun _ => rfl⟩
      obtain ⟨message, hreport⟩ := hreport
      exact ⟨_, FileReport.consistent_of_error s d message, hreport⟩
    | ok units =>
      obtain ⟨hkept, xs, hxs, hpublication⟩ := analyzeWith_ok hresult
      refine ⟨_, FileReport.consistent_of_diagnostics hkept hxs, fun b => ?_⟩
      -- the set of this document stands last on the board and hides any earlier one
      simp [fileReport, hload, hresult, Board.publish, hpublication, Board.get?_concat]

/-- The files of a run do not depend on each other. -/
theorem fileReports_eq_map (b : Board) (files : List Path) :
    fileReports scorer w s language b files =
      files.map fun p => (fileReport scorer w s language [] p).1 := by
  induction files generalizing b with
  | nil => rfl
  | cons p ps ih =>
    have hcons : fileReports scorer w s language b (p :: ps) =
        (fileReport scorer w s language b p).1 ::
          fileReports scorer w s language (fileReport scorer w s language b p).2 ps := rfl
    obtain ⟨report, -, hreport⟩ := exists_fileReport scorer w s language p
    rw [hcons, List.map_cons, hreport, hreport, ih]

theorem consistent_of_mem_fileReports {b : Board} {files : List Path} {report : FileReport}
    (h : report ∈ fileReports scorer w s language b files) : report.Consistent s := by
  rw [fileReports_eq_map] at h
  obtain ⟨p, -, rfl⟩ := List.mem_map.1 h
  obtain ⟨report, hconsistent, hreport⟩ := exists_fileReport scorer w s language p
  rw [hreport]
  exact hconsistent

end Isolation

end Command

section Written

variable {r : FileReport} {reports : List FileReport}

theorem Json.isOk_ofUnit (s : Settings) (d : Document) (u : MetricUnit) :
    (ofUnit s d u).isOk = u.writable s true :=
  isOk_bind_pure

theorem Json.isOk_ofReport (s : Settings) (r : FileReport) :
    (ofReport s r).isOk = r.writable s true := by
  rw [ofReport, FileReport.writable]
  cases r.error with
  | some error => rfl
  | none =>
    rw [Option.isSome_none, Bool.false_or, Bool.eq_iff_iff, List.all_eq_true]
    simp only [← isOk_ofUnit s r.document, ← isOk_mapM]
    exact Bool.eq_iff_iff.1 isOk_bind_pure

theorem FileReport.isOk_unitRows (s : Settings) (verbose : Bool) (d : Document) (u : MetricUnit) :
    (unitRows s verbose d u).isOk = u.writable s false := by
  rw [unitRows, styledComplexity, MetricUnit.writable]
  cases s.level u.collected with
  | error fault => rfl
  | ok level => exact isOk_bind_pure

theorem FileReport.isOk_lines (s : Settings) (verbose : Bool) (r : FileReport) :
    (r.lines s verbose).isOk = r.writable s false := by
  rw [lines, writable]
  cases r.error with
  | some error => rfl
  | none =>
    rw [Option.isSome_none, Bool.false_or]
    dsimp only
    split
    next hempty =>
      rw [List.isEmpty_iff.1 hempty]
      rfl
    next =>
      rw [isOk_bind_pure, Bool.eq_iff_iff, List.all_eq_true, isOk_mapM]
      simp only [isOk_unitRows]

theorem FileReport.allLines_fault (s : Settings) (verbose : Bool) (all reports : List FileReport) :
    (allLines s verbose all reports).2 = none ↔ ∀ r ∈ reports, r.writable s false = true := by
  induction reports with
  | nil => simp [allLines]
  | cons r rs ih =>
    rw [List.forall_mem_cons, ← ih, ← r.isOk_lines s verbose, allLines]
    cases r.lines s verbose <;> simp

theorem Command.jsonLines_fault (s : Settings) (reports : List FileReport) :
    (jsonLines s reports).2 = none ↔ ∀ r ∈ reports, r.writable s true = true := by
  simp only [← Json.isOk_ofReport]
  rw [← isOk_mapM, ← isOk_bind_pure, jsonLines]
  change _ ↔ (Json.report s reports).isOk = true
  cases Json.report s reports <;> simp

/-- The lines of a run are cut short exactly if a report cannot be written, in JSON and in tables alike;
the exit code does not depend on them otherwise. -/
theorem Command.shown_fault_eq_none (r : Request) (s : Settings) (reports : List FileReport) :
    (r.shown s reports).2 = none ↔ ∀ report ∈ reports, report.writable s r.json = true := by
  rw [Request.shown]
  cases r.json with
  | true => exact jsonLines_fault s reports
  | false => exact FileReport.allLines_fault s r.verbose reports reports

def FileReport.Written (s : Settings) (r : FileReport) : Prop :=
  ∀ u ∈ r.units, (u.message s).isOk = true

theorem FileReport.not_written :
    ¬ r.Written s ↔ ∃ u ∈ r.units, ∃ fault, u.message s = .error fault := by
  simp [Written, isOk_eq_false]

theorem MetricUnit.isOk_message_of_level {fault : Fault} (hvisible : u.visible = true)
    (h : s.level u.collected = .error fault) : (u.message s).isOk = false := by
  rw [message, if_pos hvisible]
  cases s.template <;> try rfl
  dsimp only
  rw [Settings.levelDescription, h]
  rfl

theorem MetricUnit.writable_eq (hvisible : u.visible = true) (json : Bool) :
    u.writable s json = (u.message s).isOk := by
  rw [writable]
  cases hlevel : s.level u.collected with
  | error fault => rw [isOk_message_of_level hvisible hlevel, Bool.and_false]
  | ok level => rw [isOk_ok, Bool.or_true, Bool.true_and]

theorem FileReport.Consistent.writable_iff (hr : r.Consistent s) (json : Bool) :
    r.writable s json = true ↔ r.Written s := by
  rw [writable, Written]
  cases herror : r.error with
  | some error => simp [(hr.failed (by simp [herror])).1]
  | none =>
    rw [Option.isSome_none, Bool.false_or, List.all_eq_true]
    apply forall₂_congr
    intro u hu
    rw [MetricUnit.writable_eq (MetricUnit.visible_of_kept (hr.kept u hu))]

/-- Diagnostics are written before the report is, so with diagnostics there is nothing left to fail. -/
theorem FileReport.Consistent.written (hr : r.Consistent s)
    (hon : s.diagnosticsEnabled.isTrue = true) : r.Written s := by
  rw [← hr.writable_iff true]
  by_cases herror : r.error = none
  · obtain ⟨json, _, hjson, -⟩ := hr.shown herror hon
    rw [← Json.isOk_ofReport, hjson]
    rfl
  · rw [writable, Option.isSome_iff_ne_none.2 herror, Bool.true_or]

end Written

section Limit

variable {f : FailOn} {reports : List FileReport}

theorem FailOn.hits_eq_zero :
    f.hits s reports = .ok 0 ↔ ∀ r ∈ reports, f.hit s r = .ok false := by
  rw [hits]
  constructor
  · intro h r hr
    obtain ⟨marks, hmarks, hcount⟩ := ok_of_bind h
    have hnone : true ∉ marks := List.count_eq_zero.1 (Except.ok.inj hcount)
    have hok : (f.hit s r).isOk = true := isOk_mapM.1 (by rw [hmarks]; rfl) r hr
    rcases hhit : f.hit s r with fault | (_ | _)
    · simp [hhit] at hok
    · rfl
    · exact absurd ((mem_of_mapM hmarks true).2 ⟨r, hr, hhit⟩) hnone
  · intro h
    rw [mapM_eq_ok h]
    apply congrArg Except.ok
    exact List.count_eq_zero.2 (by simp)

theorem FailOn.hits_ne_zero :
    f.hits s reports ≠ .ok 0 ↔ (∃ r ∈ reports, f.hit s r = .ok true) ∨
      ∃ r ∈ reports, ∃ fault, f.hit s r = .error fault := by
  rw [Ne, hits_eq_zero, ← exists_or]
  push Not
  apply exists_congr
  intro r
  rw [← and_or_left]
  apply and_congr_right
  intro _
  rcases f.hit s r with fault | (_ | _) <;> simp

theorem Settings.Renders.exists_hit (hs : s.Renders) (f : FailOn) (r : FileReport) :
    ∃ hit, f.hit s r = .ok hit := by
  unfold FailOn.hit
  split
  · exact ⟨_, rfl⟩
  · cases f with
    | any => exact ⟨_, rfl⟩
    | high => exact hs.exists_reachedBy .high r.maxComplexity
    | extreme => exact hs.exists_reachedBy .extreme r.maxComplexity

end Limit

namespace Command

variable {r : Request} {reports : List FileReport}

def Request.OverLimit (r : Request) (s : Settings) (reports : List FileReport) : Prop :=
  ∃ f, r.failOn = some f ∧ ∃ report ∈ reports, f.hit s report = .ok true

/-- What ends a run outside of all reports: with diagnostics off, a unit whose message cannot be
written, or a limit that does not compare. -/
def Request.Breaks (r : Request) (s : Settings) (reports : List FileReport) : Prop :=
  (s.diagnosticsEnabled.isTrue = false ∧
    ∃ report ∈ reports, ∃ u ∈ report.units, ∃ fault, u.message s = .error fault) ∨
  ∃ f, r.failOn = some f ∧ ∃ report ∈ reports, ∃ fault, f.hit s report = .error fault

theorem not_breaks (hs : s.Renders) (r : Request) : ¬ r.Breaks s reports := by
  rintro (⟨-, report, -, u, -, fault, hfault⟩ | ⟨f, -, report, -, fault, hfault⟩)
  · obtain ⟨message, hmessage⟩ := hs.exists_message u
    rw [hmessage] at hfault
    cases hfault
  · obtain ⟨hit, hhit⟩ := hs.exists_hit f report
    rw [hhit] at hfault
    cases hfault

theorem finish_exit_eq_one :
    (finish r s reports).exit = 1 ↔ (∃ report ∈ reports, report.error ≠ none) ∨
      (∃ report ∈ reports, report.writable s r.json = false) ∨
      ∃ f, r.failOn = some f ∧ f.hits s reports ≠ .ok 0 := by
  rw [finish, exitCode, ← or_assoc, ← exists_or]
  simp only [← and_or_left]
  split
  next hany =>
    obtain ⟨report, hreport, h⟩ := List.any_eq_true.1 hany
    refine iff_of_true rfl (.inl ⟨report, hreport, ?_⟩)
    simpa [Option.isSome_iff_ne_none] using h
  next hany =>
    have hnone : ¬ ∃ report ∈ reports, report.error ≠ none ∨ report.writable s r.json = false := by
      rintro ⟨report, hreport, h⟩
      refine hany (List.any_eq_true.2 ⟨report, hreport, ?_⟩)
      simpa [Option.isSome_iff_ne_none] using h
    rw [or_iff_right hnone]
    cases r.failOn with
    | none => simp
    | some f => rcases hhits : f.hits s reports with fault | (_ | n) <;> simp [hhits]

theorem exists_not_writable (h : ∀ report ∈ reports, report.Consistent s) (json : Bool) :
    (∃ report ∈ reports, report.writable s json = false) ↔ s.diagnosticsEnabled.isTrue = false ∧
      ∃ report ∈ reports, ∃ u ∈ report.units, ∃ fault, u.message s = .error fault := by
  simp only [← FileReport.not_written]
  constructor
  · rintro ⟨report, hreport, hwritable⟩
    have hnot : ¬ report.Written s := by
      rw [← (h report hreport).writable_iff json, hwritable]
      exact Bool.false_ne_true
    refine ⟨?_, report, hreport, hnot⟩
    rw [← Bool.not_eq_true]
    exact fun hon => hnot ((h report hreport).written hon)
  · rintro ⟨-, report, hreport, hnot⟩
    refine ⟨report, hreport, ?_⟩
    rwa [← Bool.not_eq_true, (h report hreport).writable_iff json]

theorem finish_exit (h : ∀ report ∈ reports, report.Consistent s) :
    (finish r s reports).exit = 1 ↔
      (∃ report ∈ reports, report.error ≠ none) ∨ r.OverLimit s reports ∨ r.Breaks s reports := by
  rw [finish_exit_eq_one, exists_not_writable h, Request.OverLimit, Request.Breaks]
  simp only [FailOn.hits_ne_zero, and_or_left, exists_or]
  exact or_congr_right or_left_comm

/-- A run reports each file as if it were the only one, with an error or with diagnostics that agree
with its units, and it fails when a report does, when the limit is passed, or when it breaks. With
settings that render it never breaks. A walk that ends early leaves no reports at all. -/
theorem analyze_isolates_files (scorer : Scorer) (w : World) (r : Request) (s : Settings)
    (files : List Path) :
    let reports := fileReports scorer w s r.language [] files
    reports = files.map (fun p => (fileReport scorer w s r.language [] p).1) ∧
    (∀ report ∈ reports, report.Consistent s) ∧
    ((finish r s reports).exit = 1 ↔
      (∃ report ∈ reports, report.error ≠ none) ∨ r.OverLimit s reports ∨ r.Breaks s reports) ∧
    (s.Renders → ¬ r.Breaks s reports) ∧
    (Load.settings w.tree w.environment r.config r.overrides = .ok s →
      (Files.select w.tree s.exclude r.language.isSome r.paths = .ok files →
        runAnalyzeWith scorer w r = finish r s reports) ∧
      ∀ e, Files.select w.tree s.exclude r.language.isSome r.paths = .error e →
        runAnalyzeWith scorer w r = ⟨1, []⟩) := by
  intro reports
  have hconsistent : ∀ report ∈ reports, report.Consistent s := fun report h =>
    consistent_of_mem_fileReports scorer w s r.language h
  refine ⟨fileReports_eq_map scorer w s r.language [] files, hconsistent, finish_exit hconsistent,
    fun hs => not_breaks hs r, fun hload => ?_⟩
  rw [runAnalyzeWith, hload]
  dsimp only
  constructor
  · intro hselect
    rw [hselect]
  · intro e hselect
    rw [hselect]

def sampleWorld (settings : String) : World where
  tree := Snapshot.tree
    { directory := ["w"], home := ["h"], directories := []
      files := [(["w", "codemetrics.toml"], Utf8.encode settings.toList),
        (["w", "a.lua"], Utf8.encode "function f() end".toList), (["w", "b.txt"], [])] }
  environment := []

def sampleRequest (names : List String) (diagnostics : Bool) : Request :=
  { paths := names.map fun name => ⟨false, [name]⟩
    language := none, config := none, json := true, threshold := some 0
    diagnostics := some diagnostics, failOn := none, verbose := false }

/-- The Lua file has a unit with its diagnostic, and the other file has an error; the run fails on its
account. -/
theorem analyze_isolates_files_of_unknown_type :
    let w := sampleWorld "file_size_limit_mb=-1"
    let r := sampleRequest ["a.lua", "b.txt"] true
    ∃ s reports, Load.settings w.tree w.environment r.config r.overrides = .ok s ∧ s.Renders ∧
      runAnalyze w r = finish r s reports ∧ (runAnalyze w r).exit = 1 ∧ ¬ r.Breaks s reports ∧
      (∀ report ∈ reports, report.Consistent s) ∧
      reports.map (fun report => (report.diagnostics.length, report.error.isSome)) =
        [(1, false), (0, true)] := by
  intro w r
  have hrun : (Load.settings w.tree w.environment r.config r.overrides).toOption.map (fun s =>
      (decide s.Renders, (fileReports scoreDocument w s r.language [] r.paths).map
        fun report => (report.diagnostics.length, report.error.isSome))) =
      some (true, [(1, false), (0, true)]) := by
    decide +kernel
  obtain ⟨s, hload, hrun⟩ := Option.map_eq_some_iff.1 hrun
  obtain ⟨hs, hreports⟩ := Prod.mk.inj hrun
  have hload := ok_of_toOption hload
  have hs : s.Renders := of_decide_eq_true hs
  obtain ⟨-, hconsistent, hexit, hbreaks, hrun⟩ :=
    analyze_isolates_files scoreDocument w r s r.paths
  have hfinish : runAnalyze w r = finish r s (fileReports scoreDocument w s r.language [] r.paths) :=
    (hrun hload).1 rfl
  refine ⟨s, _, hload, hs, hfinish, ?_, hbreaks hs, hconsistent, hreports⟩
  rw [hfinish, hexit]
  left
  have hfailed : (0, true) ∈ [(1, false), (0, true)] := by decide
  rw [← hreports] at hfailed
  obtain ⟨report, hreport, heq⟩ := List.mem_map.1 hfailed
  refine ⟨report, hreport, ?_⟩
  rw [← Option.isSome_iff_ne_none]
  exact (Prod.mk.inj heq).2

/-- Settings accept a number for the description of a level. With diagnostics off, the report of the
Lua file has no error and the request sets no limit; the run fails all the same, because the message
of the unit cannot be written. -/
theorem run_fails_without_error :
    let w := sampleWorld "file_size_limit_mb=-1\ncomplexity_level_low_description=5"
    let r := sampleRequest ["a.lua"] false
    ∃ s, Load.settings w.tree w.environment r.config r.overrides = .ok s ∧
      Files.select w.tree s.exclude r.language.isSome r.paths = .ok r.paths ∧
      (∀ report ∈ fileReports scoreDocument w s r.language [] r.paths, report.error = none) ∧
      r.failOn = none ∧ (runAnalyze w r).exit = 1 := by
  intro w r
  have hreports : ((Load.settings w.tree w.environment r.config r.overrides).toOption.map fun s =>
      (fileReports scoreDocument w s r.language [] r.paths).map (·.error)) = some [none] := by
    decide +kernel
  have hexit : (runAnalyze w r).exit = 1 := by decide +kernel
  cases hload : Load.settings w.tree w.environment r.config r.overrides with
  | error failure =>
    rw [hload] at hreports
    cases hreports
  | ok s =>
    rw [hload] at hreports
    refine ⟨s, rfl, rfl, ?_, rfl, hexit⟩
    intro report hreport
    have herror : report.error ∈ [none] := by
      rw [← Option.some.inj hreports]
      exact List.mem_map_of_mem hreport
    exact List.mem_singleton.1 herror

end Command

end ComplexityHints
