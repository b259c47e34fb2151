import ComplexityHints.Proofs.Failure
import ComplexityHints.Session
import Mathlib.Data.List.Forall2
import Mathlib.Data.List.Induction
import Mathlib.Tactic.Choose

namespace ComplexityHints

/-- Settings with which every unit has a message: the level bounds are whole numbers, and the template
and the level descriptions are texts. -/
structure Settings.Renders (s : Settings) : Prop where
  bound : ∀ level, ∃ a, s.bound level = .ofAmount a
  template : ∃ text, s.template = .str text
  description : ∀ level, ∃ text, s.description level = .str text

theorem Value.exists_eq_ofAmount {v : Value} : (∃ a, v = .ofAmount a) ↔ v.amount?.isSome = true := by
  constructor
  · rintro ⟨a, rfl⟩
    cases a <;> rfl
  · intro h
    cases v with
    | int n => exact ⟨.number n, rfl⟩
    | bool on => exact ⟨.switch on, rfl⟩
    | _ => cases h

instance (v : Value) : Decidable (∃ a, v = .ofAmount a) := decidable_of_iff _ Value.exists_eq_ofAmount.symm

def Value.isText : Value → Bool
  | str _ => true
  | _ => false

theorem Value.exists_eq_str {v : Value} : (∃ text, v = .str text) ↔ v.isText = true := by
  cases v <;> simp [isText]

instance (v : Value) : Decidable (∃ text, v = .str text) := decidable_of_iff _ Value.exists_eq_str.symm

theorem Level.forall_iff {p : Level → Prop} :
    (∀ l, p l) ↔ p .low ∧ p .normal ∧ p .high ∧ p .extreme := by
  constructor
  · intro h
    exact ⟨h _, h _, h _, h _⟩
  · rintro ⟨hlow, hnormal, hhigh, hextreme⟩ l
    cases l <;> assumption

instance {p : Level → Prop} [DecidablePred p] : Decidable (∀ l, p l) :=
  decidable_of_iff _ Level.forall_iff.symm

theorem Settings.renders_iff {s : Settings} : s.Renders ↔
    (∀ level, ∃ a, s.bound level = .ofAmount a) ∧ (∃ text, s.template = .str text) ∧
      ∀ level, ∃ text, s.description level = .str text :=
  ⟨fun h => ⟨h.bound, h.template, h.description⟩, fun ⟨hb, ht, hd⟩ => ⟨hb, ht, hd⟩⟩

instance (s : Settings) : Decidable s.Renders := decidable_of_iff _ Settings.renders_iff.symm

section Message

variable {s : Settings}

theorem Settings.Renders.exists_reachedBy (hs : s.Renders) (level : Level) (complexity : Int) :
    ∃ reached, (s.bound level).reachedBy complexity = .ok reached := by
  obtain ⟨a, ha⟩ := hs.bound level
  rw [ha]
  cases a <;> exact ⟨_, rfl⟩

theorem Settings.exists_level {complexity : Int}
    (h : ∀ level, ∃ reached, (s.bound level).reachedBy complexity = .ok reached) :
    ∃ level, s.level complexity = .ok level := by
  obtain ⟨extreme, hextreme⟩ := h .extreme
  obtain ⟨high, hhigh⟩ := h .high
  obtain ⟨normal, hnormal⟩ := h .normal
  rw [Settings.level, hextreme, hhigh, hnormal]
  cases extreme <;> cases high <;> cases normal <;> exact ⟨_, rfl⟩

theorem Settings.Renders.exists_levelDescription (hs : s.Renders) (complexity : Int) :
    ∃ text, s.levelDescription complexity = .ok (.str text) := by
  obtain ⟨level, hlevel⟩ := Settings.exists_level fun level => hs.exists_reachedBy level complexity
  obtain ⟨text, htext⟩ := hs.description level
  refine ⟨text, ?_⟩
  rw [Settings.levelDescription, hlevel, ← htext]
  rfl

theorem Settings.Renders.exists_message (hs : s.Renders) (u : MetricUnit) :
    ∃ message, u.message s = .ok message := by
  rw [MetricUnit.message]
  split
  · obtain ⟨template, htemplate⟩ := hs.template
    obtain ⟨text, htext⟩ := hs.exists_levelDescription u.collected
    dsimp only
    rw [htemplate, htext]
    exact ⟨_, rfl⟩
  · exact ⟨_, rfl⟩

theorem Settings.Renders.exists_diagnostic (hs : s.Renders) (d : Document) (u : MetricUnit) :
    ∃ diagnostic, Diagnostic.ofUnit s d u = .ok diagnostic := by
  obtain ⟨message, hmessage⟩ := hs.exists_message u
  exact ⟨_, by rw [Diagnostic.ofUnit, hmessage]; rfl⟩

theorem Settings.Renders.exists_diagnostics (hs : s.Renders) (d : Document)
    (units : List MetricUnit) :
    ∃ diagnostics, Diagnostic.ofUnits s d units = .ok diagnostics ∧
      (s.diagnosticsEnabled.isTrue = false → diagnostics = []) ∧
      (s.diagnosticsEnabled.isTrue = true →
        List.Forall₂ (fun u x => Diagnostic.ofUnit s d u = .ok x) units diagnostics) := by
  choose diagnostic hdiagnostic using hs.exists_diagnostic d
  cases hon : s.diagnosticsEnabled.isTrue with
  | false => exact ⟨[], by rw [Diagnostic.ofUnits, hon]; rfl, by simp⟩
  | true =>
    refine ⟨units.map diagnostic, ?_, by simp, ?_⟩
    · rw [Diagnostic.ofUnits, hon]
      exact mapM_eq_ok fun u _ => hdiagnostic u
    · intro _
      exact List.forall₂_map_right_iff.2 (List.forall₂_same.2 fun u _ => hdiagnostic u)

end Message

/-- What the analysis of a document comes to: its result, and what it publishes. -/
structure Answers (scorer : Scorer) (s : Settings) (d : Document)
    (result : Except Failure (List MetricUnit)) (p : Publication) : Prop where
  uri : p.uri = d.uri
  rejected : Gate.admits s d = false → result = .ok [] ∧ p.diagnostics = []
  fails : ∀ failure, result = .error failure ↔
    Gate.admits s d = true ∧ scorer s d = .error failure
  cleared : ∀ failure, result = .error failure → p.diagnostics = []
  kept : ∀ tree, Gate.admits s d = true → scorer s d = .ok tree → result = .ok (tree.keptUnits s)
  silent : s.diagnosticsEnabled.isTrue = false → p.diagnostics = []
  shown : ∀ tree, Gate.admits s d = true → scorer s d = .ok tree →
    s.diagnosticsEnabled.isTrue = true →
      List.Forall₂ (fun u x => Diagnostic.ofUnit s d u = .ok x) (tree.keptUnits s) p.diagnostics

theorem analyzeWith_answers (scorer : Scorer) {s : Settings} (hs : s.Renders) (d : Document) :
    ∃ p, (analyzeWith scorer s d).publication = some p ∧
      Answers scorer s d (analyzeWith scorer s d).result p := by
  rw [analyzeWith]
  cases hadmits : Gate.admits s d with
  | false =>
    exact ⟨⟨d.uri, []⟩, rfl,
      { uri := rfl
        rejected := fun _ => ⟨rfl, rfl⟩
        fails := by simp [hadmits]
        cleared := fun _ _ => rfl
        kept := by simp [hadmits]
        silent := fun _ => rfl
        shown := by simp [hadmits] }⟩
  | true =>
    cases hscore : scorer s d with
    | error failure =>
      exact ⟨⟨d.uri, []⟩, rfl,
        { uri := rfl
          rejected := by simp [hadmits]
          fails := by simp [hadmits, hscore]
          cleared := fun _ _ => rfl
          kept := by simp [hscore]
          silent := fun _ => rfl
          shown := by simp [hscore] }⟩
    | ok tree =>
      obtain ⟨diagnostics, hdiagnostics, hoff, hon⟩ := hs.exists_diagnostics d (tree.keptUnits s)
      simp only [hdiagnostics]
      exact ⟨⟨d.uri, diagnostics⟩, rfl,
        { uri := rfl
          rejected := by simp [hadmits]
          fails := by simp [hscore]
          cleared := by simp
          kept := by simp [hscore]
          silent := hoff
          shown := by simpa [hadmits, hscore] using hon }⟩

namespace Board

variable {uri : String}

theorem get?_concat (b : Board) (p : Publication) (uri : String) :
    get? (b ++ [p]) uri = if uri = p.uri then some p.diagnostics else get? b uri := by
  rw [get?, shown, List.foldl_append]
  exact Keyed.lookup_put p.uri uri p.diagnostics b.shown

theorem get?_append {b after : Board} (h : ∀ p ∈ after, p.uri ≠ uri) :
    get? (b ++ after) uri = get? b uri := by
  -- a board grows at its end, and so does the induction
  induction after using List.reverseRecOn with
  | nil => rw [List.append_nil]
  | append_singleton after p ih =>
    obtain ⟨hafter, hp⟩ := List.forall_mem_append.1 h
    rw [← List.append_assoc, get?_concat, if_neg (hp p List.mem_cons_self).symm, ih hafter]

theorem get?_filter (b : Board) (uri : String) :
    get? (b.filter (·.uri = uri)) uri = get? b uri := by
  induction b using List.reverseRecOn with
  | nil => rfl
  | append_singleton b p ih =>
    rw [List.filter_append, get?_concat]
    by_cases hp : p.uri = uri
    · simp [hp, get?_concat]
    · simp [hp, Ne.symm hp, ih]

end Board

theorem analyzeAll_answers (scorer : Scorer) {s : Settings} (hs : s.Renders) :
    ∃ (result : Document → Except Failure (List MetricUnit)) (publication : Document → Publication),
      (∀ d, Answers scorer s d (result d) (publication d)) ∧
      ∀ b ds, analyzeAll scorer s b ds = (ds.map result, b ++ ds.map publication) := by
  choose publication hpublication hanswers using analyzeWith_answers scorer hs
  refine ⟨fun d => (analyzeWith scorer s d).result, publication, hanswers, ?_⟩
  intro b ds
  induction ds generalizing b with
  | nil => simp [analyzeAll]
  | cons d ds ih => simp [analyzeAll, Board.publish, hpublication, ih]

/-- A run publishes one set per analysis, for its document and as the outcome of the analysis says,
and every document shows the set of its latest analysis. -/
theorem analyzeAll_publishes (scorer : Scorer) {s : Settings} (hs : s.Renders)
    (ds : List Document) :
    let run := analyzeAll scorer s [] ds
    run.1.length = ds.length ∧ run.2.length = ds.length ∧
    (∀ (i : Nat) d, ds[i]? = some d → ∃ result p, run.1[i]? = some result ∧ run.2[i]? = some p ∧
      Answers scorer s d result p) ∧
    (∀ before d after, ds = before ++ d :: after → (∀ d' ∈ after, d'.uri ≠ d.uri) →
      ∃ p, run.2[before.length]? = some p ∧ Board.get? run.2 d.uri = some p.diagnostics) ∧
    (∀ uri, (∀ d ∈ ds, d.uri ≠ uri) → Board.get? run.2 uri = none) ∧
    ∀ uri, Board.get? run.2 uri =
      Board.get? (analyzeAll scorer s [] (ds.filter (·.uri = uri))).2 uri := by
  obtain ⟨result, publication, hanswers, hrun⟩ := analyzeAll_answers scorer hs
  have huri (d : Document) : (publication d).uri = d.uri := (hanswers d).uri
  have hothers {uri : String} {es : List Document} (h : ∀ d ∈ es, d.uri ≠ uri) :
      ∀ p ∈ es.map publication, p.uri ≠ uri := by
    intro p hp
    obtain ⟨d, hd, rfl⟩ := List.mem_map.1 hp
    rw [huri]
    exact h d hd
  simp only [hrun, List.nil_append]
  refine ⟨by simp, by simp, ?_, ?_, ?_, ?_⟩
  · intro i d hd
    exact ⟨result d, publication d, by simp [hd], by simp [hd], hanswers d⟩
  · rintro before d after rfl hafter
    refine ⟨publication d, by simp, ?_⟩
    rw [List.map_append, List.map_cons, ← List.singleton_append, ← List.append_assoc,
      Board.get?_append (hothers hafter), Board.get?_concat, if_pos (huri d).symm]
  · intro uri h
    exact Board.get?_append (b := []) (hothers h)
  · intro uri
    rw [← Board.get?_filter, List.filter_map]
    simp only [Function.comp_def, huri]

/-- A document that is analyzed again, now in a language that is switched off, and one whose engine
fails first. -/
theorem analyzeAll_publishes_of_failure :
    let s : Settings :=
      { exclude := [], fileSizeLimit := .int (-1), diagnosticsEnabled := .bool true
        enabled := fun language => .bool (language ≠ .lua) }
    let unit := MetricUnit.mk 0 1 "function f" (.number 7) true "for 'function'" []
    let scorer : Scorer := fun _ d =>
      if d.text = [] then .error (.problem (.parsing d.uri d.languageId "no text"))
      else .ok (.file 1 [unit])
    let text : Text := [.scalar 'x']
    let ds : List Document := [⟨"a", "typescript", text, 0⟩, ⟨"b", "typescript", [], 0⟩,
      ⟨"a", "lua", text, 1⟩, ⟨"b", "typescript", text, 1⟩]
    let run := analyzeAll scorer s [] ds
    s.Renders ∧ run.2.length = 4 ∧
      (∃ p, run.2[0]? = some p ∧ p.uri = "a" ∧ p.diagnostics.length = 1) ∧
      run.1[1]? = some (.error (.problem (.parsing "b" "typescript" "no text"))) ∧
      Board.get? run.2 "a" = some [] ∧ (∃ x, Board.get? run.2 "b" = some [x]) ∧
      Board.get? run.2 "c" = none := by
  intro s unit scorer text ds run
  have hs : s.Renders := by
    refine ⟨?_, ⟨_, rfl⟩, ?_⟩
    · intro level
      cases level <;> exact ⟨.number _, rfl⟩
    · intro level
      cases level <;> exact ⟨_, rfl⟩
  obtain ⟨-, hlength, hanswers, hlatest, hnone, -⟩ := analyzeAll_publishes scorer hs ds
  obtain ⟨_, p₀, -, hp₀, h₀⟩ := hanswers 0 _ rfl
  obtain ⟨r₁, _, hr₁, -, h₁⟩ := hanswers 1 _ rfl
  obtain ⟨_, p₂, -, hp₂, h₂⟩ := hanswers 2 _ rfl
  obtain ⟨_, p₃, -, hp₃, h₃⟩ := hanswers 3 _ rfl
  refine ⟨hs, hlength, ⟨p₀, hp₀, h₀.uri, ?_⟩, ?_, ?_, ?_, ?_⟩
  · exact (h₀.shown _ rfl rfl rfl).length_eq.symm
  · rw [hr₁, (h₁.fails _).2 ⟨rfl, rfl⟩]
  · obtain ⟨p, hp, hget⟩ := hlatest (ds.take 2) ⟨"a", "lua", text, 1⟩ (ds.drop 3) rfl (by decide)
    cases hp₂.symm.trans hp
    rw [hget, (h₂.rejected rfl).2]
  · obtain ⟨p, hp, hget⟩ := hlatest (ds.take 3) ⟨"b", "typescript", text, 1⟩ [] rfl (by decide)
    cases hp₃.symm.trans hp
    obtain ⟨x, hx⟩ := List.length_eq_one_iff.1 (h₃.shown _ rfl rfl rfl).length_eq.symm
    exact ⟨x, by rw [hget, hx]⟩
  · exact hnone "c" (by decide)

end ComplexityHints
