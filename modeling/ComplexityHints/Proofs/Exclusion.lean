import ComplexityHints.Files.Select
import ComplexityHints.Files.Snapshot
import ComplexityHints.Proofs.Failure

namespace ComplexityHints

namespace Glob

variable {pattern : String}

def compiles (pattern : String) : Bool := (compile pattern.toList).toOption.isSome

def hits (text pattern : String) : Bool :=
  (matchPath text.toList pattern.toList).toOption.getD false

theorem matchPath_of_compiles (h : compiles pattern = true) (text : String) :
    matchPath text.toList pattern.toList = .ok (hits text pattern) := by
  obtain ⟨compiled?, hcompiled⟩ := ok_of_isSome h
  rw [hits, matchPath, hcompiled]
  cases compiled? <;> rfl

theorem matchPath_of_not_compiles (h : compiles pattern = false) (text : String) :
    ∃ e, matchPath text.toList pattern.toList = .error e := by
  rw [compiles] at h
  cases hcompile : compile pattern.toList with
  | ok compiled? => simp [hcompile, Except.toOption] at h
  | error e => exact ⟨e, by rw [matchPath, hcompile]; rfl⟩

theorem hits_of_not_compiles (h : compiles pattern = false) (text : String) :
    hits text pattern = false := by
  obtain ⟨e, he⟩ := matchPath_of_not_compiles h text
  rw [hits, he]
  rfl

end Glob

namespace Gate

theorem excluded_eq_any (patterns : List String) (uri : String) :
    excluded patterns uri = patterns.any (Glob.hits uri) := by
  apply List.any_congr rfl
  intro pattern
  rw [Glob.hits]
  cases Glob.matchPath uri.toList pattern.toList <;> rfl

/-- A pattern that does not compile excludes nothing. -/
theorem excluded_filter_compiles (patterns : List String) (uri : String) :
    excluded (patterns.filter Glob.compiles) uri = excluded patterns uri := by
  rw [excluded_eq_any, excluded_eq_any, List.any_filter]
  apply List.any_congr rfl
  intro pattern
  cases hcompiles : Glob.compiles pattern with
  | true => rfl
  | false => rw [Glob.hits_of_not_compiles hcompiles]; rfl

theorem excluded_perm {patterns others : List String} (h : patterns.Perm others) (uri : String) :
    excluded patterns uri = excluded others uri := h.any_eq

end Gate

namespace Files

variable {t : FileTree} {patterns : List String} {pattern : String} {forced : Bool} {p : Path}

def hit (t : FileTree) (p : Path) (pattern : String) : Bool :=
  Glob.hits (t.uri p) pattern || Glob.hits p.text pattern

/-- A pattern that does not compile comes before every pattern that matches a file. -/
def MeetsMalformed (t : FileTree) (patterns : List String) (p : Path) : Prop :=
  ∃ before bad after, patterns = before ++ bad :: after ∧ Glob.compiles bad = false ∧
    ∀ pattern ∈ before, hit t p pattern = false

theorem not_meetsMalformed_nil : ¬ MeetsMalformed t [] p := by
  rintro ⟨before, bad, after, h, -⟩
  simp at h

theorem meetsMalformed_cons : MeetsMalformed t (pattern :: patterns) p ↔
    Glob.compiles pattern = false ∨ hit t p pattern = false ∧ MeetsMalformed t patterns p := by
  constructor
  · rintro ⟨before, bad, after, h, hbad, hbefore⟩
    cases before with
    | nil =>
      cases h
      exact .inl hbad
    | cons first before =>
      cases h
      obtain ⟨hfirst, hbefore⟩ := List.forall_mem_cons.1 hbefore
      exact .inr ⟨hfirst, before, bad, after, rfl, hbad, hbefore⟩
  · rintro (h | ⟨hpattern, before, bad, after, rfl, hbad, hbefore⟩)
    · exact ⟨[], pattern, patterns, rfl, h, by simp⟩
    · exact ⟨pattern :: before, bad, after, rfl, hbad, List.forall_mem_cons.2 ⟨hpattern, hbefore⟩⟩

theorem skipped_cons_of_compiles (h : Glob.compiles pattern = true) :
    skipped t (pattern :: patterns) p =
      if hit t p pattern then .ok true else skipped t patterns p := by
  rw [skipped, Glob.matchPath_of_compiles h, Glob.matchPath_of_compiles h, hit]
  cases Glob.hits (t.uri p) pattern <;> cases Glob.hits p.text pattern <;> rfl

theorem skipped_cons_of_not_compiles (h : Glob.compiles pattern = false) :
    ∃ e, skipped t (pattern :: patterns) p = .error e := by
  obtain ⟨e, he⟩ := Glob.matchPath_of_not_compiles h (t.uri p)
  exact ⟨e, by rw [skipped, he]; rfl⟩

theorem skipped_of_meetsMalformed (h : MeetsMalformed t patterns p) :
    ∃ e, skipped t patterns p = .error e := by
  induction patterns with
  | nil => exact absurd h not_meetsMalformed_nil
  | cons pattern patterns ih =>
    cases hcompiles : Glob.compiles pattern with
    | false => exact skipped_cons_of_not_compiles hcompiles
    | true =>
      rw [meetsMalformed_cons] at h
      obtain ⟨hhit, h⟩ := h.resolve_left (by simp [hcompiles])
      rw [skipped_cons_of_compiles hcompiles, hhit]
      exact ih h

/-- A file that meets no malformed pattern is skipped if a pattern that compiles matches it. -/
theorem skipped_of_not_meetsMalformed (h : ¬ MeetsMalformed t patterns p) :
    skipped t patterns p = .ok ((patterns.filter Glob.compiles).any (hit t p)) := by
  induction patterns with
  | nil => rfl
  | cons pattern patterns ih =>
    rw [meetsMalformed_cons, not_or, Bool.not_eq_false] at h
    obtain ⟨hcompiles, h⟩ := h
    rw [skipped_cons_of_compiles hcompiles, List.filter_cons_of_pos hcompiles, List.any_cons]
    cases hhit : hit t p pattern with
    | true => rfl
    | false => exact ih fun hmeets => h ⟨hhit, hmeets⟩

/-- Whether a walk is to take a file: it is of a known or forced language, and no pattern that compiles
matches it. -/
def taken (t : FileTree) (patterns : List String) (forced : Bool) (p : Path) : Bool :=
  (forced || p.language?.isSome) && !(patterns.filter Glob.compiles).any (hit t p)

/-- A walk that finds these files looks at one that meets a malformed pattern. -/
def Stuck (t : FileTree) (patterns : List String) (forced : Bool) (ps : List Path) : Prop :=
  ∃ p ∈ ps, (forced || p.language?.isSome) = true ∧ MeetsMalformed t patterns p

theorem stuck_cons {ps : List Path} : Stuck t patterns forced (p :: ps) ↔
    (forced || p.language?.isSome) = true ∧ MeetsMalformed t patterns p ∨
      Stuck t patterns forced ps := by
  simp [Stuck]

theorem walked_of_stuck {ps : List Path} (h : Stuck t patterns forced ps) :
    ∃ e, walked t patterns forced ps = .error e := by
  induction ps with
  | nil => simp [Stuck] at h
  | cons p ps ih =>
    rw [walked]
    rcases stuck_cons.1 h with ⟨haccepted, hmeets⟩ | h
    · obtain ⟨e, he⟩ := skipped_of_meetsMalformed hmeets
      rw [if_pos haccepted, he]
      exact ⟨e, rfl⟩
    · obtain ⟨e, he⟩ := ih h
      rw [he]
      split
      · cases skipped t patterns p with
        | error e' => exact ⟨e', rfl⟩
        | ok skip => exact ⟨e, rfl⟩
      · exact ⟨e, rfl⟩

theorem walked_of_not_stuck {ps : List Path} (h : ¬ Stuck t patterns forced ps) :
    walked t patterns forced ps = .ok (ps.filter (taken t patterns forced)) := by
  induction ps with
  | nil => rfl
  | cons p ps ih =>
    rw [stuck_cons, not_or] at h
    obtain ⟨hp, h⟩ := h
    rw [walked, ih h, List.filter_cons, taken]
    cases haccepted : forced || p.language?.isSome with
    | true =>
      rw [skipped_of_not_meetsMalformed fun hmeets => hp ⟨haccepted, hmeets⟩]
      cases (patterns.filter Glob.compiles).any (hit t p) <;> rfl
    | false => rfl

theorem candidates_of_stuck (hfile : t.isFile p = false)
    (h : Stuck t patterns forced (t.filesBelow p)) :
    ∃ e, candidates t patterns forced p = .error e := by
  rw [candidates, hfile]
  exact walked_of_stuck h

theorem candidates_of_not_stuck
    (h : t.isFile p = false → ¬ Stuck t patterns forced (t.filesBelow p)) :
    candidates t patterns forced p =
      .ok (if t.isFile p then [p] else (t.filesBelow p).filter (taken t patterns forced)) := by
  rw [candidates]
  cases hfile : t.isFile p with
  | true => rfl
  | false => exact walked_of_not_stuck (h hfile)

/-- Patterns that do not compile make no difference to the gate, whatever the order of the others.
They end a run exactly if a walk looks at a file that meets one before any pattern that matches it;
else the run takes what the other patterns leave. -/
theorem select_with_malformed (t : FileTree) (patterns : List String) (forced : Bool)
    (arguments : List Path) :
    (∀ others uri, others.Perm (patterns.filter Glob.compiles) →
      Gate.excluded patterns uri = Gate.excluded others uri) ∧
    ((∃ p ∈ arguments, t.isFile p = false ∧ Stuck t patterns forced (t.filesBelow p)) →
      ∃ e, select t patterns forced arguments = .error e) ∧
    ((∀ p ∈ arguments, t.isFile p = false → ¬ Stuck t patterns forced (t.filesBelow p)) →
      select t patterns forced arguments = .ok (firstOnly t [] (arguments.flatMap fun p =>
        if t.isFile p then [p] else (t.filesBelow p).filter (taken t patterns forced)))) := by
  refine ⟨?_, ?_, ?_⟩
  · intro others uri h
    rw [Gate.excluded_perm h, Gate.excluded_filter_compiles]
  · rintro ⟨p, hp, hfile, hstuck⟩
    obtain ⟨e, he⟩ := mapM_eq_error ⟨p, hp, candidates_of_stuck hfile hstuck⟩
    rw [select, he]
    exact ⟨e, rfl⟩
  · intro h
    rw [select, mapM_eq_ok fun p hp => candidates_of_not_stuck (h p hp), List.flatMap_def]
    rfl

def oneScript : FileTree := Snapshot.tree
  { directory := ["w"], home := ["h"], directories := [], files := [(["w", "d", "a.ts"], [])] }

/-- Of a malformed pattern and one that matches the file, the one that stands first decides. -/
theorem select_with_malformed_of_order :
    Gate.excluded ["**/*.ts", "[z-a]"] "file:///a.ts" = Gate.excluded ["**/*.ts"] "file:///a.ts" ∧
      select oneScript ["**/*.ts", "[z-a]"] false [⟨false, ["d"]⟩] = .ok [] ∧
      ∃ e, select oneScript ["[z-a]", "**/*.ts"] false [⟨false, ["d"]⟩] = .error e := by
  have hcompiles : ["**/*.ts", "[z-a]"].filter Glob.compiles = ["**/*.ts"] := by decide +kernel
  have hbelow : oneScript.filesBelow ⟨false, ["d"]⟩ = [⟨false, ["d", "a.ts"]⟩] := by decide +kernel
  obtain ⟨hgate, -, hwalk⟩ :=
    select_with_malformed oneScript ["**/*.ts", "[z-a]"] false [⟨false, ["d"]⟩]
  obtain ⟨-, hstuck, -⟩ :=
    select_with_malformed oneScript ["[z-a]", "**/*.ts"] false [⟨false, ["d"]⟩]
  refine ⟨hgate _ _ (by rw [hcompiles]), ?_, ?_⟩
  · rw [hwalk]
    · exact congrArg Except.ok (by decide +kernel)
    · rintro p hp - ⟨q, hq, -, hmeets⟩
      rw [List.mem_singleton.1 hp, hbelow] at hq
      rw [List.mem_singleton.1 hq, meetsMalformed_cons] at hmeets
      rcases hmeets with h | ⟨h, -⟩
      · exact absurd h (by decide +kernel)
      · exact absurd h (by decide +kernel)
  · apply hstuck
    refine ⟨_, List.mem_singleton_self _, by decide +kernel, ⟨false, ["d", "a.ts"]⟩, ?_, ?_, ?_⟩
    · rw [hbelow]
      exact List.mem_singleton_self _
    · decide +kernel
    · exact ⟨[], "[z-a]", ["**/*.ts"], rfl, by decide +kernel, List.forall_mem_nil _⟩

/-- No pattern that compiles matches the only file, which is of a known language; the malformed pattern
ends the walk all the same. -/
theorem malformed_pattern_ends_walk :
    (oneScript.filesBelow ⟨false, ["d"]⟩).filter (taken oneScript ["[z-a]"] false) =
        [⟨false, ["d", "a.ts"]⟩] ∧
      ∃ e, select oneScript ["[z-a]"] false [⟨false, ["d"]⟩] = .error e := by
  refine ⟨by decide +kernel, ?_⟩
  have hnone : (select oneScript ["[z-a]"] false [⟨false, ["d"]⟩]).toOption = none := by
    decide +kernel
  cases hselect : select oneScript ["[z-a]"] false [⟨false, ["d"]⟩] with
  | error e => exact ⟨e, rfl⟩
  | ok files =>
    rw [hselect] at hnone
    cases hnone

end Files

end ComplexityHints
