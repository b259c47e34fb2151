import ComplexityHints.Proofs.Exclusion
import ComplexityHints.Proofs.Reading
import Mathlib.Data.List.Induction
import Mathlib.Tactic

namespace ComplexityHints

namespace Files

variable {t : FileTree} {patterns : List String} {forced : Bool} {p a : Path}

section FirstPlaces

variable {ps : List Path}

theorem firstOnly_append_singleton (t : FileTree) (seen : List (List String)) (ps : List Path)
    (p : Path) :
    firstOnly t seen (ps ++ [p]) = firstOnly t seen ps ++
      if t.place p ∈ seen ∨ t.place p ∈ ps.map t.place then [] else [p] := by
  induction ps generalizing seen with
  | nil => by_cases h : t.place p ∈ seen <;> simp_all [firstOnly]
  | cons q ps ih =>
    rw [List.cons_append, firstOnly, firstOnly, ih, ih]
    simp only [List.contains_iff_mem, List.map_cons, List.mem_cons]
    split
    next hseen =>
      -- a place equal to that of the first candidate is among those seen
      have hold : t.place p = t.place q → t.place p ∈ seen := fun heq => heq ▸ hseen
      congr 2
      apply propext
      tauto
    next hseen => simp [or_assoc, or_left_comm]

def IsFirst (t : FileTree) (ps : List Path) (i : Nat) : Prop :=
  ∀ j < i, (ps.map t.place)[j]? ≠ (ps.map t.place)[i]?

instance (t : FileTree) (ps : List Path) : DecidablePred (IsFirst t ps) := fun i =>
  inferInstanceAs (Decidable (∀ j < i, (ps.map t.place)[j]? ≠ (ps.map t.place)[i]?))

/-- The candidates at which a place occurs first, in order. -/
def firstPlaces (t : FileTree) (ps : List Path) : List Path :=
  ((List.range ps.length).filter (IsFirst t ps)).filterMap (ps[·]?)

theorem isFirst_append (q : Path) {i : Nat} (hi : i < ps.length) :
    IsFirst t (ps ++ [q]) i ↔ IsFirst t ps i := by
  apply forall₂_congr
  intro j hj
  rw [List.map_append, List.getElem?_append_left (by simpa using hj.trans hi),
    List.getElem?_append_left (by simpa using hi)]

theorem isFirst_length (q : Path) :
    IsFirst t (ps ++ [q]) ps.length ↔ t.place q ∉ ps.map t.place := by
  have hlast : ((ps ++ [q]).map t.place)[ps.length]? = some (t.place q) := by simp
  rw [IsFirst, hlast, List.mem_iff_getElem?]
  push Not
  constructor
  · intro h j hj
    have hlt : j < ps.length := by simpa using (List.getElem?_eq_some_iff.1 hj).1
    apply h j hlt
    rwa [List.map_append, List.getElem?_append_left (by simpa using hlt)]
  · intro h j hlt hj
    apply h j
    rwa [List.map_append, List.getElem?_append_left (by simpa using hlt)] at hj

theorem firstPlaces_append_singleton (t : FileTree) (ps : List Path) (p : Path) :
    firstPlaces t (ps ++ [p]) = firstPlaces t ps ++
      if t.place p ∈ ps.map t.place then [] else [p] := by
  have hfirst : (List.range ps.length).filter (IsFirst t (ps ++ [p])) =
      (List.range ps.length).filter (IsFirst t ps) := by
    apply List.filter_congr
    intro i hi
    exact decide_eq_decide.2 (isFirst_append p (List.mem_range.1 hi))
  have hget : ((List.range ps.length).filter (IsFirst t ps)).filterMap ((ps ++ [p])[·]?) =
      firstPlaces t ps := by
    apply List.filterMap_congr
    intro i hi
    exact List.getElem?_append_left (List.mem_range.1 (List.mem_filter.1 hi).1)
  rw [firstPlaces, List.length_append, List.length_singleton, List.range_succ, List.filter_append,
    List.filterMap_append, hfirst, hget]
  by_cases hold : t.place p ∈ ps.map t.place
  · have hlast : ¬ IsFirst t (ps ++ [p]) ps.length := mt (isFirst_length p).1 (not_not.2 hold)
    simp [hold, hlast]
  · have hlast : IsFirst t (ps ++ [p]) ps.length := (isFirst_length p).2 hold
    simp [hold, hlast]

/-- The run keeps exactly the candidates whose place occurs there first. -/
theorem firstOnly_eq_firstPlaces (t : FileTree) (ps : List Path) :
    firstOnly t [] ps = firstPlaces t ps := by
  induction ps using List.reverseRecOn with
  | nil => rfl
  | append_singleton ps p ih =>
    rw [firstOnly_append_singleton, firstPlaces_append_singleton, ih]
    simp

theorem mem_places_firstOnly (t : FileTree) (ps : List Path) (k : List String) :
    k ∈ (firstOnly t [] ps).map t.place ↔ k ∈ ps.map t.place := by
  induction ps using List.reverseRecOn with
  | nil => rfl
  | append_singleton ps p ih =>
    rw [firstOnly_append_singleton, List.map_append, List.map_append, List.mem_append,
      List.mem_append, ih]
    split
    next hold =>
      have hold : t.place p ∈ ps.map t.place := by simpa using hold
      simp only [List.map_nil, List.not_mem_nil, or_false, List.map_singleton, List.mem_singleton,
        iff_self_or]
      rintro rfl
      exact hold
    next => rfl

theorem nodup_places_firstOnly (t : FileTree) (ps : List Path) :
    ((firstOnly t [] ps).map t.place).Nodup := by
  induction ps using List.reverseRecOn with
  | nil => exact List.nodup_nil
  | append_singleton ps p ih =>
    rw [firstOnly_append_singleton]
    split
    next => simpa using ih
    next hnew =>
      rw [List.map_append, List.map_singleton, List.nodup_append]
      refine ⟨ih, List.nodup_singleton _, ?_⟩
      rintro k hk k' hk' rfl
      rw [mem_places_firstOnly, List.mem_singleton.1 hk'] at hk
      exact hnew (.inr hk)

end FirstPlaces

def Spared (t : FileTree) (patterns : List String) (p : Path) : Prop :=
  ∀ pattern ∈ patterns, Glob.matchPath (t.uri p).toList pattern.toList = .ok false ∧
    Glob.matchPath p.text.toList pattern.toList = .ok false

theorem Spared.not_excluded (h : Spared t patterns p) : Gate.excluded patterns (t.uri p) = false := by
  rw [Gate.excluded, List.any_eq_false]
  intro pattern hpattern
  rw [(h pattern hpattern).1]
  simp

def Named (t : FileTree) (arguments : List Path) (k : List String) : Prop :=
  ∃ a ∈ arguments, t.isFile a = true ∧ t.place a = k

/-- One of the directories among the arguments leads to a place by a path of a known or forced language
that no pattern matches. -/
def Walked (t : FileTree) (patterns : List String) (forced : Bool) (arguments : List Path)
    (k : List String) : Prop :=
  ∃ a ∈ arguments, t.isFile a = false ∧ ∃ p ∈ t.filesBelow a, t.place p = k ∧
    (forced = true ∨ p.language?.isSome = true) ∧ Spared t patterns p

section Compiling

variable (hpatterns : ∀ pattern ∈ patterns, Glob.compiles pattern = true)

include hpatterns

theorem not_meetsMalformed (p : Path) : ¬ MeetsMalformed t patterns p := by
  rintro ⟨before, bad, after, rfl, hbad, -⟩
  have hok := hpatterns bad (by simp)
  rw [hbad] at hok
  cases hok

theorem taken_iff : taken t patterns forced p = true ↔
    (forced = true ∨ p.language?.isSome = true) ∧ Spared t patterns p := by
  have hall : patterns.filter Glob.compiles = patterns := List.filter_eq_self.2 hpatterns
  have hspared : patterns.any (hit t p) = false ↔ Spared t patterns p := by
    rw [List.any_eq_false]
    apply forall₂_congr
    intro pattern hpattern
    rw [Glob.matchPath_of_compiles (hpatterns pattern hpattern),
      Glob.matchPath_of_compiles (hpatterns pattern hpattern), hit]
    simp
  rw [taken, hall, ← hspared]
  simp

theorem candidates_eq (forced : Bool) (a : Path) :
    candidates t patterns forced a =
      .ok (if t.isFile a then [a] else (t.filesBelow a).filter (taken t patterns forced)) := by
  apply candidates_of_not_stuck
  rintro - ⟨p, -, -, hmeets⟩
  exact not_meetsMalformed hpatterns p hmeets

theorem mem_candidates_iff {found : List Path} (h : candidates t patterns forced a = .ok found) :
    p ∈ found ↔ t.isFile a = true ∧ p = a ∨ t.isFile a = false ∧ p ∈ t.filesBelow a ∧
      (forced = true ∨ p.language?.isSome = true) ∧ Spared t patterns p := by
  rw [candidates_eq hpatterns, Except.ok.injEq] at h
  subst h
  cases t.isFile a with
  | true => simp
  | false => simp [taken_iff hpatterns]

theorem exists_select (forced : Bool) (arguments : List Path) :
    ∃ found files, arguments.mapM (candidates t patterns forced) = .ok found ∧
      select t patterns forced arguments = .ok files ∧ files = firstOnly t [] found.flatten := by
  have hfound : arguments.mapM (candidates t patterns forced) = .ok (arguments.map _) :=
    mapM_eq_ok fun a _ => candidates_eq hpatterns forced a
  refine ⟨_, _, hfound, ?_, rfl⟩
  rw [select, hfound]
  rfl

theorem mem_places_select {arguments files : List Path} {k : List String}
    (h : select t patterns forced arguments = .ok files) :
    k ∈ files.map t.place ↔ Named t arguments k ∨ Walked t patterns forced arguments k := by
  obtain ⟨found, files', hfound, hselect, hfiles⟩ := exists_select (t := t) hpatterns forced arguments
  cases h.symm.trans hselect
  rw [hfiles, mem_places_firstOnly, List.mem_map]
  constructor
  · rintro ⟨p, hp, rfl⟩
    obtain ⟨some', hsome, hp⟩ := List.mem_flatten.1 hp
    obtain ⟨a, ha, hcandidates⟩ := (mem_of_mapM hfound some').1 hsome
    rcases (mem_candidates_iff hpatterns hcandidates).1 hp with ⟨hfile, rfl⟩ | ⟨hfile, hbelow, htaken⟩
    · exact .inl ⟨p, ha, hfile, rfl⟩
    · exact .inr ⟨a, ha, hfile, p, hbelow, rfl, htaken⟩
  · rintro (⟨a, ha, hfile, rfl⟩ | ⟨a, ha, hfile, p, hbelow, rfl, htaken⟩)
    all_goals
      have hcandidates := candidates_eq (t := t) hpatterns forced a
      have hmem := (mem_of_mapM hfound _).2 ⟨a, ha, hcandidates⟩
      have hiff (q) := mem_candidates_iff (p := q) hpatterns hcandidates
    · exact ⟨a, List.mem_flatten_of_mem hmem ((hiff a).2 (.inl ⟨hfile, rfl⟩)), rfl⟩
    · exact ⟨p, List.mem_flatten_of_mem hmem ((hiff p).2 (.inr ⟨hfile, hbelow, htaken⟩)), rfl⟩

end Compiling

/-- With patterns that compile a run takes, for each place, the first of all candidates. Named files are
taken whatever the patterns say; any other place is taken exactly if a walk leads to it by a path of a
known or forced language that no pattern matches, and then the gate does not reject it on account of a
pattern. The places do not depend on the order and the number of the arguments. -/
theorem select_takes_first_places (t : FileTree) (patterns : List String) (forced : Bool)
    (arguments : List Path) (hpatterns : ∀ pattern ∈ patterns, Glob.compiles pattern = true) :
    ∃ found files, arguments.mapM (candidates t patterns forced) = .ok found ∧
      select t patterns forced arguments = .ok files ∧
      files = firstPlaces t found.flatten ∧ (files.map t.place).Nodup ∧
      (∀ a ∈ arguments, t.isFile a = true → t.place a ∈ files.map t.place) ∧
      (∀ k, ¬ Named t arguments k →
        (k ∈ files.map t.place ↔ Walked t patterns forced arguments k)) ∧
      (∀ p ∈ files, ¬ Named t arguments (t.place p) →
        ∀ languageId d, loadDocument t p languageId = .ok d →
          Gate.excluded patterns d.uri = false) ∧
      ∀ others : List Path, (∀ a, a ∈ others ↔ a ∈ arguments) →
        ∃ files', select t patterns forced others = .ok files' ∧
          ∀ k, k ∈ files'.map t.place ↔ k ∈ files.map t.place := by
  obtain ⟨found, files, hfound, hselect, hfiles⟩ := exists_select (t := t) hpatterns forced arguments
  have hplaces (k) := mem_places_select (k := k) hpatterns hselect
  refine ⟨found, files, hfound, hselect, ?_, ?_, ?_, ?_, ?_, ?_⟩
  · rw [hfiles, firstOnly_eq_firstPlaces]
  · rw [hfiles]
    exact nodup_places_firstOnly t _
  · intro a ha hfile
    exact (hplaces _).2 (.inl ⟨a, ha, hfile, rfl⟩)
  · intro k hnamed
    rw [hplaces, or_iff_right hnamed]
  · intro p hp hnamed languageId d hload
    have hwalked := (hplaces _).1 (List.mem_map_of_mem hp)
    obtain ⟨a, -, -, q, -, hq, -, hspared⟩ := hwalked.resolve_left hnamed
    -- another spelling of the file has the same URI
    have huri : t.uri q = t.uri p := congrArg fileUri hq
    rw [(loadDocument_eq_ok hload).1, ← huri]
    exact hspared.not_excluded
  · intro others hothers
    obtain ⟨-, files', -, hselect', -⟩ := exists_select (t := t) hpatterns forced others
    refine ⟨files', hselect', fun k => ?_⟩
    rw [hplaces, mem_places_select hpatterns hselect']
    simp only [Named, Walked, hothers]

/-- One file under two names: `run` below `bin`, and a link to it below `d` that has an extension. -/
def linkedScript : FileTree where
  directory := ["w"]
  home := ["h"]
  find p := .ok (if p.name = "d" ∨ p.name = "bin" then .directory else .file)
  read _ := .ok []
  filesBelow p := [p.append [if p.name = "d" then "run.ts" else "run"]]
  place _ := ["w", "bin", "run"]
  overflow _ := none

/-- The file has no extension where it lies, and the pattern matches the link as it is spelled from the
one directory, not from the other: it is taken on account of the last argument alone. -/
theorem select_takes_first_places_of_link :
    let own : Path := ⟨false, ["bin"]⟩
    let here : Path := ⟨false, ["d"]⟩
    let arguments := [own, here, ⟨false, ["..", "w", "d"]⟩]
    (∀ pattern ∈ ["d/*.ts"], Glob.compiles pattern = true) ∧
      select linkedScript ["d/*.ts"] false [own, here] = .ok [] ∧
      ∃ files, select linkedScript ["d/*.ts"] false arguments = .ok files ∧
        ["w", "bin", "run"] ∈ files.map linkedScript.place ∧
        ∃ files', select linkedScript ["d/*.ts"] false (arguments.reverse ++ arguments) = .ok files' ∧
          ["w", "bin", "run"] ∈ files'.map linkedScript.place := by
  intro own here arguments
  have hpatterns : ∀ pattern ∈ ["d/*.ts"], Glob.compiles pattern = true := by decide +kernel
  have hnone : select linkedScript ["d/*.ts"] false [own, here] = .ok [] := by decide +kernel
  obtain ⟨_, files, -, hselect, -, -, -, hwalked, -, hothers⟩ :=
    select_takes_first_places linkedScript ["d/*.ts"] false arguments hpatterns
  have hmem : ["w", "bin", "run"] ∈ files.map linkedScript.place := by
    refine (hwalked _ ?_).2 ⟨⟨false, ["..", "w", "d"]⟩, by decide, by decide,
      ⟨false, ["..", "w", "d", "run.ts"]⟩, by decide, rfl, .inr (by decide +kernel), ?_⟩
    · unfold Named
      decide +kernel
    · unfold Spared
      decide +kernel
  obtain ⟨files', hselect', hsame⟩ := hothers (arguments.reverse ++ arguments) fun a => by
    rw [List.mem_append, List.mem_reverse, or_self]
  exact ⟨hpatterns, hnone, files, hselect, hmem, files', hselect', (hsame _).2 hmem⟩

end Files

end ComplexityHints
