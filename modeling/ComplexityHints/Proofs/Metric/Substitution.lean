import ComplexityHints.Metric.Message
import ComplexityHints.Proofs.Wording

namespace ComplexityHints

/-- A template with everything put in that its marks stand for, at once and from left to right. What is put
in is not looked at again, and a character at which no mark begins is kept. -/
inductive Filled (marks : List (List Char × List Char)) : List Char → List Char → Prop
  | nil : Filled marks [] []
  | mark {old new template text : List Char} (hmark : (old, new) ∈ marks)
      (h : Filled marks template text) : Filled marks (old ++ template) (new ++ text)
  | keep {c : Char} {template text : List Char} (hnone : ∀ m ∈ marks, ¬ m.1 <+: c :: template)
      (h : Filled marks template text) : Filled marks (c :: template) (c :: text)

/-- Marks of which at most one begins at any place of a text. -/
structure Apart (marks : List (List Char × List Char)) : Prop where
  ne_nil : ∀ m ∈ marks, m.1 ≠ []
  eq_of_begins : ∀ m ∈ marks, ∀ m' ∈ marks, m.1 <+: m'.1 → m = m'

section Filling

variable {marks : List (List Char × List Char)} {template text text' : List Char}

theorem Apart.exists_filled (hmarks : Apart marks) (template : List Char) :
    ∃ text, Filled marks template text := by
  induction hlength : template.length using Nat.strong_induction_on generalizing template with
  | _ length ih =>
    subst hlength
    cases template with
    | nil => exact ⟨[], .nil⟩
    | cons c cs =>
      by_cases hbegins : ∃ m ∈ marks, m.1 <+: c :: cs
      · obtain ⟨m, hm, rest, hrest⟩ := hbegins
        have hlength := congrArg List.length hrest
        have hpos := List.length_pos_of_ne_nil (hmarks.ne_nil m hm)
        rw [List.length_append] at hlength
        obtain ⟨text, htext⟩ := ih rest.length (by omega) rest rfl
        exact ⟨m.2 ++ text, hrest ▸ .mark hm htext⟩
      · push Not at hbegins
        obtain ⟨text, htext⟩ := ih cs.length (by simp) cs rfl
        exact ⟨c :: text, .keep hbegins htext⟩

theorem Filled.unique (hmarks : Apart marks) (h : Filled marks template text)
    (h' : Filled marks template text') : text = text' := by
  induction h generalizing text' with
  | nil =>
    generalize heq : [] = t at h'
    cases h' with
    | nil => rfl
    | mark hmark _ => exact absurd (List.append_eq_nil_iff.1 heq.symm).1 (hmarks.ne_nil _ hmark)
    | keep _ _ => cases heq
  | @mark old new template text hmark _ ih =>
    generalize heq : old ++ template = t at h'
    have hbegins : old <+: t := ⟨template, heq⟩
    cases h' with
    | nil => exact absurd (List.prefix_nil.1 hbegins) (hmarks.ne_nil _ hmark)
    | @mark old' new' _ _ hmark' h' =>
      have hsame : (old, new) = (old', new') := by
        rcases List.prefix_or_prefix_of_prefix hbegins (List.prefix_append old' _) with hle | hle
        · exact hmarks.eq_of_begins _ hmark _ hmark' hle
        · exact (hmarks.eq_of_begins _ hmark' _ hmark hle).symm
      cases hsame
      cases List.append_cancel_left heq
      rw [ih h']
    | keep hnone _ => exact absurd hbegins (hnone _ hmark)
  | @keep c template text hnone _ ih =>
    generalize heq : c :: template = t at h'
    cases h' with
    | nil => cases heq
    | mark hmark _ => exact absurd ⟨_, heq.symm⟩ (hnone _ hmark)
    | keep _ h' =>
      cases heq
      rw [ih h']

/-- There is one filling of a template. -/
theorem Filled.iff_eq (hmarks : Apart marks) (h : Filled marks template text) (filled : List Char) :
    Filled marks template filled ↔ filled = text := by
  constructor
  · intro hfilled
    exact hfilled.unique hmarks h
  · intro heq
    exact heq ▸ h

end Filling

section Replacing

variable {old new s r : List Char} {c : Char}

theorem replaceAll_skip (old new : List Char) (skip : Nat) (s : List Char) :
    replaceAll old new skip s = replaceAll old new 0 (s.drop skip) := by
  induction s generalizing skip with
  | nil => simp [replaceAll]
  | cons c s ih =>
    cases skip with
    | zero => rfl
    | succ skip => rw [replaceAll, ih, List.drop_succ_cons]

theorem replaceAll_append (hold : old ≠ []) (new s : List Char) :
    replaceAll old new 0 (old ++ s) = new ++ replaceAll old new 0 s := by
  obtain ⟨c, cs, rfl⟩ := List.exists_cons_of_ne_nil hold
  have hbegins : (c :: cs).isPrefixOf (c :: (cs ++ s)) = true :=
    List.isPrefixOf_iff_prefix.2 ⟨s, rfl⟩
  rw [List.cons_append, replaceAll, if_pos hbegins, replaceAll_skip]
  simp

theorem replaceAll_cons (h : ¬ old <+: c :: s) (new : List Char) :
    replaceAll old new 0 (c :: s) = c :: replaceAll old new 0 s := by
  rw [replaceAll, if_neg]
  rwa [List.isPrefixOf_iff_prefix]

theorem replaceAll_of_not_mem {before : List Char} (hold : old.head? = some c) (h : c ∉ before)
    (new s : List Char) : replaceAll old new 0 (before ++ s) = before ++ replaceAll old new 0 s := by
  obtain ⟨tail, rfl⟩ := List.head?_eq_some_iff.1 hold
  induction before with
  | nil => rfl
  | cons b before ih =>
    have hbegins : ¬ c :: tail <+: b :: (before ++ s) := by
      rw [List.cons_prefix_cons]
      rintro ⟨rfl, -⟩
      exact h (.head before)
    rw [List.cons_append, replaceAll_cons hbegins, ih fun hc => h (.tail b hc), List.cons_append]

theorem eq_cons_of_replaceAll (hold : old ≠ []) (hnew : new ≠ []) (hc : c ∉ new)
    (h : replaceAll old new 0 s = c :: r) : ∃ rest, s = c :: rest ∧ replaceAll old new 0 rest = r := by
  by_cases hbegins : old <+: s
  · obtain ⟨rest, rfl⟩ := hbegins
    obtain ⟨d, ds, rfl⟩ := List.exists_cons_of_ne_nil hnew
    rw [replaceAll_append hold, List.cons_append] at h
    cases h
    exact absurd (.head ds) hc
  · cases s with
    | nil => cases h
    | cons d rest =>
      rw [replaceAll_cons hbegins] at h
      cases h
      exact ⟨rest, rfl, rfl⟩

end Replacing

theorem not_mem_decimalChars {c : Char} (hdigit : ¬ c.isDigit) (hminus : c ≠ '-') (n : Int) :
    c ∉ decimalChars n := by
  intro h
  rcases isDigit_or_minus_of_mem_decimalChars h with h | h
  · exact hdigit h
  · exact hminus h

theorem decimalChars_ne_nil (n : Int) : decimalChars n ≠ [] := by
  cases n with
  | ofNat n => exact Nat.toDigits_ne_nil
  | negSucc n => exact List.cons_ne_nil _ _

theorem eq_one_of_decimalChars {n : Int} (h : decimalChars n = ['1']) : n = 1 := by
  cases n with
  | ofNat n =>
    have hread := Nat.ofDigitChars_toDigits (n := n) (b := 10) (by decide) (by decide)
    rw [show Nat.toDigits 10 n = ['1'] from h] at hread
    exact congrArg Int.ofNat hread.symm
  | negSucc n => cases h

namespace MetricUnit

def bracedMark : List Char := '{' :: complexityMark ++ ['}']

def marks (n : Int) (level : List Char) : List (List Char × List Char) :=
  [(complexityMark, decimalChars n), (levelMark, level)]

/-- What messages take for marks. A complexity of one is put in between braces as the mark of the level. -/
def marksInPasses (n : Int) (level : List Char) : List (List Char × List Char) :=
  if n = 1 then (bracedMark, level) :: marks n level else marks n level

variable {n : Int} {level template text : List Char}

theorem apart_marks (n : Int) (level : List Char) : Apart (marks n level) := by
  constructor <;> simp [marks, complexityMark, levelMark]

theorem apart_marksInPasses (n : Int) (level : List Char) : Apart (marksInPasses n level) := by
  rw [marksInPasses]
  split_ifs
  · constructor <;> simp [marks, bracedMark, complexityMark, levelMark]
  · exact apart_marks n level

theorem marks_subset : marks n level ⊆ marksInPasses n level := by
  rw [marksInPasses]
  split_ifs
  · exact List.subset_cons_self _ _
  · exact List.Subset.refl _

theorem mem_marksInPasses {m : List Char × List Char} (h : m ∈ marksInPasses n level) :
    (n = 1 ∧ m = (bracedMark, level)) ∨ m = (complexityMark, decimalChars n) ∨
      m = (levelMark, level) := by
  rw [marksInPasses] at h
  split_ifs at h with hone <;> simp_all [marks]

/-- The mark of the level begins in what the first pass leaves where it began before, or where a complexity
of one was put in between braces. -/
theorem begins_of_levelMark {c : Char} {s : List Char}
    (h : levelMark <+: c :: replaceAll complexityMark (decimalChars n) 0 s) :
    ∃ m ∈ marksInPasses n level, m.1 <+: c :: s := by
  have hmark : complexityMark ≠ [] := List.cons_ne_nil _ _
  have hclose : '}' ∉ decimalChars n := not_mem_decimalChars (by decide) (by decide) n
  have hclosing {t rest : List Char}
      (ht : '}' :: rest = replaceAll complexityMark (decimalChars n) 0 t) : ∃ t', t = '}' :: t' := by
    obtain ⟨t', ht', -⟩ := eq_cons_of_replaceAll hmark (decimalChars_ne_nil n) hclose ht.symm
    exact ⟨t', ht'⟩
  obtain ⟨rfl, hbehind⟩ := List.cons_prefix_cons.1 h
  obtain ⟨rest, hrest : '1' :: '}' :: rest = _⟩ := hbehind
  by_cases hbegins : complexityMark <+: s
  · obtain ⟨t, rfl⟩ := hbegins
    obtain ⟨d, ds, hdigits⟩ := List.exists_cons_of_ne_nil (decimalChars_ne_nil n)
    rw [replaceAll_append hmark, hdigits, List.cons_append] at hrest
    obtain ⟨rfl, htail⟩ := List.cons.inj hrest
    -- no numeral has a closing brace, so the one put in is `1`
    cases ds with
    | nil =>
      cases eq_one_of_decimalChars hdigits
      obtain ⟨t', rfl⟩ := hclosing htail
      exact ⟨(bracedMark, level), .head _, t', rfl⟩
    | cons e ds =>
      obtain ⟨rfl, -⟩ := List.cons.inj htail
      exact absurd (hdigits ▸ .tail _ (.head ds)) hclose
  · refine ⟨(levelMark, level), marks_subset (.tail _ (.head _)), ?_⟩
    cases s with
    | nil => cases hrest
    | cons d t =>
      rw [replaceAll_cons hbegins] at hrest
      obtain ⟨rfl, htail⟩ := List.cons.inj hrest
      obtain ⟨t', rfl⟩ := hclosing htail
      exact ⟨t', rfl⟩

theorem replaceAll_levelMark (new s : List Char) :
    replaceAll complexityMark new 0 (levelMark ++ s) = levelMark ++ replaceAll complexityMark new 0 s := by
  simp [replaceAll, complexityMark, levelMark]

theorem replaceAll_bracedMark (s : List Char) :
    replaceAll complexityMark (decimalChars 1) 0 (bracedMark ++ s) =
      levelMark ++ replaceAll complexityMark (decimalChars 1) 0 s := by
  have hone : decimalChars 1 = ['1'] := by decide
  simp [replaceAll, bracedMark, complexityMark, levelMark, hone]

/-- Two passes put in, all at once, what they take for marks. -/
theorem fill_eq_of_filled (h : Filled (marksInPasses n level) template text) :
    replaceAll levelMark level 0 (replaceAll complexityMark (decimalChars n) 0 template) = text := by
  have hcomplexity : complexityMark ≠ [] := List.cons_ne_nil _ _
  have hlevel : levelMark ≠ [] := List.cons_ne_nil _ _
  have hopen : '{' ∉ decimalChars n := not_mem_decimalChars (by decide) (by decide) n
  induction h with
  | nil => rfl
  | @mark old new template text hmark _ ih =>
    rcases mem_marksInPasses hmark with ⟨rfl, hsame⟩ | hsame | hsame <;> cases hsame
    · rw [replaceAll_bracedMark, replaceAll_append hlevel, ih]
    · rw [replaceAll_append hcomplexity, replaceAll_of_not_mem rfl hopen, ih]
    · rw [replaceAll_levelMark, replaceAll_append hlevel, ih]
  | @keep c template text hnone _ ih =>
    rw [replaceAll_cons (hnone _ (marks_subset (.head _))), replaceAll_cons, ih]
    intro hbegins
    obtain ⟨m, hm, hm'⟩ := begins_of_levelMark hbegins
    exact hnone m hm hm'

theorem filled_braced (h : Filled (marks 1 level) template text) :
    Filled (marks 1 level) (bracedMark ++ template) (levelMark ++ text) := by
  have hopen : ∀ m ∈ marks 1 level, ¬ m.1 <+: bracedMark ++ template := by
    simp [marks, bracedMark, complexityMark, levelMark]
  have hclose : ∀ m ∈ marks 1 level, ¬ m.1 <+: '}' :: template := by
    simp [marks, complexityMark, levelMark]
  have hmark : Filled (marks 1 level) (complexityMark ++ '}' :: template) ('1' :: '}' :: text) :=
    .mark (.head _) (.keep hclose h)
  exact .keep hopen hmark

theorem bracedMark_infix_append {old new : List Char} (h : (old, new) ∈ marks n level) :
    bracedMark <:+: old ++ template ↔ bracedMark <:+: template := by
  have hold : old = complexityMark ∨ old = levelMark := by
    rcases List.mem_pair.1 h with hsame | hsame <;> cases hsame
    · exact .inl rfl
    · exact .inr rfl
  rcases hold with rfl | rfl <;>
    simp [bracedMark, complexityMark, levelMark, List.infix_cons_iff]

/-- The mark of the level and its description in front of texts that differ only through `k` marks for one and
as many descriptions for the other: the lengths tell whether the two are the same. -/
theorem levelMark_append_eq_iff {filled : List Char} {k : Nat}
    (hlength : text.length + k * levelMark.length = filled.length + k * level.length)
    (heq : filled = text ↔ (0 < k → levelMark = level)) :
    levelMark ++ filled = level ++ text ↔ levelMark = level := by
  constructor
  · intro hboth
    have hboth' := congrArg List.length hboth
    simp only [List.length_append] at hboth'
    have hsizes : (k + 1) * levelMark.length = (k + 1) * level.length := by linarith
    exact (List.append_inj hboth (Nat.eq_of_mul_eq_mul_left k.succ_pos hsizes)).1
  · intro hlevel
    rw [heq.2 fun _ => hlevel, hlevel]

/-- What the template asks for against what messages put in for a complexity of one. The two differ only
through marks between braces, which are `k` in number. -/
theorem exists_filled_marks (h : Filled (marksInPasses 1 level) template text) :
    ∃ filled k, Filled (marks 1 level) template filled ∧ (0 < k ↔ bracedMark <:+: template) ∧
      text.length + k * levelMark.length = filled.length + k * level.length ∧
      (filled = text ↔ (0 < k → levelMark = level)) := by
  induction h with
  | nil => exact ⟨[], 0, .nil, by decide, by simp, by simp⟩
  | @mark old new template text hmark _ ih =>
    obtain ⟨filled, k, hfilled, hoccurs, hlength, heq⟩ := ih
    rcases List.mem_cons.1 hmark with hsame | hmark
    · cases hsame
      refine ⟨levelMark ++ filled, k + 1, filled_braced hfilled, ?_, ?_, ?_⟩
      · exact iff_of_true k.succ_pos (List.prefix_append _ _).isInfix
      · simp only [List.length_append]
        linarith
      · rw [levelMark_append_eq_iff hlength heq, imp_iff_right k.succ_pos]
    · refine ⟨new ++ filled, k, .mark hmark hfilled, ?_, ?_, ?_⟩
      · rw [hoccurs, bracedMark_infix_append hmark]
      · simp only [List.length_append]
        omega
      · rw [List.append_right_inj, heq]
  | @keep c template text hnone _ ih =>
    obtain ⟨filled, k, hfilled, hoccurs, hlength, heq⟩ := ih
    refine ⟨c :: filled, k, .keep (fun m hm => hnone m (marks_subset hm)) hfilled, ?_, ?_, ?_⟩
    · rw [hoccurs, List.infix_cons_iff, or_iff_right (hnone _ (.head _))]
    · simp only [List.length_cons]
      omega
    · rw [List.cons_inj_right, heq]

/-- What messages put in is what the template asks for, unless a complexity of one is between braces. -/
theorem filled_marks_iff (h : Filled (marksInPasses n level) template text) :
    Filled (marks n level) template text ↔
      (n = 1 → bracedMark <:+: template → levelMark = level) := by
  by_cases hone : n = 1
  · subst hone
    obtain ⟨filled, k, hfilled, hoccurs, -, heq⟩ := exists_filled_marks h
    rw [hfilled.iff_eq (apart_marks 1 level), eq_comm, heq, hoccurs]
    simp
  · rw [marksInPasses, if_neg hone] at h
    exact iff_of_true h fun hn => absurd hn hone

theorem message_eq_fillTemplate {s : Settings} {u : MetricUnit} {template level : String}
    (hvisible : u.visible = true) (htemplate : s.template = .str template)
    (hlevel : s.levelDescription u.collected = .ok (.str level)) :
    u.message s = .ok (String.ofList
      (fillTemplate template.toList (decimalChars u.collected) level.toList)) := by
  rw [message, if_pos hvisible, htemplate]
  simp only [hlevel]
  rfl

/-- The message of a visible unit, where template and descriptions are texts and the level bounds are numbers.
It is the trimmed template with the complexity and the description of its level put in at once, except that a
complexity of one between braces is taken for the mark of the level. The template does not ask for that
exception, and a description that reads like the mark of the level hides it. -/
theorem message_fills_template {s : Settings} {u : MetricUnit} {template : String}
    (hvisible : u.visible = true) (htemplate : s.template = .str template)
    (hdescription : ∀ l, ∃ text, s.description l = .str text) (hmeasures : s.Measures) :
    ∃ (level : String) (text : List Char),
      s.levelDescription u.collected = .ok (.str level) ∧
      u.message s = .ok (String.ofList (trim text)) ∧
      (∀ filled, Filled (marksInPasses u.collected level.toList) template.toList filled ↔
        filled = text) ∧
      ((∀ filled, Filled (marks u.collected level.toList) template.toList filled ↔ filled = text) ↔
        (u.collected = 1 → bracedMark <:+: template.toList → levelMark = level.toList)) := by
  obtain ⟨l, hl⟩ := hmeasures.exists_level u.collected
  obtain ⟨level, hlevel⟩ := hdescription l
  have hdescribed : s.levelDescription u.collected = .ok (.str level) := by
    rw [Settings.levelDescription, hl, ← hlevel]
    rfl
  have hpasses := apart_marksInPasses u.collected level.toList
  obtain ⟨text, htext⟩ := hpasses.exists_filled template.toList
  refine ⟨level, text, hdescribed, ?_, htext.iff_eq hpasses, ?_⟩
  · rw [message_eq_fillTemplate hvisible htemplate hdescribed, fillTemplate, fill_eq_of_filled htext]
  · rw [← filled_marks_iff htext]
    constructor
    · intro hall
      exact (hall text).2 rfl
    · intro hfilled
      exact hfilled.iff_eq (apart_marks _ _)

/-- Neither the braces around a complexity of ten nor the marks in a description are read again. -/
theorem message_fills_template_of_marks :
    let s : Settings := {
      template := .str "\x7b\x7b0\x7d\x7d \x7b1\x7d "
      description := fun _ => .str "\x7b0\x7d\x7b1\x7d" }
    let child := MetricUnit.mk 3 5 "if" (.number 6) false "" []
    let u := MetricUnit.mk 0 9 "function f" (.number 4) true "" [child]
    u.visible = true ∧ (∀ l, ∃ text, s.description l = .str text) ∧ s.Measures ∧
      u.collected = 10 ∧ u.message s = .ok "\x7b10\x7d \x7b0\x7d\x7b1\x7d" := by
  intro s child u
  have hdescription : ∀ l, ∃ text, s.description l = .str text := fun _ => ⟨_, rfl⟩
  have hmeasures : s.Measures := by
    intro l
    cases l <;> rfl
  obtain ⟨level, text, hlevel, hmessage, -, hiff⟩ :=
    message_fills_template (s := s) (u := u) rfl rfl hdescription hmeasures
  have hdescribed : s.levelDescription u.collected = .ok (.str "\x7b0\x7d\x7b1\x7d") := rfl
  cases hdescribed.symm.trans hlevel
  have hten : ¬ u.collected = 1 := by decide
  have hfilled : Filled (marks 10 ['{', '0', '}', '{', '1', '}'])
      ['{', '{', '0', '}', '}', ' ', '{', '1', '}', ' ']
      ['{', '1', '0', '}', ' ', '{', '0', '}', '{', '1', '}', ' '] :=
    .keep (by decide) (.mark (.head _) (.keep (by decide) (.keep (by decide)
      (.mark (.tail _ (.head _)) (.keep (by decide) .nil)))))
  have htext := (hiff.2 (fun hone => absurd hone hten) _).1 hfilled
  rw [hmessage, ← htext]
  exact ⟨rfl, hdescription, hmeasures, rfl, by decide⟩

/-- Where a template asks for the complexity between braces, a complexity of one is lost: with its braces it
is taken for the mark of the level, and the description of the level is all that shows. -/
theorem braced_complexity_of_one_lost :
    let template := "\x7b\x7b0\x7d\x7d"
    let level := "Everything is cool!"
    let s : Settings := { template := .str template }
    let u := MetricUnit.mk 0 10 "function f" (.number 1) true "" []
    u.message s = .ok level ∧ s.levelDescription u.collected = .ok (.str level) ∧
      Filled (marks u.collected level.toList) template.toList ['{', '1', '}'] ∧
      ∀ filled, Filled (marks u.collected level.toList) template.toList filled →
        u.message s ≠ .ok (String.ofList (trim filled)) := by
  intro template level s u
  have hfilled : Filled (marks u.collected level.toList) template.toList ['{', '1', '}'] := by
    have htemplate : template.toList = bracedMark ++ [] := by decide
    rw [htemplate]
    exact filled_braced .nil
  have hmessage : u.message s = .ok level := by
    rw [message_eq_fillTemplate rfl rfl rfl]
    decide +kernel
  refine ⟨hmessage, rfl, hfilled, ?_⟩
  intro filled hother
  rw [hother.unique (apart_marks _ _) hfilled, hmessage]
  decide

end MetricUnit

end ComplexityHints
