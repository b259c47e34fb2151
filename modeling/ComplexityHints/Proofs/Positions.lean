import ComplexityHints.Document
import Mathlib.Data.List.Sort
import Mathlib.Data.Nat.Count
import Mathlib.Tactic

namespace ComplexityHints

def Position.Before (p q : Position) : Prop :=
  p.line < q.line ∨ p.line = q.line ∧ p.character < q.character

namespace Text

variable {t : Text} {o e i j : Nat}

/-- The line breaks of a text, each with its first offset and the offset behind it. -/
inductive Break (t : Text) : Nat → Nat → Prop
  | pair {i : Nat} (hcr : t[i]? = some (.scalar '\r')) (hlf : t[i + 1]? = some (.scalar '\n')) :
      Break t i (i + 2)
  | cr {i : Nat} (hcr : t[i]? = some (.scalar '\r')) (hlone : t[i + 1]? ≠ some (.scalar '\n')) :
      Break t i (i + 1)
  | lf {i : Nat} (hlf : t[i]? = some (.scalar '\n'))
      (hlone : ∀ k, i = k + 1 → t[k]? ≠ some (.scalar '\r')) : Break t i (i + 1)

theorem Break.start_unique (hi : Break t i e) (hj : Break t j e) : i = j := by
  cases hi with
  | pair hcr hlf =>
    cases hj with
    | pair => rfl
    | cr hcr' => simp [hlf] at hcr'
    | lf _ hlone => exact absurd hcr (hlone i rfl)
  | cr hcr hlone =>
    cases hj with
    | pair _ hlf => simp [hlf] at hcr
    | cr => rfl
    | lf => rfl
  | lf hlf hlone =>
    cases hj with
    | pair hcr => exact absurd hcr (hlone j rfl)
    | cr => rfl
    | lf => rfl

def EndsBreak (t : Text) (e : Nat) : Prop := ∃ i, Break t i e

theorem not_endsBreak_zero (t : Text) : ¬ EndsBreak t 0 := by
  rintro ⟨i, h⟩
  cases h

theorem endsBreak_succ_iff :
    EndsBreak t (i + 1) ↔
      t[i]? = some (.scalar '\n') ∨
        t[i]? = some (.scalar '\r') ∧ t[i + 1]? ≠ some (.scalar '\n') := by
  constructor
  · rintro ⟨k, h⟩
    cases h with
    | pair _ hlf => exact .inl hlf
    | cr hcr hlone => exact .inr ⟨hcr, hlone⟩
    | lf hlf _ => exact .inl hlf
  · rintro (hlf | ⟨hcr, hlone⟩)
    · by_cases hpair : ∃ k, i = k + 1 ∧ t[k]? = some (.scalar '\r')
      · obtain ⟨k, rfl, hcr⟩ := hpair
        exact ⟨k, .pair hcr hlf⟩
      · exact ⟨i, .lf hlf fun k hk hcr => hpair ⟨k, hk, hcr⟩⟩
    · exact ⟨i, .cr hcr hlone⟩

instance : DecidablePred (EndsBreak t)
  | 0 => isFalse (not_endsBreak_zero t)
  | _ + 1 => decidable_of_iff _ endsBreak_succ_iff.symm

theorem endsBreak_cons {c : CodePoint} : EndsBreak (c :: t) (i + 2) ↔ EndsBreak t (i + 1) := by
  rw [endsBreak_succ_iff, endsBreak_succ_iff]
  rfl

theorem endsBreak_one_iff {c : CodePoint}
    (hpair : ∀ rest, c = .scalar '\r' → t = .scalar '\n' :: rest → False) :
    EndsBreak (c :: t) 1 ↔ c.isTerminator = true := by
  rw [endsBreak_succ_iff, CodePoint.isTerminator, decide_eq_true_iff]
  have hnext (hc : c = .scalar '\r') : t[0]? ≠ some (.scalar '\n') := by
    intro hlf
    obtain ⟨rest, rfl⟩ := List.head?_eq_some_iff.1 ((List.head?_eq_getElem? ..).trans hlf)
    exact hpair rest hc rfl
  simp only [List.getElem?_cons_zero, List.getElem?_cons_succ, Option.some.injEq]
  tauto

theorem mem_breakEnds {from_ : Nat} : e ∈ t.breakEnds from_ ↔ ∃ i, e = from_ + i ∧ EndsBreak t i := by
  fun_induction breakEnds from_ t with
  | case1 from_ =>
    simp only [List.not_mem_nil, false_iff, not_exists, not_and]
    rintro (_ | i) -
    · exact not_endsBreak_zero []
    · simp [endsBreak_succ_iff]
  | case2 from_ rest ih =>
    rw [List.mem_cons, ih]
    constructor
    · rintro (rfl | ⟨_ | i, rfl, hi⟩)
      · exact ⟨2, rfl, endsBreak_succ_iff.2 (.inl rfl)⟩
      · exact absurd hi (not_endsBreak_zero rest)
      · exact ⟨i + 3, by omega, endsBreak_cons.2 (endsBreak_cons.2 hi)⟩
    · rintro ⟨_ | _ | _ | i, rfl, hi⟩
      · exact absurd hi (not_endsBreak_zero _)
      · -- between the two characters of the pair no break ends
        simp [endsBreak_succ_iff] at hi
      · exact .inl rfl
      · exact .inr ⟨i + 1, by omega, endsBreak_cons.1 (endsBreak_cons.1 hi)⟩
  | case3 from_ c rest hpair hterm ih =>
    rw [List.mem_cons, ih]
    constructor
    · rintro (rfl | ⟨_ | i, rfl, hi⟩)
      · exact ⟨1, rfl, (endsBreak_one_iff hpair).2 hterm⟩
      · exact absurd hi (not_endsBreak_zero rest)
      · exact ⟨i + 2, by omega, endsBreak_cons.2 hi⟩
    · rintro ⟨_ | _ | i, rfl, hi⟩
      · exact absurd hi (not_endsBreak_zero _)
      · exact .inl rfl
      · exact .inr ⟨i + 1, by omega, endsBreak_cons.1 hi⟩
  | case4 from_ c rest hpair hterm ih =>
    rw [ih]
    constructor
    · rintro ⟨_ | i, rfl, hi⟩
      · exact absurd hi (not_endsBreak_zero rest)
      · exact ⟨i + 2, by omega, endsBreak_cons.2 hi⟩
    · rintro ⟨_ | _ | i, rfl, hi⟩
      · exact absurd hi (not_endsBreak_zero _)
      · exact absurd ((endsBreak_one_iff hpair).1 hi) hterm
      · exact ⟨i + 1, by omega, endsBreak_cons.1 hi⟩

theorem pairwise_breakEnds (from_ : Nat) (t : Text) : (t.breakEnds from_).Pairwise (· < ·) := by
  fun_induction breakEnds from_ t with
  | case1 => exact .nil
  | case2 from_ rest ih => exact .cons (fun _ => lt_of_mem_breakEnds) ih
  | case3 from_ c rest _ _ ih => exact .cons (fun _ => lt_of_mem_breakEnds) ih
  | case4 from_ c rest _ _ ih => exact ih

theorem mem_takeWhile_le {ends : List Nat} (h : ends.Pairwise (· < ·)) :
    e ∈ ends.takeWhile (· ≤ o) ↔ e ∈ ends ∧ e ≤ o := by
  induction ends with
  | nil => simp
  | cons b bs ih =>
    obtain ⟨hb, hbs⟩ := List.pairwise_cons.1 h
    by_cases hle : b ≤ o
    · rw [List.takeWhile_cons_of_pos (by simpa using hle), List.mem_cons, List.mem_cons, ih hbs,
        or_and_right]
      have hself : e = b ↔ e = b ∧ e ≤ o := by
        constructor
        · rintro rfl
          exact ⟨rfl, hle⟩
        · exact And.left
      exact or_congr_left hself
    · -- the list is in order, so nothing behind an entry that is too far is near enough
      rw [List.takeWhile_cons_of_neg (by simpa using hle)]
      simp only [List.not_mem_nil, false_iff, List.mem_cons, not_and]
      rintro (rfl | hmem)
      · exact hle
      · have := hb e hmem
        omega

def passed (t : Text) (o : Nat) : List Nat := (t.breakEnds 0).takeWhile (· ≤ o)

theorem mem_passed : e ∈ t.passed o ↔ EndsBreak t e ∧ e ≤ o := by
  rw [passed, mem_takeWhile_le (pairwise_breakEnds 0 t), mem_breakEnds]
  simp

theorem passed_eq_filter (t : Text) (o : Nat) :
    t.passed o = (List.range (o + 1)).filter (EndsBreak t) := by
  have hpassed : (t.passed o).Pairwise (· < ·) :=
    (pairwise_breakEnds 0 t).sublist (List.takeWhile_sublist _)
  have hrange : ((List.range (o + 1)).filter (EndsBreak t)).Pairwise (· < ·) :=
    List.pairwise_lt_range.filter _
  apply hpassed.eq_of_mem_iff hrange
  intro e
  rw [mem_passed, List.mem_filter, List.mem_range, decide_eq_true_iff, Nat.lt_succ_iff, and_comm]

theorem length_passed (t : Text) (o : Nat) :
    (t.passed o).length = Nat.count (EndsBreak t) (o + 1) := by
  rw [passed_eq_filter, Nat.count, List.countP_eq_length_filter]

theorem getLast?_passed (t : Text) (o : Nat) :
    (t.passed o).getLast?.getD 0 = Nat.findGreatest (EndsBreak t) o := by
  rw [passed_eq_filter]
  induction o with
  | zero =>
    have hzero := not_endsBreak_zero t
    simp [hzero]
  | succ o ih =>
    rw [List.range_succ, List.filter_append, Nat.findGreatest_succ]
    by_cases h : EndsBreak t (o + 1)
    · simp [h]
    · simpa [h] using ih

def lineStart (t : Text) (line : Nat) : Nat := (0 :: t.breakEnds 0).getD line 0

theorem lineStart_length_passed (t : Text) (o : Nat) :
    t.lineStart (t.passed o).length = Nat.findGreatest (EndsBreak t) o := by
  obtain ⟨rest, hrest⟩ : t.passed o <+: t.breakEnds 0 := List.takeWhile_prefix _
  rw [← getLast?_passed, List.getLast?_eq_getElem?, lineStart, ← hrest]
  cases hlen : (t.passed o).length with
  | zero =>
    rw [List.length_eq_zero_iff.1 hlen]
    rfl
  | succ n =>
    rw [List.getD_eq_getElem?_getD, List.getElem?_cons_succ, List.getElem?_append_left (by omega),
      Nat.add_sub_cancel]

theorem clamp_eq (t : Text) (offset : Int) :
    t.clamp offset = (max 0 (min offset t.length)).toNat := by
  unfold clamp
  omega

theorem clamp_of_le (h : i ≤ t.length) : t.clamp i = i := by
  unfold clamp
  omega

/-- The line of an offset is the number of breaks up to it, its character the distance from the last
of them. -/
theorem positionAt_eq (t : Text) (offset : Int) :
    t.positionAt offset =
      ⟨Nat.count (EndsBreak t) (t.clamp offset + 1),
        t.clamp offset - Nat.findGreatest (EndsBreak t) (t.clamp offset)⟩ := by
  rw [← length_passed, ← getLast?_passed]
  rfl

theorem findGreatest_eq_of_count_eq (hij : i ≤ j)
    (h : Nat.count (EndsBreak t) (i + 1) = Nat.count (EndsBreak t) (j + 1)) :
    Nat.findGreatest (EndsBreak t) i = Nat.findGreatest (EndsBreak t) j := by
  have hle : Nat.findGreatest (EndsBreak t) i ≤ Nat.findGreatest (EndsBreak t) j :=
    Nat.findGreatest_mono_right _ hij
  have hbound : Nat.findGreatest (EndsBreak t) j ≤ j := Nat.findGreatest_le j
  set last := Nat.findGreatest (EndsBreak t) j with hlast
  by_cases hzero : last = 0
  · omega
  have hends : EndsBreak t last := Nat.findGreatest_of_ne_zero hlast.symm hzero
  have hnear : last ≤ i := by
    by_contra hfar
    have hmono : Nat.count (EndsBreak t) (i + 1) ≤ Nat.count (EndsBreak t) last :=
      Nat.count_monotone _ (by omega)
    have hlt : Nat.count (EndsBreak t) last < Nat.count (EndsBreak t) (j + 1) :=
      Nat.count_strict_mono hends (by omega)
    omega
  exact le_antisymm hle (Nat.le_findGreatest hnear hends)

theorem positionAt_before (hij : i < j) (hj : j ≤ t.length) :
    (t.positionAt i).Before (t.positionAt j) := by
  rw [positionAt_eq, positionAt_eq, clamp_of_le (by omega), clamp_of_le hj]
  have hmono : Nat.count (EndsBreak t) (i + 1) ≤ Nat.count (EndsBreak t) (j + 1) :=
    Nat.count_monotone _ (by omega)
  rcases hmono.lt_or_eq with hlt | heq
  · exact .inl hlt
  · have hstart := findGreatest_eq_of_count_eq hij.le heq
    have hbound : Nat.findGreatest (EndsBreak t) i ≤ i := Nat.findGreatest_le i
    refine .inr ⟨heq, ?_⟩
    dsimp only
    omega

theorem positionAt_clamp (t : Text) (offset : Int) :
    t.positionAt (t.clamp offset) = t.positionAt offset := by
  have hclamp : t.clamp (t.clamp offset) = t.clamp offset := clamp_of_le (Nat.min_le_right _ _)
  unfold positionAt
  rw [hclamp]

theorem positionAt_of_le {offset offset' : Int} (h : offset ≤ offset') :
    t.positionAt offset = t.positionAt offset' ∨
      (t.positionAt offset).Before (t.positionAt offset') := by
  have hle : t.clamp offset ≤ t.clamp offset' := by
    unfold clamp
    omega
  have hlength : t.clamp offset' ≤ t.length := Nat.min_le_right _ _
  rw [← positionAt_clamp t offset, ← positionAt_clamp t offset']
  rcases hle.eq_or_lt with heq | hlt
  · exact .inl (by rw [heq])
  · exact .inr (positionAt_before hlt hlength)

theorem positionAt_inside_pair (hcr : t[i]? = some (.scalar '\r'))
    (hlf : t[i + 1]? = some (.scalar '\n')) :
    t.positionAt (i + 1 : Nat) = ⟨(t.positionAt i).line, (t.positionAt i).character + 1⟩ := by
  have hlen : i + 1 < t.length := (List.getElem?_eq_some_iff.1 hlf).1
  have hinside : ¬ EndsBreak t (i + 1) := by
    rw [endsBreak_succ_iff, hcr, hlf]
    simp
  have hbound : Nat.findGreatest (EndsBreak t) i ≤ i := Nat.findGreatest_le i
  rw [positionAt_eq, positionAt_eq, clamp_of_le (by omega), clamp_of_le (by omega),
    Nat.count_succ, if_neg hinside, Nat.findGreatest_of_not hinside, Nat.sub_add_comm hbound]
  rfl

end Text

/-- The line of an offset, clamped into the text, is the number of breaks that end at or before it,
and its character the distance from the end of the last of them or from the start of the text. So the
start of the line and the character give the offset back, positions come in the order of offsets, and
an offset inside a pair stays on the earlier line. Breaks are counted by their ends, and no two end
together. -/
theorem positionAt_counts_breaks (d : Document) (offset : Int) :
    let o := (max 0 (min offset d.text.length)).toNat
    let p := d.positionAt offset
    p.line = Nat.count d.text.EndsBreak (o + 1) ∧
    p.character = o - Nat.findGreatest d.text.EndsBreak o ∧
    d.text.lineStart p.line = Nat.findGreatest d.text.EndsBreak o ∧
    d.text.lineStart p.line + p.character = o ∧
    (∀ i j : Nat, i < j → j ≤ d.text.length → (d.positionAt i).Before (d.positionAt j)) ∧
    (∀ i : Nat, d.text[i]? = some (.scalar '\r') → d.text[i + 1]? = some (.scalar '\n') →
      d.positionAt (i + 1 : Nat) = ⟨(d.positionAt i).line, (d.positionAt i).character + 1⟩) ∧
    ∀ i j e : Nat, d.text.Break i e → d.text.Break j e → i = j := by
  intro o p
  have hp : p = ⟨Nat.count d.text.EndsBreak (o + 1), o - Nat.findGreatest d.text.EndsBreak o⟩ := by
    have heq := d.text.positionAt_eq offset
    rwa [Text.clamp_eq] at heq
  have hstart : d.text.lineStart p.line = Nat.findGreatest d.text.EndsBreak o := by
    rw [hp, ← Text.lineStart_length_passed, Text.length_passed]
  have hbound : Nat.findGreatest d.text.EndsBreak o ≤ o := Nat.findGreatest_le o
  refine ⟨congrArg Position.line hp, congrArg Position.character hp, hstart, ?_, ?_, ?_,
    fun i j e => Text.Break.start_unique⟩
  · rw [hstart, hp]
    exact Nat.add_sub_of_le hbound
  · intro i j hij hj
    exact Text.positionAt_before hij hj
  · intro i hcr hlf
    exact Text.positionAt_inside_pair hcr hlf

/-- A carriage return on its own in front of a pair: the offset inside the pair is on the second line,
one past the offset in front of the pair. -/
theorem positionAt_counts_breaks_of_pair :
    let d : Document := ⟨"", "lua", Text.ofString "a\r\r\nb", 0⟩
    d.text[2]? = some (.scalar '\r') ∧ d.text[3]? = some (.scalar '\n') ∧
      d.positionAt 2 = ⟨1, 0⟩ ∧ d.positionAt 3 = ⟨1, 1⟩ ∧
      (d.positionAt 3).Before (d.positionAt 4) := by
  intro d
  have hcr : d.text[2]? = some (.scalar '\r') := by decide +kernel
  have hlf : d.text[3]? = some (.scalar '\n') := by decide +kernel
  have hfront : d.positionAt 2 = ⟨1, 0⟩ := by decide +kernel
  obtain ⟨-, -, -, -, hbefore, hinside, -⟩ := positionAt_counts_breaks d 3
  refine ⟨hcr, hlf, hfront, ?_, hbefore 3 4 (by decide) (by decide +kernel)⟩
  have hpair := hinside 2 hcr hlf
  rwa [Nat.cast_ofNat, hfront] at hpair

end ComplexityHints
