import ComplexityHints.Proofs.Glob.Braces
import ComplexityHints.Proofs.Glob.Segment

namespace ComplexityHints.Glob

/-- The segments of a pattern consume all segments of a path in order. An ordinary segment takes one,
`**` takes any number without a leading dot. A final `**` takes all that remain; it may take none
only right behind an ordinary segment, which `behind` tells. -/
inductive Consumes : (behind : Bool) → List (List Char) → List (List Char) → Prop
  | done {behind : Bool} : Consumes behind [] []
  | segment {behind : Bool} {p s : List Char} {ps ss : List (List Char)} (hp : p ≠ globstar)
      (h : SegmentMatches p s) (hrest : Consumes true ps ss) : Consumes behind (p :: ps) (s :: ss)
  | skip {behind : Bool} {ps skipped ss : List (List Char)} (hps : ps ≠ [])
      (hdots : ∀ s ∈ skipped, ¬ Dotted s) (hrest : Consumes false ps ss) :
      Consumes behind (globstar :: ps) (skipped ++ ss)
  | final {behind : Bool} {ss : List (List Char)} (hdots : ∀ s ∈ ss, ¬ Dotted s)
      (hnone : ss = [] → behind = true) : Consumes behind [globstar] ss

theorem bounded_isEmpty : Bounded List.isEmpty (· = []) := by
  intro b
  cases b <;> simp

theorem bounded_slash {next : Matcher} {rest : List (List Char) → Prop} (hnil : ¬ rest [])
    (hnext : ∀ s, next s = true ↔ rest (s.splitOn '/')) :
    Bounded (Matcher.char (· = '/') next) rest := by
  intro b
  rw [char_iff]
  simp [hnil, hnext]

theorem below_inside_append {a : List Char} (ha : '/' ∉ a) (s : List Char) :
    Matcher.below List.isEmpty true (a ++ s) = Matcher.below List.isEmpty true s := by
  induction a with
  | nil => rfl
  | cons c a ih =>
    rw [List.mem_cons, not_or] at ha
    rw [List.cons_append, Matcher.below, if_neg (Ne.symm ha.1), ih ha.2]
    simp

theorem below_iff (s : List Char) :
    Matcher.undotted s = true ∧ Matcher.below List.isEmpty true s = true ↔
      ∀ x ∈ s.splitOn '/', ¬ Dotted x := by
  induction s using splitOn_induction with
  | last s hs =>
    have hsplit := List.splitOn_eq_singleton hs
    have hbelow := below_inside_append hs []
    rw [List.append_nil] at hbelow
    rw [undotted_iff hsplit, hbelow, hsplit]
    simp [Matcher.below]
  | step a b ha ih =>
    have hsplit := splitOn_slash ha b
    rw [undotted_iff hsplit, below_inside_append ha, Matcher.below, if_pos rfl, hsplit,
      List.forall_mem_cons, ← ih]
    simp

theorem bounded_below :
    Bounded (Matcher.below List.isEmpty false) fun xs => ∀ x ∈ xs, ¬ Dotted x := by
  intro b
  cases b with
  | nil => simp [Matcher.below]
  | cons c b =>
    rw [Matcher.below]
    by_cases hc : c = '/'
    · simp [hc, ← below_iff]
    · simp [hc]

theorem directories_inside {a : List Char} (ha : '/' ∉ a) (next : Matcher) :
    Matcher.directories next true a = false := by
  induction a with
  | nil => rfl
  | cons c a ih =>
    rw [List.mem_cons, not_or] at ha
    simp [Matcher.directories, Ne.symm ha.1, ih ha.2]

theorem directories_inside_slash {a : List Char} (ha : '/' ∉ a) (next : Matcher) (b : List Char) :
    Matcher.directories next true (a ++ '/' :: b) = Matcher.directories next false b := by
  induction a with
  | nil => simp [Matcher.directories]
  | cons c a ih =>
    rw [List.mem_cons, not_or] at ha
    simp [Matcher.directories, Ne.symm ha.1, ih ha.2]

theorem directories_last {a : List Char} (ha : '/' ∉ a) (next : Matcher) :
    Matcher.directories next false a = next a := by
  cases a with
  | nil => simp [Matcher.directories]
  | cons c a =>
    rw [List.mem_cons, not_or] at ha
    simp [Matcher.directories, Ne.symm ha.1, directories_inside ha.2]

theorem directories_step {a : List Char} (ha : '/' ∉ a) (next : Matcher) (b : List Char) :
    Matcher.directories next false (a ++ '/' :: b) = true ↔
      next (a ++ '/' :: b) = true ∨ ¬ Dotted a ∧ Matcher.directories next false b = true := by
  cases a with
  | nil => simp [Matcher.directories, Dotted]
  | cons c a =>
    rw [List.mem_cons, not_or] at ha
    simp [Matcher.directories, Ne.symm ha.1, directories_inside_slash ha.2, Dotted]

theorem consumes_segment_iff {behind : Bool} {p : List Char} {ps xs : List (List Char)}
    (hp : p ≠ globstar) :
    Consumes behind (p :: ps) xs ↔
      ∃ x ys, xs = x :: ys ∧ SegmentMatches p x ∧ Consumes true ps ys := by
  constructor
  · intro h
    cases h with
    | segment _ h hrest => exact ⟨_, _, rfl, h, hrest⟩
    | skip => exact absurd rfl hp
    | final => exact absurd rfl hp
  · intro h
    obtain ⟨x, ys, rfl, h, hrest⟩ := h
    exact .segment hp h hrest

theorem consumes_globstar_iff {behind : Bool} {ps xs : List (List Char)} (hps : ps ≠ []) :
    Consumes behind (globstar :: ps) xs ↔
      ∃ skipped ys, xs = skipped ++ ys ∧ (∀ x ∈ skipped, ¬ Dotted x) ∧ Consumes false ps ys := by
  constructor
  · intro h
    cases h with
    | segment hp => exact absurd rfl hp
    | skip _ hdots hrest => exact ⟨_, _, rfl, hdots, hrest⟩
    | final => exact absurd rfl hps
  · intro h
    obtain ⟨skipped, ys, rfl, hdots, hrest⟩ := h
    exact .skip hps hdots hrest

theorem consumes_final_iff {behind : Bool} {xs : List (List Char)} :
    Consumes behind [globstar] xs ↔ (∀ x ∈ xs, ¬ Dotted x) ∧ (xs = [] → behind = true) := by
  constructor
  · intro h
    cases h with
    | segment hp => exact absurd rfl hp
    | skip hps => exact absurd rfl hps
    | final hdots hnone => exact ⟨hdots, hnone⟩
  · intro h
    obtain ⟨hdots, hnone⟩ := h
    exact .final hdots hnone

theorem consumes_nil_iff {behind : Bool} {xs : List (List Char)} :
    Consumes behind [] xs ↔ xs = [] := by
  constructor
  · intro h
    cases h
    rfl
  · intro h
    subst h
    exact .done

theorem not_consumes_nil {ps : List (List Char)} (hps : ps ≠ []) : ¬ Consumes false ps [] := by
  induction ps with
  | nil => exact absurd rfl hps
  | cons p ps ih =>
    intro h
    by_cases hp : p = globstar
    · subst hp
      by_cases hrest : ps = []
      · subst hrest
        exact absurd ((consumes_final_iff.1 h).2 rfl) Bool.false_ne_true
      · obtain ⟨skipped, ys, hnil, -, hys⟩ := (consumes_globstar_iff hrest).1 h
        obtain ⟨-, rfl⟩ := List.append_eq_nil_iff.1 hnil.symm
        exact ih hrest hys
    · obtain ⟨x, ys, hnil, -⟩ := (consumes_segment_iff hp).1 h
      simp at hnil

/-- Only a final `**` depends on what it stands behind. -/
theorem consumes_behind_iff {ps xs : List (List Char)} (hps : ps ≠ [globstar]) :
    Consumes true ps xs ↔ Consumes false ps xs := by
  cases ps with
  | nil => rw [consumes_nil_iff, consumes_nil_iff]
  | cons p ps =>
    by_cases hp : p = globstar
    · subst hp
      have hrest : ps ≠ [] := by
        intro hnil
        exact hps (by rw [hnil])
      rw [consumes_globstar_iff hrest, consumes_globstar_iff hrest]
    · rw [consumes_segment_iff hp, consumes_segment_iff hp]

/-- A `**` in front of more segments leaves the next path segment to them or takes it. -/
theorem consumes_globstar_cons_iff {behind : Bool} {x : List Char} {ps xs : List (List Char)}
    (hps : ps ≠ []) :
    Consumes behind (globstar :: ps) (x :: xs) ↔
      Consumes false ps (x :: xs) ∨ ¬ Dotted x ∧ Consumes behind (globstar :: ps) xs := by
  rw [consumes_globstar_iff hps, consumes_globstar_iff hps]
  constructor
  · intro h
    obtain ⟨skipped, ys, heq, hdots, hrest⟩ := h
    cases skipped with
    | nil =>
      rw [List.nil_append] at heq
      exact .inl (heq ▸ hrest)
    | cons z skipped =>
      obtain ⟨rfl, rfl⟩ := List.cons.inj heq
      rw [List.forall_mem_cons] at hdots
      exact .inr ⟨hdots.1, skipped, ys, rfl, hdots.2, hrest⟩
  · intro h
    rcases h with h | ⟨hx, skipped, ys, rfl, hdots, hrest⟩
    · exact ⟨[], x :: xs, rfl, by simp, h⟩
    · exact ⟨x :: skipped, ys, rfl, List.forall_mem_cons.2 ⟨hx, hdots⟩, hrest⟩

theorem directories_iff {next : Matcher} {ps : List (List Char)} (hps : ps ≠ [])
    (hnext : ∀ s, next s = true ↔ Consumes false ps (s.splitOn '/')) (s : List Char) :
    Matcher.directories next false s = true ↔
      Consumes false (globstar :: ps) (s.splitOn '/') := by
  induction s using splitOn_induction with
  | last s hs =>
    have hnil : ¬ Consumes false (globstar :: ps) [] := not_consumes_nil (List.cons_ne_nil _ _)
    rw [directories_last hs, hnext, List.splitOn_eq_singleton hs, consumes_globstar_cons_iff hps]
    simp [hnil]
  | step a b ha ih =>
    rw [directories_step ha, hnext, splitOn_slash ha, consumes_globstar_cons_iff hps, ih]

theorem matchPieces_globstar (s : List Char) :
    matchPieces [.undotted, .run, .below] s = true ↔ ∀ x ∈ s.splitOn '/', ¬ Dotted x := by
  have hrun : Takes ['*'] [.run] := takes_nil.star
  change (Matcher.undotted s && matchThen [.run] (Matcher.below List.isEmpty false) s) = true ↔ _
  rw [Bool.and_eq_true, hrun.matchThen_iff bounded_below]
  constructor
  · intro h
    obtain ⟨hdot, x, xs, hsplit, -, hxs⟩ := h
    rw [hsplit, List.forall_mem_cons]
    exact ⟨(undotted_iff hsplit).1 hdot, hxs⟩
  · intro h
    obtain ⟨x, xs, hsplit⟩ := List.exists_cons_of_ne_nil (List.splitOn_ne_nil '/' s)
    rw [hsplit, List.forall_mem_cons] at h
    have hspells : Spells ['*'] (x ++ []) := .star x .nil
    rw [List.append_nil] at hspells
    exact ⟨(undotted_iff hsplit).2 h.1, x, xs, hsplit, hspells, h.2⟩

/-- The pieces of a list of segments match a path when the segments consume its segments. -/
theorem pathPieces_spec {ps : List (List Char)} (hps : ps ≠ [])
    (hplain : ∀ p ∈ ps, '[' ∉ p ∧ '/' ∉ p) :
    ∃ pieces, pathPieces ps = .ok pieces ∧ ∀ s,
      (matchPieces pieces s = true ↔ Consumes false ps (s.splitOn '/')) := by
  fun_induction pathPieces ps with
  | case1 => exact absurd rfl hps
  | case2 =>
    refine ⟨_, rfl, ?_⟩
    intro s
    rw [matchPieces_globstar, consumes_final_iff]
    simp
  | case3 p hp =>
    obtain ⟨hbracket, hslash⟩ := hplain p List.mem_cons_self
    obtain ⟨pieces, hpieces, hmatch⟩ := segmentPieces_spec hbracket hslash
    refine ⟨pieces, hpieces, ?_⟩
    intro s
    rw [consumes_segment_iff hp]
    simp only [consumes_nil_iff]
    exact hmatch _ _ bounded_isEmpty s
  | case4 next rest ih =>
    obtain ⟨pieces, hpieces, hmatch⟩ := ih (List.cons_ne_nil _ _) (List.forall_mem_cons.1 hplain).2
    refine ⟨.directories :: pieces, by rw [hpieces]; rfl, ?_⟩
    intro s
    exact directories_iff (List.cons_ne_nil _ _) hmatch s
  | case5 p next rest hp hlast =>
    obtain ⟨rfl, rfl⟩ := hlast
    obtain ⟨hbracket, hslash⟩ := hplain p List.mem_cons_self
    obtain ⟨pieces, hpieces, hmatch⟩ := segmentPieces_spec hbracket hslash
    -- the slash in front of the final `**` belongs to what it takes
    refine ⟨pieces ++ [.below], by rw [hpieces]; rfl, ?_⟩
    intro s
    rw [consumes_segment_iff hp]
    simp only [consumes_final_iff, implies_true, and_true]
    change matchThen (pieces ++ [.below]) List.isEmpty s = true ↔ _
    rw [matchThen_append]
    exact hmatch _ _ bounded_below s
  | case6 p next rest hp hlast ih =>
    obtain ⟨hbracket, hslash⟩ := hplain p List.mem_cons_self
    obtain ⟨pieces, hpieces, hmatch⟩ := segmentPieces_spec hbracket hslash
    obtain ⟨pieces', hpieces', hmatch'⟩ :=
      ih (List.cons_ne_nil _ _) (List.forall_mem_cons.1 hplain).2
    have hbehind : next :: rest ≠ [globstar] := by simpa using hlast
    have hnil : ¬ Consumes false (next :: rest) [] := not_consumes_nil (List.cons_ne_nil _ _)
    refine ⟨pieces ++ .char '/' :: pieces', by rw [hpieces, hpieces']; rfl, ?_⟩
    intro s
    rw [consumes_segment_iff hp]
    simp only [consumes_behind_iff hbehind]
    change matchThen (pieces ++ .char '/' :: pieces') List.isEmpty s = true ↔ _
    rw [matchThen_append]
    exact hmatch _ _ (bounded_slash hnil hmatch') s

theorem plainPieces_spec {q : List Char} (hbracket : '[' ∉ q) :
    ∃ pieces, plainPieces q = .ok pieces ∧ ∀ s,
      (matchPieces pieces s = true ↔ Consumes false (q.splitOn '/') (s.splitOn '/')) := by
  rw [plainPieces, segments_eq_splitOn]
  apply pathPieces_spec (List.splitOn_ne_nil _ _)
  intro p hp
  constructor
  · intro h
    exact hbracket (subset_of_mem_splitOn hp h)
  · exact slash_not_mem_of_mem_splitOn hp

/-- A glob without classes always compiles, and one of its alternatives matches if one of the
patterns it expands to does. -/
theorem mapM_plainPieces_spec {qs : List (List Char)} (hbracket : ∀ q ∈ qs, '[' ∉ q) :
    ∃ alternatives, qs.mapM plainPieces = .ok alternatives ∧ ∀ s,
      (alternatives.any (matchPieces · s) = true ↔
        ∃ q ∈ qs, Consumes false (q.splitOn '/') (s.splitOn '/')) := by
  induction qs with
  | nil => exact ⟨[], rfl, by simp⟩
  | cons q qs ih =>
    obtain ⟨hq, hqs⟩ := List.forall_mem_cons.1 hbracket
    obtain ⟨pieces, hpieces, hmatch⟩ := plainPieces_spec hq
    obtain ⟨alternatives, halternatives, hany⟩ := ih hqs
    refine ⟨pieces :: alternatives, ?_, ?_⟩
    · rw [List.mapM_cons, hpieces, halternatives]
      rfl
    · intro s
      rw [List.any_cons, Bool.or_eq_true, hmatch, hany, List.exists_mem_cons_iff]

theorem stripMarks_eq (s : List Char) :
    stripMarks s =
      (decide (Odd (s.takeWhile (· = '!')).length), s.dropWhile (· = '!')) := by
  fun_induction stripMarks s with
  | case1 rest odd s h ih =>
    rw [h] at ih
    obtain ⟨hodd, hs⟩ := Prod.mk.inj ih
    rw [hodd, hs]
    simp [Nat.odd_add_one, -Nat.not_odd_iff_even]
  | case2 s h =>
    cases s with
    | nil => simp
    | cons c s =>
      have hc : c ≠ '!' := by
        intro hc
        exact h s (by rw [hc])
      simp [hc]

theorem compile_of_comment {pattern : List Char}
    (h : pattern.dropWhile (· = '!') = [] ∨ (pattern.dropWhile (· = '!')).head? = some '#') :
    compile pattern = .ok none := by
  unfold compile
  rw [stripMarks_eq]
  rcases h with h | h
  · rw [h]
  · obtain ⟨tail, htail⟩ := List.head?_eq_some_iff.1 h
    rw [htail]
    rfl

theorem compile_of_pattern {pattern : List Char} (hbracket : '[' ∉ pattern)
    (hne : pattern.dropWhile (· = '!') ≠ [])
    (hcomment : (pattern.dropWhile (· = '!')).head? ≠ some '#') :
    ∃ alternatives, compile pattern =
        .ok (some ⟨alternatives, decide (Odd (pattern.takeWhile (· = '!')).length)⟩) ∧
      ∀ s, (alternatives.any (matchPieces · s) = true ↔
        ∃ q ∈ expandChars (pattern.dropWhile (· = '!')),
          Consumes false (q.splitOn '/') (s.splitOn '/')) := by
  -- expansion writes no bracket that the pattern does not have
  have hplain : ∀ q ∈ expandChars (pattern.dropWhile (· = '!')), '[' ∉ q := by
    intro q hq hmem
    rcases drawn_of_mem_expandChars hq hmem with h | h | h
    · exact hbracket ((List.dropWhile_suffix _).subset h)
    · exact absurd h (by decide)
    · exact absurd h (by decide)
  obtain ⟨alternatives, halternatives, hany⟩ := mapM_plainPieces_spec hplain
  refine ⟨alternatives, ?_, hany⟩
  unfold compile
  rw [stripMarks_eq]
  split
  · rename_i heq
    exact absurd (Prod.mk.inj heq).2 hne
  · rename_i heq
    exact absurd (by rw [(Prod.mk.inj heq).2]; rfl) hcomment
  · rename_i heq
    obtain ⟨rfl, rfl⟩ := Prod.mk.inj heq
    rw [halternatives]
    rfl

/-- Whether a path matches a pattern, segment by segment: one of the patterns that it expands to
without its leading marks consumes the path, or, with an odd number of marks, none does. Comments
and empty patterns match nothing. -/
def MatchesSegmentwise (path pattern : List Char) : Prop :=
  let marks := pattern.takeWhile (· = '!')
  let rest := pattern.dropWhile (· = '!')
  rest ≠ [] ∧ rest.head? ≠ some '#' ∧
    Xor (∃ q ∈ expandChars rest, Consumes false (q.splitOn '/') (path.splitOn '/'))
      (Odd marks.length)

/-- A pattern without classes matches a path exactly if it does so segment by segment. -/
theorem matchPath_segmentwise (path : List Char) {pattern : List Char} (h : '[' ∉ pattern) :
    ∃ b, matchPath path pattern = .ok b ∧ (b = true ↔ MatchesSegmentwise path pattern) := by
  by_cases hcomment : pattern.dropWhile (· = '!') = [] ∨
      (pattern.dropWhile (· = '!')).head? = some '#'
  · refine ⟨false, by rw [matchPath, compile_of_comment hcomment]; rfl, ?_⟩
    unfold MatchesSegmentwise
    tauto
  · rw [not_or] at hcomment
    obtain ⟨alternatives, hcompile, hany⟩ := compile_of_pattern h hcomment.1 hcomment.2
    refine ⟨_, by rw [matchPath, hcompile]; rfl, ?_⟩
    unfold MatchesSegmentwise Compiled.accepts
    dsimp only
    rw [bne_iff_ne, ← hany path, and_iff_right hcomment.1, and_iff_right hcomment.2]
    cases alternatives.any (matchPieces · path) <;> simp [xor_def]

/-- A negated pattern with a choice of directories, and a path with a dotted one. -/
theorem matchPath_segmentwise_of_dotted :
    let path := "a/.b/lib".toList
    let pattern := "!**/\x7bsrc,l?b\x7d/**".toList
    '[' ∉ pattern ∧
      ∃ b, matchPath path pattern = .ok b ∧ (b = true ↔ MatchesSegmentwise path pattern) :=
  ⟨by decide, matchPath_segmentwise _ (by decide)⟩

end ComplexityHints.Glob
