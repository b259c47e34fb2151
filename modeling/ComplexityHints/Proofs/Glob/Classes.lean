import ComplexityHints.Proofs.Failure
import ComplexityHints.Proofs.Glob.Expansion
import ComplexityHints.Proofs.Glob.Segment

namespace ComplexityHints.Glob

variable {body : List Char} {c : Char}

def classGlob (body : List Char) : List Char := 'x' :: '[' :: (body ++ [']'])

/-- A body that ends at its closing bracket and belongs to one segment of one alternative. -/
structure IsBody (body : List Char) : Prop where
  ne_nil : body ≠ []
  plain : ∀ c ∈ body, c ∉ [']', '/', '{', '}']

theorem IsBody.not_mem (h : IsBody body) (hc : c ∈ [']', '/', '{', '}']) : c ∉ body :=
  fun hmem => h.plain c hmem hc

theorem classBody?_append (hne : body ≠ []) (hclose : ']' ∉ body) (after : List Char) :
    classBody? (body ++ ']' :: after) = some (body, after) := by
  obtain ⟨first, rest, rfl⟩ := List.exists_cons_of_ne_nil hne
  have hrest : ∀ c ∈ rest, decide (c ≠ ']') = true := by
    intro c hc
    have hne : c ≠ ']' := fun h => hclose (List.mem_cons_of_mem _ (h ▸ hc))
    exact decide_eq_true hne
  have hdrop : (rest ++ ']' :: after).dropWhile (· ≠ ']') = ']' :: after := by
    rw [List.dropWhile_append_of_pos hrest]
    simp
  have htake : (rest ++ ']' :: after).takeWhile (· ≠ ']') = rest := by
    rw [List.takeWhile_append_of_pos hrest]
    simp
  rw [List.cons_append, classBody?, hdrop, htake]

theorem charPieces_classGlob (h : IsBody body) :
    charPieces (classGlob body) = (classPiece body).map fun piece => [.char 'x', piece] := by
  have hbody := classBody?_append h.ne_nil (h.not_mem (by simp)) []
  unfold classGlob
  rw [charPieces, charPieces]
  · split
    · rename_i body' after hread
      rw [hbody] at hread
      obtain ⟨rfl, rfl⟩ := Prod.mk.inj (Option.some.inj hread)
      rw [charPieces]
      cases classPiece body <;> rfl
    · rename_i hread
      rw [hbody] at hread
      contradiction
  all_goals simp

theorem compile_classGlob (h : IsBody body) :
    compile (classGlob body) =
      (classPiece body).map fun piece => some ⟨[[.char 'x', piece]], false⟩ := by
  have hbrace : '{' ∉ classGlob body := by simp [classGlob, h.not_mem]
  have hslash : '/' ∉ classGlob body := by simp [classGlob, h.not_mem]
  have hglobstar : classGlob body ≠ globstar := by simp [classGlob, globstar]
  have hpieces : plainPieces (classGlob body) =
      (classPiece body).map fun piece => [.char 'x', piece] := by
    rw [plainPieces, segments_eq_splitOn, List.splitOn_eq_singleton hslash, pathPieces,
      if_neg hglobstar, segmentPieces, charPieces_classGlob h]
    cases classPiece body <;> rfl
  have hmarks : stripMarks (classGlob body) = (false, classGlob body) := by
    simp [classGlob, stripMarks]
  unfold compile
  rw [hmarks]
  split
  · rename_i heq
    simp [classGlob] at heq
  · rename_i heq
    simp [classGlob] at heq
  · rename_i heq
    obtain ⟨rfl, rfl⟩ := Prod.mk.inj heq
    rw [expandChars_of_not_mem hbrace, List.mapM_cons, hpieces]
    cases classPiece body <;> rfl

theorem matchPath_classGlob (h : IsBody body) (c : Char) :
    matchPath ['x', c] (classGlob body) =
      (classPiece body).map fun piece => piece.matcher List.isEmpty [c] := by
  rw [matchPath, compile_classGlob h]
  cases classPiece body with
  | error e => rfl
  | ok piece =>
    change Except.ok (Compiled.accepts _ _) = Except.ok _
    congr 1
    simp [Compiled.accepts, matchPieces, Piece.matcher, Matcher.char]

theorem takes_of_class (h : IsBody body) (hmark : body.head? ∉ [some '!', some '^']) {b : Bool}
    (hb : matchPath ['x', c] (classGlob body) = .ok b) :
    ∃ ranges, classRanges body = .ok ranges ∧ b = ranges.any (·.contains c) := by
  have hpiece : classPiece body = (classRanges body).map .oneOf := by
    unfold classPiece
    split
    · simp at hmark
    · simp at hmark
    · cases classRanges body <;> rfl
  rw [matchPath_classGlob h, hpiece] at hb
  obtain ⟨piece, hpieces, rfl⟩ := ok_of_map hb
  obtain ⟨ranges, hranges, rfl⟩ := ok_of_map hpieces
  exact ⟨ranges, hranges, by simp [Piece.matcher, Matcher.char]⟩

theorem takes_of_negated_class (h : IsBody body) {b : Bool}
    (hb : matchPath ['x', c] (classGlob ('!' :: body)) = .ok b) :
    ∃ ranges, classRanges ('/' :: body) = .ok ranges ∧ b = !ranges.any (·.contains c) := by
  have hpiece : classPiece ('!' :: body) = (classRanges ('/' :: body)).map .noneOf := by
    rw [classPiece]
    cases classRanges ('/' :: body) <;> rfl
  have hbody : IsBody ('!' :: body) := ⟨by simp, by simpa using h.plain⟩
  rw [matchPath_classGlob hbody, hpiece] at hb
  obtain ⟨piece, hpieces, rfl⟩ := ok_of_map hb
  obtain ⟨ranges, hranges, rfl⟩ := ok_of_map hpieces
  exact ⟨ranges, hranges, by simp [Piece.matcher, Matcher.char]⟩

theorem classRanges_slash (h : ∀ hi rest, body ≠ '-' :: hi :: rest) :
    classRanges ('/' :: body) = (classRanges body).map (⟨'/', '/'⟩ :: ·) := by
  rw [classRanges]
  · cases classRanges body <;> rfl
  · intro hi rest heq
    exact h hi rest heq

/-- In front of a dash that more follows the slash starts a range. -/
theorem classRanges_slash_dash {hi : Char} {rest : List Char} {ranges : List CharRange}
    (h : classRanges ('/' :: '-' :: hi :: rest) = .ok ranges) :
    '/' ≤ hi ∧ ∃ behind, classRanges rest = .ok behind ∧ ranges = ⟨'/', hi⟩ :: behind := by
  rw [classRanges] at h
  split at h
  · contradiction
  · rename_i hle
    obtain ⟨behind, hbehind, heq⟩ := ok_of_bind h
    cases heq
    exact ⟨Char.not_lt.1 hle, behind, hbehind, rfl⟩

/-- A leading dash that no other dash follows stands for itself. -/
theorem classRanges_dash {hi : Char} {rest : List Char} (h : hi ≠ '-') :
    classRanges ('-' :: hi :: rest) = (classRanges (hi :: rest)).map (⟨'-', '-'⟩ :: ·) := by
  rw [classRanges]
  · cases classRanges (hi :: rest) <;> rfl
  · intro hi' rest' heq
    exact h (List.cons.inj heq).1

theorem contains_self (d c : Char) : CharRange.contains ⟨d, d⟩ c = decide (c = d) := by
  have hiff : (d ≤ c ∧ c ≤ d) ↔ c = d := by
    constructor
    · rintro ⟨hle, hge⟩
      exact Char.le_antisymm hge hle
    · rintro rfl
      exact ⟨Char.le_refl c, Char.le_refl c⟩
  simp only [CharRange.contains, hiff]

/-- A class and its negation take complementary characters, the slash apart, unless the body starts with
a dash and goes on. Then the class takes the dash and what the rest of the body says, and the negated
class takes what is outside the range from the slash to the character behind the dash and outside the
ranges behind that. -/
theorem negated_class_takes {body : List Char} (hbody : IsBody body)
    (hmark : body.head? ∉ [some '!', some '^']) {c : Char} (hc : c ≠ '/') {takes negated : Bool}
    (htakes : matchPath ['x', c] (classGlob body) = .ok takes)
    (hnegated : matchPath ['x', c] (classGlob ('!' :: body)) = .ok negated) :
    ((∀ hi rest, body ≠ '-' :: hi :: rest) → Xor (takes = true) (negated = true)) ∧
    ∀ hi rest, body = '-' :: hi :: rest → ∃ others behind,
      classRanges (hi :: rest) = .ok others ∧ classRanges rest = .ok behind ∧
      (takes = true ↔ c = '-' ∨ others.any (·.contains c) = true) ∧
      (negated = true ↔ ¬ ('/' ≤ c ∧ c ≤ hi) ∧ behind.any (·.contains c) = false) := by
  obtain ⟨ranges, hranges, rfl⟩ := takes_of_class hbody hmark htakes
  obtain ⟨outside, houtside, rfl⟩ := takes_of_negated_class hbody hnegated
  refine ⟨?_, ?_⟩
  · intro hdash
    rw [classRanges_slash hdash, hranges] at houtside
    cases houtside
    rw [List.any_cons, contains_self, decide_eq_false hc]
    cases ranges.any (·.contains c) <;> simp [xor_def]
  · rintro hi rest rfl
    obtain ⟨hle, behind, hbehind, rfl⟩ := classRanges_slash_dash houtside
    -- the range from the slash exists, so a second dash does not follow the first
    have hne : hi ≠ '-' := by
      rintro rfl
      exact absurd hle (by decide)
    rw [classRanges_dash hne] at hranges
    obtain ⟨others, hothers, rfl⟩ := ok_of_map hranges
    refine ⟨others, behind, hothers, hbehind, ?_, ?_⟩
    · rw [List.any_cons, contains_self, Bool.or_eq_true, decide_eq_true_iff]
    · rw [List.any_cons, Bool.not_or, Bool.and_eq_true, Bool.not_eq_true', Bool.not_eq_true',
        CharRange.contains, decide_eq_false_iff_not]

/-- A body with a range and a dash at its end. -/
theorem negated_class_takes_of_range :
    let body := ['a', '-', 'f', '-']
    IsBody body ∧ ∃ takes negated, matchPath ['x', '-'] (classGlob body) = .ok takes ∧
      matchPath ['x', '-'] (classGlob ('!' :: body)) = .ok negated ∧
      Xor (takes = true) (negated = true) := by
  intro body
  have hbody : IsBody body := ⟨by simp [body], by simp [body]⟩
  have htakes : matchPath ['x', '-'] (classGlob body) = .ok true := by decide +kernel
  have hnegated : matchPath ['x', '-'] (classGlob ('!' :: body)) = .ok false := by decide +kernel
  have h := negated_class_takes hbody (by decide) (by decide) htakes hnegated
  exact ⟨hbody, true, false, htakes, hnegated, h.1 (by simp [body])⟩

/-- With a leading dash a class and its negation both take a character, or neither does. -/
theorem negated_class_not_complement :
    matchPath ['x', '-'] (classGlob ['-', 'a']) = .ok true ∧
      matchPath ['x', '-'] (classGlob ['!', '-', 'a']) = .ok true ∧
      matchPath ['x', 'A'] (classGlob ['-', 'a']) = .ok false ∧
      matchPath ['x', 'A'] (classGlob ['!', '-', 'a']) = .ok false := by
  decide +kernel

end ComplexityHints.Glob
