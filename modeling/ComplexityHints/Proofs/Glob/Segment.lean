import ComplexityHints.Glob.Match
import Mathlib.Tactic

namespace ComplexityHints.Glob

/-- The text that an ordinary segment of a pattern stands for. -/
inductive Spells : List Char → List Char → Prop
  | nil : Spells [] []
  | star {p s : List Char} (run : List Char) (h : Spells p s) : Spells ('*' :: p) (run ++ s)
  | one {p s : List Char} (c : Char) (h : Spells p s) : Spells ('?' :: p) (c :: s)
  | escaped {p s : List Char} (c : Char) (h : Spells p s) : Spells ('\\' :: c :: p) (c :: s)
  | backslash : Spells ['\\'] ['\\']
  | char {p s : List Char} {c : Char} (hc : c ∉ ['*', '?', '\\']) (h : Spells p s) :
      Spells (c :: p) (c :: s)

def Dotted (s : List Char) : Prop := s.head? = some '.'

def Wild (p : List Char) : Prop := p.head? = some '*' ∨ p.head? = some '?'

/-- An ordinary segment of a pattern against a segment of a path. A leading wildcard does not stand
for a leading dot. -/
def SegmentMatches (p s : List Char) : Prop := Spells p s ∧ (Wild p → ¬ Dotted s)

theorem segments_eq_splitOn (s : List Char) : segments s = s.splitOn '/' := by
  induction s with
  | nil => rfl
  | cons c s ih =>
    rw [segments, ih, List.splitOn_cons_eq_if_modifyHead]
    by_cases hc : c = '/'
    · simp [hc]
    · obtain ⟨x, xs, hx⟩ := List.exists_cons_of_ne_nil (List.splitOn_ne_nil '/' s)
      simp [hc, hx, consItem]

@[elab_as_elim]
theorem splitOn_induction {motive : List Char → Prop} (last : ∀ s, '/' ∉ s → motive s)
    (step : ∀ a b, '/' ∉ a → motive b → motive (a ++ '/' :: b)) (s : List Char) : motive s := by
  -- `a` is what has been read of the first segment
  have key (a s : List Char) (ha : '/' ∉ a) : motive (a ++ s) := by
    induction s generalizing a with
    | nil => simpa using last a ha
    | cons c s ih =>
      by_cases hc : c = '/'
      · subst hc
        exact step a s ha (ih [] List.not_mem_nil)
      · rw [List.append_cons]
        exact ih (a ++ [c]) (by simp [ha, Ne.symm hc])
  exact key [] s List.not_mem_nil

theorem splitOn_slash {a : List Char} (ha : '/' ∉ a) (b : List Char) :
    (a ++ '/' :: b).splitOn '/' = a :: b.splitOn '/' := by
  rw [List.splitOn_append_cons_self, List.splitOn_eq_singleton ha, List.singleton_append]

theorem slash_not_mem_of_mem_splitOn {x s : List Char} (h : x ∈ s.splitOn '/') : '/' ∉ x := by
  induction s using splitOn_induction with
  | last s hs =>
    rw [List.splitOn_eq_singleton hs, List.mem_singleton] at h
    rwa [h]
  | step a b ha ih =>
    rw [splitOn_slash ha] at h
    rcases List.mem_cons.1 h with rfl | h
    · exact ha
    · exact ih h

theorem subset_of_mem_splitOn {x s : List Char} (h : x ∈ s.splitOn '/') : x ⊆ s := by
  induction s using splitOn_induction with
  | last s hs =>
    rw [List.splitOn_eq_singleton hs, List.mem_singleton] at h
    rw [h]
    exact List.Subset.refl s
  | step a b ha ih =>
    rw [splitOn_slash ha] at h
    rcases List.mem_cons.1 h with rfl | h
    · exact List.subset_append_left x _
    · intro c hc
      exact List.mem_append_right a (List.mem_cons_of_mem '/' (ih h hc))

def matchThen (pieces : List Piece) (next : Matcher) : Matcher :=
  pieces.foldr (fun piece next => piece.matcher next) next

theorem matchThen_append (ps qs : List Piece) (next : Matcher) :
    matchThen (ps ++ qs) next = matchThen ps (matchThen qs next) :=
  List.foldr_append ..

theorem run_iff (next : Matcher) (s : List Char) :
    Matcher.run next s = true ↔ ∃ a b, s = a ++ b ∧ '/' ∉ a ∧ next b = true := by
  induction s with
  | nil =>
    rw [Matcher.run]
    constructor
    · intro h
      exact ⟨[], [], rfl, List.not_mem_nil, h⟩
    · intro h
      obtain ⟨a, b, hab, -, h⟩ := h
      obtain ⟨rfl, rfl⟩ := List.append_eq_nil_iff.1 hab.symm
      exact h
  | cons c s ih =>
    rw [Matcher.run, Bool.or_eq_true, Bool.and_eq_true, ih, decide_eq_true_iff]
    constructor
    · intro h
      rcases h with h | ⟨hc, a, b, rfl, ha, h⟩
      · exact ⟨[], c :: s, rfl, List.not_mem_nil, h⟩
      · exact ⟨c :: a, b, rfl, by simp [ha, Ne.symm hc], h⟩
    · intro h
      obtain ⟨a, b, hab, ha, h⟩ := h
      cases a with
      | nil => exact .inl (by rwa [hab])
      | cons d a =>
        obtain ⟨rfl, rfl⟩ := List.cons.inj hab
        rw [List.mem_cons, not_or] at ha
        exact .inr ⟨Ne.symm ha.1, a, b, rfl, ha.2, h⟩

theorem char_iff (p : Char → Bool) (next : Matcher) (s : List Char) :
    Matcher.char p next s = true ↔ ∃ c b, s = c :: b ∧ p c = true ∧ next b = true := by
  cases s with
  | nil => simp [Matcher.char]
  | cons c s => simp [Matcher.char]

theorem spells_star_star {p s : List Char} :
    Spells ('*' :: '*' :: p) s ↔ Spells ('*' :: p) s := by
  constructor
  · intro h
    cases h with
    | star run h =>
      cases h with
      | star run' h =>
        rw [← List.append_assoc]
        exact .star _ h
      | char hc => simp at hc
    | char hc => simp at hc
  · intro h
    exact .star [] h

/-- Pieces that take exactly the texts without a slash that a pattern segment stands for. -/
def Takes (p : List Char) (pieces : List Piece) : Prop :=
  ∀ next s, matchThen pieces next s = true ↔
    ∃ a b, s = a ++ b ∧ '/' ∉ a ∧ Spells p a ∧ next b = true

theorem takes_nil : Takes [] [] := by
  intro next s
  constructor
  · intro h
    exact ⟨[], s, rfl, List.not_mem_nil, .nil, h⟩
  · intro h
    obtain ⟨a, b, rfl, -, ha, h⟩ := h
    cases ha
    exact h

theorem Takes.cons {p rest : List Char} {piece : Piece} {pieces : List Piece} {is : Char → Bool}
    (h : Takes rest pieces) (hpiece : ∀ next, piece.matcher next = Matcher.char is next)
    (hslash : is '/' = false)
    (hspells : ∀ t, '/' ∉ t →
      (Spells p t ↔ ∃ c a, t = c :: a ∧ is c = true ∧ Spells rest a)) :
    Takes p (piece :: pieces) := by
  intro next s
  change piece.matcher (matchThen pieces next) s = true ↔ _
  rw [hpiece, char_iff]
  constructor
  · intro hs
    obtain ⟨c, t, rfl, hc, ht⟩ := hs
    obtain ⟨a, b, rfl, ha, hrest, hb⟩ := (h next t).1 ht
    have hne : c ≠ '/' := by
      intro heq
      rw [heq, hslash] at hc
      exact Bool.false_ne_true hc
    have hca : '/' ∉ c :: a := by simp [ha, Ne.symm hne]
    exact ⟨c :: a, b, rfl, hca, (hspells _ hca).2 ⟨c, a, rfl, hc, hrest⟩, hb⟩
  · intro hs
    obtain ⟨t, b, rfl, ht, hp, hb⟩ := hs
    obtain ⟨c, a, rfl, hc, hrest⟩ := (hspells t ht).1 hp
    rw [List.mem_cons, not_or] at ht
    exact ⟨c, a ++ b, rfl, hc, (h next _).2 ⟨a, b, rfl, ht.2, hrest, hb⟩⟩

theorem Takes.star {rest : List Char} {pieces : List Piece} (h : Takes rest pieces) :
    Takes ('*' :: rest) (.run :: pieces) := by
  intro next s
  change Matcher.run (matchThen pieces next) s = true ↔ _
  rw [run_iff]
  constructor
  · intro hs
    obtain ⟨r, t, rfl, hr, ht⟩ := hs
    obtain ⟨a, b, rfl, ha, hspells, hb⟩ := (h next t).1 ht
    exact ⟨r ++ a, b, by simp, by simp [hr, ha], .star r hspells, hb⟩
  · intro hs
    obtain ⟨a, b, rfl, ha, hspells, hb⟩ := hs
    cases hspells with
    | @star _ t r hspells =>
      rw [List.mem_append, not_or] at ha
      exact ⟨r, t ++ b, by simp, ha.1, (h next _).2 ⟨t, b, rfl, ha.2, hspells, hb⟩⟩
    | char hc => simp at hc

theorem spells_escaped {c : Char} {p t : List Char} :
    Spells ('\\' :: c :: p) t ↔ ∃ a, t = c :: a ∧ Spells p a := by
  constructor
  · intro h
    cases h with
    | escaped _ h => exact ⟨_, rfl, h⟩
    | char hc => simp at hc
  · intro h
    obtain ⟨a, rfl, h⟩ := h
    exact .escaped c h

theorem spells_one {p t : List Char} :
    Spells ('?' :: p) t ↔ ∃ c a, t = c :: a ∧ Spells p a := by
  constructor
  · intro h
    cases h with
    | one c h => exact ⟨c, _, rfl, h⟩
    | char hc => simp at hc
  · intro h
    obtain ⟨c, a, rfl, h⟩ := h
    exact .one c h

theorem spells_char {c : Char} {p t : List Char} (hstar : c ≠ '*') (hone : c ≠ '?')
    (hlone : c = '\\' → p = []) : Spells (c :: p) t ↔ ∃ a, t = c :: a ∧ Spells p a := by
  constructor
  · intro h
    cases h with
    | star => exact absurd rfl hstar
    | one => exact absurd rfl hone
    | escaped => simp at hlone
    | backslash => exact ⟨[], rfl, .nil⟩
    | char _ h => exact ⟨_, rfl, h⟩
  · intro h
    obtain ⟨a, rfl, h⟩ := h
    by_cases hc : c = '\\'
    · obtain rfl := hlone hc
      cases h
      rw [hc]
      exact .backslash
    · exact .char (by simp [hstar, hone, hc]) h

theorem charPieces_spec {p : List Char} (hbracket : '[' ∉ p) (hslash : '/' ∉ p) :
    ∃ pieces, charPieces p = .ok pieces ∧ Takes p pieces := by
  fun_induction charPieces p with
  | case1 => exact ⟨[], rfl, takes_nil⟩
  | case2 c rest ih =>
    simp only [List.mem_cons, not_or] at hbracket hslash
    obtain ⟨pieces, hpieces, htakes⟩ := ih hbracket.2.2 hslash.2.2
    refine ⟨.char c :: pieces, by rw [hpieces]; rfl, ?_⟩
    apply htakes.cons (fun _ => rfl) (by simpa using hslash.2.1)
    intro t _
    simp [spells_escaped]
  | case3 rest ih =>
    rw [List.mem_cons, not_or] at hbracket hslash
    obtain ⟨pieces, hpieces, htakes⟩ := ih hbracket.2 hslash.2
    -- the second star of a run adds no piece
    refine ⟨pieces, hpieces, ?_⟩
    intro next s
    simp only [htakes next s, spells_star_star]
  | case4 rest _ ih =>
    rw [List.mem_cons, not_or] at hbracket hslash
    obtain ⟨pieces, hpieces, htakes⟩ := ih hbracket.2 hslash.2
    exact ⟨.run :: pieces, by rw [hpieces]; rfl, htakes.star⟩
  | case5 rest ih =>
    rw [List.mem_cons, not_or] at hbracket hslash
    obtain ⟨pieces, hpieces, htakes⟩ := ih hbracket.2 hslash.2
    refine ⟨.one :: pieces, by rw [hpieces]; rfl, ?_⟩
    apply htakes.cons (fun _ => rfl) (by simp)
    intro t ht
    rw [spells_one]
    constructor
    · intro h
      obtain ⟨c, a, rfl, h⟩ := h
      rw [List.mem_cons, not_or] at ht
      exact ⟨c, a, rfl, by simpa using Ne.symm ht.1, h⟩
    · intro h
      obtain ⟨c, a, rfl, -, h⟩ := h
      exact ⟨c, a, rfl, h⟩
  | case6 => simp at hbracket
  | case7 => simp at hbracket
  | case8 c rest hescape _ hstar hone _ ih =>
    rw [List.mem_cons, not_or] at hbracket hslash
    obtain ⟨pieces, hpieces, htakes⟩ := ih hbracket.2 hslash.2
    -- a backslash that comes here has nothing behind it to escape
    have hlone : c = '\\' → rest = [] := by
      intro hc
      cases rest with
      | nil => rfl
      | cons e rest => exact (hescape e rest hc rfl).elim
    refine ⟨.char c :: pieces, by rw [hpieces]; rfl, ?_⟩
    apply htakes.cons (fun _ => rfl) (by simpa using hslash.1)
    intro t _
    simp [spells_char hstar hone hlone]

theorem splitOn_eq_cons_iff {s x : List Char} {xs : List (List Char)} :
    s.splitOn '/' = x :: xs ↔
      '/' ∉ x ∧ (s = x ∧ xs = [] ∨ ∃ b, s = x ++ '/' :: b ∧ xs = b.splitOn '/') := by
  constructor
  · intro h
    have hmem : x ∈ s.splitOn '/' := by
      rw [h]
      exact List.mem_cons_self
    refine ⟨slash_not_mem_of_mem_splitOn hmem, ?_⟩
    induction s using splitOn_induction with
    | last s hs =>
      rw [List.splitOn_eq_singleton hs] at h
      obtain ⟨rfl, rfl⟩ := List.cons.inj h
      exact .inl ⟨rfl, rfl⟩
    | step a b ha _ =>
      rw [splitOn_slash ha] at h
      obtain ⟨rfl, rfl⟩ := List.cons.inj h
      exact .inr ⟨b, rfl, rfl⟩
  · intro h
    obtain ⟨hx, ⟨rfl, rfl⟩ | ⟨b, rfl, rfl⟩⟩ := h
    · exact List.splitOn_eq_singleton hx
    · exact splitOn_slash hx b

theorem undotted_iff {s x : List Char} {xs : List (List Char)} (h : s.splitOn '/' = x :: xs) :
    Matcher.undotted s = true ↔ ¬ Dotted x := by
  rw [Matcher.undotted, decide_eq_true_iff, Dotted]
  obtain ⟨-, ⟨rfl, -⟩ | ⟨b, rfl, -⟩⟩ := splitOn_eq_cons_iff.1 h
  · rfl
  · cases x <;> simp

/-- Behind a segment a path is at its end or at a slash. `rest` says which segments may follow. -/
def Bounded (next : Matcher) (rest : List (List Char) → Prop) : Prop :=
  ∀ b, next b = true ↔ b = [] ∧ rest [] ∨ ∃ c, b = '/' :: c ∧ rest (c.splitOn '/')

theorem Takes.matchThen_iff {p : List Char} {pieces : List Piece} (h : Takes p pieces)
    {next : Matcher} {rest : List (List Char) → Prop} (hnext : Bounded next rest) (s : List Char) :
    matchThen pieces next s = true ↔
      ∃ x xs, s.splitOn '/' = x :: xs ∧ Spells p x ∧ rest xs := by
  rw [h next s]
  constructor
  · intro hs
    obtain ⟨a, b, rfl, ha, hspells, hb⟩ := hs
    obtain ⟨rfl, hrest⟩ | ⟨c, rfl, hrest⟩ := (hnext b).1 hb
    · exact ⟨a, [], by simpa using List.splitOn_eq_singleton ha, hspells, hrest⟩
    · exact ⟨a, _, splitOn_slash ha c, hspells, hrest⟩
  · intro hs
    obtain ⟨x, xs, hsplit, hspells, hrest⟩ := hs
    obtain ⟨hx, ⟨rfl, rfl⟩ | ⟨b, rfl, rfl⟩⟩ := splitOn_eq_cons_iff.1 hsplit
    · exact ⟨s, [], by simp, hx, hspells, (hnext []).2 (.inl ⟨rfl, hrest⟩)⟩
    · exact ⟨x, '/' :: b, rfl, hx, hspells, (hnext _).2 (.inr ⟨b, rfl, hrest⟩)⟩

/-- The pieces of an ordinary segment take one segment of a path that matches it. -/
theorem segmentPieces_spec {p : List Char} (hbracket : '[' ∉ p) (hslash : '/' ∉ p) :
    ∃ pieces, segmentPieces p = .ok pieces ∧ ∀ next rest, Bounded next rest → ∀ s,
      (matchThen pieces next s = true ↔
        ∃ x xs, s.splitOn '/' = x :: xs ∧ SegmentMatches p x ∧ rest xs) := by
  obtain ⟨pieces, hpieces, htakes⟩ := charPieces_spec hbracket hslash
  by_cases hwild : Wild p
  · refine ⟨.undotted :: pieces, ?_, ?_⟩
    · rw [segmentPieces, hpieces]
      rcases hwild with hp | hp <;> rw [hp] <;> rfl
    · intro next rest hnext s
      change (Matcher.undotted s && matchThen pieces next s) = true ↔ _
      rw [Bool.and_eq_true, htakes.matchThen_iff hnext]
      constructor
      · intro hs
        obtain ⟨hdot, x, xs, hsplit, hspells, hrest⟩ := hs
        exact ⟨x, xs, hsplit, ⟨hspells, fun _ => (undotted_iff hsplit).1 hdot⟩, hrest⟩
      · intro hs
        obtain ⟨x, xs, hsplit, ⟨hspells, hdot⟩, hrest⟩ := hs
        exact ⟨(undotted_iff hsplit).2 (hdot hwild), x, xs, hsplit, hspells, hrest⟩
  · refine ⟨pieces, ?_, ?_⟩
    · rw [segmentPieces, hpieces]
      dsimp only [bind, Except.bind]
      -- of the marks that forbid a leading dot only a bracket is left, and there is none
      split
      · rename_i hp
        exact absurd (.inl hp) hwild
      · rename_i hp
        exact absurd (.inr hp) hwild
      · rename_i hp
        exact absurd (List.mem_of_head? hp) hbracket
      · rfl
    · intro next rest hnext s
      rw [htakes.matchThen_iff hnext]
      simp [SegmentMatches, hwild]

end ComplexityHints.Glob
