import ComplexityHints.Proofs.Glob.Classes

namespace ComplexityHints.Glob

namespace Piece

def crosses : Piece → Bool
  | oneOf ranges => ranges.any (·.contains '/')
  | _ => false

/-- A piece that takes a slash only if it is one or is a class that crosses. -/
def Confined : Piece → Prop
  | noneOf ranges => ranges.any (·.contains '/') = true
  | directories | below => False
  | _ => True

end Piece

variable {piece : Piece} {pieces before after : List Piece} {next : Matcher}
  {s front rest body : List Char}

/-- Pieces read `front` off a text that goes on with `rest`. They read it as well in front of any
other text, unless that brings a leading dot where there was none. -/
structure Reads (pieces : List Piece) (next : Matcher) (front rest : List Char) : Prop where
  goesOn : next rest = true
  least : pieces.count (.char '/') ≤ front.count '/'
  most : front.count '/' ≤ pieces.count (.char '/') + pieces.countP Piece.crosses
  again : ∀ (next' : Matcher) (rest' : List Char),
    (Matcher.undotted rest = true → Matcher.undotted rest' = true) → next' rest' = true →
      matchThen pieces next' (front ++ rest') = true

theorem reads_nil (h : next rest = true) : Reads [] next [] rest :=
  ⟨h, Nat.le_refl 0, Nat.zero_le _, fun _ _ _ h => h⟩

theorem undotted_append (front : List Char) {rest rest' : List Char}
    (h : Matcher.undotted rest = true → Matcher.undotted rest' = true) :
    Matcher.undotted (front ++ rest) = true → Matcher.undotted (front ++ rest') = true := by
  cases front with
  | nil => exact h
  | cons c front => exact id

theorem Reads.append {front₁ front₂ : List Char}
    (h₁ : Reads before (matchThen after next) front₁ (front₂ ++ rest))
    (h₂ : Reads after next front₂ rest) :
    Reads (before ++ after) next (front₁ ++ front₂) rest := by
  have hleast₁ := h₁.least
  have hleast₂ := h₂.least
  have hmost₁ := h₁.most
  have hmost₂ := h₂.most
  refine ⟨h₂.goesOn, ?_, ?_, ?_⟩
  · rw [List.count_append, List.count_append]
    omega
  · rw [List.count_append, List.count_append, List.countP_append]
    omega
  · intro next' rest' hdot hrest
    rw [matchThen_append, List.append_assoc]
    exact h₁.again _ _ (undotted_append front₂ hdot) (h₂.again next' rest' hdot hrest)

theorem exists_reads_char {is : Char → Bool}
    (hpiece : ∀ next, piece.matcher next = Matcher.char is next)
    (hwritten : piece = .char '/' → ∀ c, is c = true → c = '/')
    (hslash : is '/' = true → piece = .char '/' ∨ piece.crosses = true)
    (h : matchThen [piece] next s = true) :
    ∃ front rest, s = front ++ rest ∧ Reads [piece] next front rest := by
  change piece.matcher next s = true at h
  rw [hpiece, char_iff] at h
  obtain ⟨c, rest, rfl, hc, hrest⟩ := h
  refine ⟨[c], rest, rfl, hrest, ?_, ?_, ?_⟩
  · rw [List.count_singleton, List.count_singleton]
    split_ifs with hp hcs
    · exact Nat.le_refl 1
    · exact absurd (hwritten (beq_iff_eq.1 hp) c hc) (by simpa using hcs)
    · exact Nat.zero_le 1
    · exact Nat.le_refl 0
  · rw [List.count_singleton, List.count_singleton]
    split_ifs with hcs hp
    · exact Nat.le_add_right 1 _
    · rw [beq_iff_eq.1 hcs] at hc
      have hcrosses := (hslash hc).resolve_left (by simpa using hp)
      simp [hcrosses]
    · exact Nat.zero_le _
    · exact Nat.zero_le _
  · intro next' rest' _ hrest'
    change piece.matcher next' (c :: rest') = true
    rw [hpiece, char_iff]
    exact ⟨c, rest', rfl, hc, hrest'⟩

theorem exists_reads_piece (hconfined : piece.Confined) (h : matchThen [piece] next s = true) :
    ∃ front rest, s = front ++ rest ∧ Reads [piece] next front rest := by
  cases piece with
  | char c =>
    refine exists_reads_char (fun _ => rfl) (by simp +contextual) ?_ h
    intro hc
    rw [of_decide_eq_true hc]
    exact .inl rfl
  | one => exact exists_reads_char (fun _ => rfl) (by simp) (by simp) h
  | oneOf ranges => exact exists_reads_char (fun _ => rfl) (by simp) (fun hr => .inr hr) h
  | noneOf ranges =>
    have hslash : ranges.any (·.contains '/') = true := hconfined
    exact exists_reads_char (fun _ => rfl) (by simp) (by simp [hslash]) h
  | run =>
    obtain ⟨front, rest, rfl, hfront, hrest⟩ := (run_iff next s).1 h
    have hzero : front.count '/' = 0 := List.count_eq_zero.2 hfront
    refine ⟨front, rest, rfl, hrest, by simp, by simp [hzero], ?_⟩
    intro next' rest' _ hrest'
    exact (run_iff next' _).2 ⟨front, rest', rfl, hfront, hrest'⟩
  | undotted =>
    obtain ⟨hdot, hrest⟩ := Bool.and_eq_true_iff.1 h
    refine ⟨[], s, rfl, hrest, by simp, by simp, ?_⟩
    intro next' rest' hdots hrest'
    exact Bool.and_eq_true_iff.2 ⟨hdots hdot, hrest'⟩
  | directories => exact hconfined.elim
  | below => exact hconfined.elim

theorem exists_reads (hconfined : ∀ piece ∈ pieces, piece.Confined)
    (h : matchThen pieces next s = true) :
    ∃ front rest, s = front ++ rest ∧ Reads pieces next front rest := by
  induction pieces generalizing s with
  | nil => exact ⟨[], s, rfl, reads_nil h⟩
  | cons piece pieces ih =>
    obtain ⟨hpiece, hpieces⟩ := List.forall_mem_cons.1 hconfined
    have hfirst : matchThen [piece] (matchThen pieces next) s = true := h
    obtain ⟨front₁, s', rfl, h₁⟩ := exists_reads_piece hpiece hfirst
    obtain ⟨front₂, rest, rfl, h₂⟩ := ih hpieces h₁.goesOn
    exact ⟨front₁ ++ front₂, rest, (List.append_assoc ..).symm, h₁.append h₂⟩

/-- A path has the slashes of the pieces, and at most one more for every class that crosses. -/
theorem slashes_of_matchPieces (hconfined : ∀ piece ∈ pieces, piece.Confined)
    (h : matchPieces pieces s = true) :
    pieces.count (.char '/') ≤ s.count '/' ∧
      s.count '/' ≤ pieces.count (.char '/') + pieces.countP Piece.crosses := by
  have hall : matchThen pieces List.isEmpty s = true := h
  obtain ⟨front, rest, rfl, hreads⟩ := exists_reads hconfined hall
  obtain rfl : rest = [] := List.isEmpty_iff.1 hreads.goesOn
  rw [List.append_nil]
  exact ⟨hreads.least, hreads.most⟩

/-- Where a class crosses, the character that it takes can be made a slash. -/
theorem exists_more_slashes (hconfined : ∀ piece ∈ pieces, piece.Confined)
    (hcrosses : ∃ piece ∈ pieces, piece.crosses = true) (h : matchPieces pieces s = true) :
    ∃ s', matchPieces pieces s' = true ∧ pieces.count (.char '/') < s'.count '/' := by
  obtain ⟨piece, hmem, hpiece⟩ := hcrosses
  obtain ⟨before, after, rfl⟩ := List.append_of_mem hmem
  cases piece with
  | oneOf ranges =>
    change matchThen (before ++ .oneOf ranges :: after) List.isEmpty s = true at h
    rw [matchThen_append] at h
    obtain ⟨front, rest, rfl, hreads⟩ :=
      exists_reads (fun p hp => hconfined p (List.mem_append_left _ hp)) h
    obtain ⟨c, tail, rfl, -, htail⟩ :=
      (char_iff (fun c => ranges.any (·.contains c)) _ _).1 hreads.goesOn
    have hafter := slashes_of_matchPieces
      (fun p hp => hconfined p (List.mem_append_right _ (List.mem_cons_of_mem _ hp))) htail
    refine ⟨front ++ '/' :: tail, ?_, ?_⟩
    · change matchThen (before ++ .oneOf ranges :: after) List.isEmpty _ = true
      rw [matchThen_append]
      refine hreads.again _ _ (fun _ => rfl) ?_
      exact (char_iff (fun c => ranges.any (·.contains c)) _ _).2 ⟨'/', tail, rfl, hpiece, htail⟩
    · have hbefore := hreads.least
      have hclass : (Piece.oneOf ranges :: after).count (.char '/') = after.count (.char '/') := by
        simp
      rw [List.count_append, hclass, List.count_append, List.count_cons_self]
      omega
  | _ => exact absurd hpiece Bool.false_ne_true

theorem mem_of_mem_classRanges {ranges : List CharRange} (h : classRanges body = .ok ranges)
    {r : CharRange} (hr : r ∈ ranges) : r.lo ∈ body ∧ r.hi ∈ body := by
  fun_induction classRanges body generalizing ranges with
  | case1 =>
    cases h
    contradiction
  | case2 => contradiction
  | case3 lo hi rest _ ih =>
    obtain ⟨behind, hbehind, heq⟩ := ok_of_bind h
    cases heq
    rcases List.mem_cons.1 hr with rfl | hr
    · simp
    · have hmem := ih hbehind hr
      simp [hmem]
  | case4 c rest _ ih =>
    obtain ⟨behind, hbehind, heq⟩ := ok_of_bind h
    cases heq
    rcases List.mem_cons.1 hr with rfl | hr
    · simp
    · have hmem := ih hbehind hr
      simp [hmem]

theorem any_contains_slash {ranges : List CharRange} (h : classRanges ('/' :: body) = .ok ranges) :
    ranges.any (·.contains '/') = true := by
  by_cases hdash : ∃ hi rest, body = '-' :: hi :: rest
  · obtain ⟨hi, rest, rfl⟩ := hdash
    obtain ⟨hle, behind, -, rfl⟩ := classRanges_slash_dash h
    simp [CharRange.contains, hle]
  · rw [classRanges_slash (by simpa using hdash)] at h
    obtain ⟨others, -, rfl⟩ := ok_of_map h
    simp [contains_self]

/-- A piece of a segment: confined, no slash, and with no range but between characters of the
segment. -/
structure Piece.Inside (segment : List Char) (piece : Piece) : Prop where
  confined : piece.Confined
  ne_slash : piece ≠ .char '/'
  drawn : ∀ ranges, piece = .oneOf ranges → ∀ r ∈ ranges, r.lo ∈ segment ∧ r.hi ∈ segment

theorem Piece.Inside.mono {segment segment' : List Char} (h : piece.Inside segment)
    (hsub : segment ⊆ segment') : piece.Inside segment' := by
  refine ⟨h.confined, h.ne_slash, ?_⟩
  intro ranges heq r hr
  have hdrawn := h.drawn ranges heq r hr
  exact ⟨hsub hdrawn.1, hsub hdrawn.2⟩

theorem inside_classPiece (h : classPiece body = .ok piece) : piece.Inside body := by
  unfold classPiece at h
  split at h
  · obtain ⟨ranges, hranges, heq⟩ := ok_of_bind h
    cases heq
    exact ⟨any_contains_slash hranges, by simp, by simp⟩
  · obtain ⟨ranges, hranges, heq⟩ := ok_of_bind h
    cases heq
    exact ⟨any_contains_slash hranges, by simp, by simp⟩
  · obtain ⟨ranges, hranges, heq⟩ := ok_of_bind h
    cases heq
    refine ⟨trivial, by simp, ?_⟩
    intro ranges' heq r hr
    cases heq
    exact mem_of_mem_classRanges hranges hr

theorem subset_of_classBody? {after : List Char} (h : classBody? s = some (body, after)) :
    body ⊆ s ∧ after ⊆ s := by
  unfold classBody? at h
  split at h
  · contradiction
  · rename_i first rest
    split at h
    · contradiction
    · rename_i close tail hdrop
      cases h
      have hafter : after ⊆ rest := by
        have hsuffix := (List.dropWhile_suffix (l := rest) (· ≠ ']')).subset
        rw [hdrop] at hsuffix
        exact fun c hc => hsuffix (List.mem_cons_of_mem close hc)
      refine ⟨?_, fun c hc => List.mem_cons_of_mem first (hafter hc)⟩
      exact List.cons_subset_cons first (List.takeWhile_prefix _).subset

theorem inside_char {segment : List Char} {c : Char} (hc : c ≠ '/') :
    (Piece.char c).Inside segment :=
  ⟨trivial, by simpa using hc, by simp⟩

theorem inside_cons {segment rest : List Char} {others : Except PatternError (List Piece)}
    (hpiece : piece.Inside segment) (hsub : rest ⊆ segment)
    (hothers : ∀ pieces, others = .ok pieces → ∀ piece ∈ pieces, piece.Inside rest)
    (h : (do return piece :: (← others)) = Except.ok pieces) :
    ∀ piece ∈ pieces, piece.Inside segment := by
  obtain ⟨behind, hbehind, heq⟩ := ok_of_bind h
  cases heq
  refine List.forall_mem_cons.2 ⟨hpiece, ?_⟩
  intro p hp
  exact (hothers behind hbehind p hp).mono hsub

theorem inside_charPieces {segment : List Char} (hslash : '/' ∉ segment)
    (h : charPieces segment = .ok pieces) : ∀ piece ∈ pieces, piece.Inside segment := by
  fun_induction charPieces segment generalizing pieces with
  | case1 =>
    cases h
    exact List.forall_mem_nil _
  | case2 c rest ih =>
    simp only [List.mem_cons, not_or] at hslash
    have hsub : rest ⊆ '\\' :: c :: rest := by simp
    exact inside_cons (inside_char (Ne.symm hslash.2.1)) hsub (fun _ => ih hslash.2.2) h
  | case3 rest ih =>
    intro p hp
    rw [List.mem_cons, not_or] at hslash
    exact (ih hslash.2 h p hp).mono (List.subset_cons_self '*' _)
  | case4 rest _ ih =>
    rw [List.mem_cons, not_or] at hslash
    have hrun : Piece.run.Inside ('*' :: rest) := ⟨trivial, by simp, by simp⟩
    exact inside_cons hrun (List.subset_cons_self '*' rest) (fun _ => ih hslash.2) h
  | case5 rest ih =>
    rw [List.mem_cons, not_or] at hslash
    have hone : Piece.one.Inside ('?' :: rest) := ⟨trivial, by simp, by simp⟩
    exact inside_cons hone (List.subset_cons_self '?' rest) (fun _ => ih hslash.2) h
  | case6 rest body after hbody _ ih =>
    obtain ⟨hbodysub, haftersub⟩ := subset_of_classBody? hbody
    obtain ⟨piece, hpiece, h⟩ := ok_of_bind h
    have hrest : rest ⊆ '[' :: rest := List.subset_cons_self '[' rest
    have hafter : after ⊆ '[' :: rest := List.Subset.trans haftersub hrest
    refine inside_cons ((inside_classPiece hpiece).mono (List.Subset.trans hbodysub hrest)) hafter
      (fun _ => ih ?_) h
    exact fun hmem => hslash (hafter hmem)
  | case7 rest _ ih =>
    rw [List.mem_cons, not_or] at hslash
    exact inside_cons (inside_char (by decide)) (List.subset_cons_self '[' rest)
      (fun _ => ih hslash.2) h
  | case8 c rest _ _ _ _ _ ih =>
    rw [List.mem_cons, not_or] at hslash
    exact inside_cons (inside_char (Ne.symm hslash.1)) (List.subset_cons_self c rest)
      (fun _ => ih hslash.2) h

theorem inside_segmentPieces {segment : List Char} (hslash : '/' ∉ segment)
    (h : segmentPieces segment = .ok pieces) : ∀ piece ∈ pieces, piece.Inside segment := by
  obtain ⟨others, hothers, h⟩ := ok_of_bind h
  have hinside := inside_charPieces hslash hothers
  have hundotted : Piece.undotted.Inside segment := ⟨trivial, by simp, by simp⟩
  split at h
  all_goals cases h
  · exact List.forall_mem_cons.2 ⟨hundotted, hinside⟩
  · exact List.forall_mem_cons.2 ⟨hundotted, hinside⟩
  · exact List.forall_mem_cons.2 ⟨hundotted, hinside⟩
  · exact hinside

/-- The pieces of a pattern without `**`: those of its segments, and the slashes between them. -/
structure Plain (pattern : List Char) (pieces : List Piece) : Prop where
  confined : ∀ piece ∈ pieces, piece.Confined
  count_slash : pieces.count (.char '/') = pattern.count '/'
  drawn : ∀ ranges, .oneOf ranges ∈ pieces → ∀ r ∈ ranges,
    (r.lo ∈ pattern ∧ r.hi ∈ pattern) ∧ r.lo ≠ '/' ∧ r.hi ≠ '/'

theorem plain_of_segmentPieces {segment : List Char} (hslash : '/' ∉ segment)
    (h : segmentPieces segment = .ok pieces) : Plain segment pieces := by
  have hinside := inside_segmentPieces hslash h
  refine ⟨fun p hp => (hinside p hp).confined, ?_, ?_⟩
  · have hzero : pieces.count (.char '/') = 0 :=
      List.count_eq_zero.2 fun hmem => (hinside _ hmem).ne_slash rfl
    rw [hzero, List.count_eq_zero.2 hslash]
  · intro ranges hmem r hr
    have hdrawn := (hinside _ hmem).drawn ranges rfl r hr
    exact ⟨hdrawn, fun heq => hslash (heq ▸ hdrawn.1), fun heq => hslash (heq ▸ hdrawn.2)⟩

theorem Plain.slash {a b : List Char} (ha : Plain a before) (hb : Plain b after) :
    Plain (a ++ '/' :: b) (before ++ .char '/' :: after) := by
  refine ⟨?_, ?_, ?_⟩
  · intro p hp
    rcases List.mem_append.1 hp with hp | hp
    · exact ha.confined p hp
    · rcases List.mem_cons.1 hp with rfl | hp
      · trivial
      · exact hb.confined p hp
  · rw [List.count_append, List.count_append, List.count_cons_self, List.count_cons_self,
      ha.count_slash, hb.count_slash]
  · intro ranges hmem r hr
    rcases List.mem_append.1 hmem with hmem | hmem
    · obtain ⟨hdrawn, hne⟩ := ha.drawn ranges hmem r hr
      exact ⟨by simp [hdrawn], hne⟩
    · have hmem : .oneOf ranges ∈ after := by simpa using hmem
      obtain ⟨hdrawn, hne⟩ := hb.drawn ranges hmem r hr
      exact ⟨by simp [hdrawn], hne⟩

theorem plain_of_plainPieces {pattern : List Char} (hglobstar : globstar ∉ segments pattern)
    (h : plainPieces pattern = .ok pieces) : Plain pattern pieces := by
  rw [plainPieces, segments_eq_splitOn] at h
  rw [segments_eq_splitOn] at hglobstar
  induction pattern using splitOn_induction generalizing pieces with
  | last s hs =>
    rw [List.splitOn_eq_singleton hs] at h hglobstar
    rw [pathPieces, if_neg (by simpa [eq_comm] using hglobstar)] at h
    exact plain_of_segmentPieces hs h
  | step a b ha ih =>
    rw [splitOn_slash ha] at h hglobstar
    obtain ⟨hfirst, hrest⟩ := not_or.1 (mt List.mem_cons.2 hglobstar)
    obtain ⟨x, xs, hb⟩ := List.exists_cons_of_ne_nil (List.splitOn_ne_nil '/' b)
    have hnext : ¬ (x = globstar ∧ xs = []) := by
      rintro ⟨rfl, -⟩
      exact hrest (hb ▸ List.mem_cons_self)
    rw [hb, pathPieces, if_neg (Ne.symm hfirst), if_neg hnext, ← hb] at h
    obtain ⟨before, hbefore, h⟩ := ok_of_bind h
    obtain ⟨after, hafter, h⟩ := ok_of_bind h
    cases h
    exact (plain_of_segmentPieces ha hbefore).slash (ih hrest hafter)

theorem Plain.strictly {pattern : List Char} (h : Plain pattern pieces) {ranges : List CharRange}
    (hmem : .oneOf ranges ∈ pieces) {r : CharRange} (hr : r ∈ ranges)
    (hslash : r.contains '/' = true) : r.lo < '/' ∧ '/' < r.hi := by
  obtain ⟨-, hlo, hhi⟩ := h.drawn ranges hmem r hr
  obtain ⟨hle, hge⟩ := of_decide_eq_true hslash
  exact ⟨Char.not_le.1 fun h => hlo (Char.le_antisymm hle h),
    Char.not_le.1 fun h => hhi (Char.le_antisymm h hge)⟩

/-- A glob without marks and braces that matches something compiles to one list of pieces, and
matches what these match. -/
theorem compile_of_match {path pattern : List Char} (hmark : pattern.head? ≠ some '!')
    (hbrace : '{' ∉ pattern) (h : matchPath path pattern = .ok true) :
    ∃ pieces, plainPieces pattern = .ok pieces ∧ compile pattern = .ok (some ⟨[pieces], false⟩) := by
  have hmarks : stripMarks pattern = (false, pattern) := by
    cases pattern with
    | nil => rfl
    | cons c pattern =>
      rw [stripMarks]
      intro rest heq
      cases heq
      exact hmark rfl
  obtain ⟨g, hcompile, h⟩ := ok_of_bind h
  rw [hcompile]
  unfold compile at hcompile
  rw [hmarks] at hcompile
  split at hcompile
  · cases hcompile
    cases h
  · cases hcompile
    cases h
  · rename_i heq
    cases heq
    rw [expandChars_of_not_mem hbrace, List.mapM_cons, List.mapM_nil] at hcompile
    obtain ⟨alternatives, halternatives, hcompile⟩ := ok_of_bind hcompile
    obtain ⟨pieces, hpieces, halternatives⟩ := ok_of_bind halternatives
    cases halternatives
    cases hcompile
    exact ⟨pieces, hpieces, rfl⟩

theorem matchPath_of_compile {path pattern : List Char}
    (h : compile pattern = .ok (some ⟨[pieces], false⟩)) :
    matchPath path pattern = .ok (matchPieces pieces path) := by
  rw [matchPath, h]
  change Except.ok (Compiled.accepts _ _) = Except.ok _
  simp [Compiled.accepts]

/-- A path that matches a glob without marks, braces and `**` has the slashes of the glob, and at most
one more for every class with a range over the slash. The number of slashes is fixed exactly if there
is no such class; one has a range between two characters of the glob with the slash strictly between
them. -/
theorem slashes_of_matched_path {path pattern : List Char} (hmark : pattern.head? ≠ some '!')
    (hbrace : '{' ∉ pattern) (hglobstar : globstar ∉ segments pattern)
    (hmatch : matchPath path pattern = .ok true) :
    ∃ pieces, plainPieces pattern = .ok pieces ∧
      (pattern.count '/' ≤ path.count '/' ∧
        path.count '/' ≤ pattern.count '/' + pieces.countP Piece.crosses) ∧
      ((∀ path', matchPath path' pattern = .ok true → path'.count '/' = pattern.count '/') ↔
        ∀ piece ∈ pieces, piece.crosses = false) ∧
      ∀ ranges, .oneOf ranges ∈ pieces → ∀ r ∈ ranges, r.contains '/' = true →
        (r.lo < '/' ∧ '/' < r.hi) ∧ r.lo ∈ pattern ∧ r.hi ∈ pattern := by
  obtain ⟨pieces, hpieces, hcompile⟩ := compile_of_match hmark hbrace hmatch
  have hplain := plain_of_plainPieces hglobstar hpieces
  have hmatches (path' : List Char) :
      matchPath path' pattern = .ok true ↔ matchPieces pieces path' = true := by
    rw [matchPath_of_compile hcompile, Except.ok.injEq]
  have hbounds {path' : List Char} (h : matchPath path' pattern = .ok true) :=
    slashes_of_matchPieces hplain.confined ((hmatches path').1 h)
  rw [hplain.count_slash] at hbounds
  refine ⟨pieces, hpieces, hbounds hmatch, ⟨?_, ?_⟩, ?_⟩
  · intro hfixed
    by_contra hcross
    push Not at hcross
    simp only [ne_eq, Bool.not_eq_false] at hcross
    obtain ⟨path', hpath', hlt⟩ :=
      exists_more_slashes hplain.confined hcross ((hmatches path).1 hmatch)
    rw [hplain.count_slash, hfixed path' ((hmatches path').2 hpath')] at hlt
    exact Nat.lt_irrefl _ hlt
  · intro hcross path' hpath'
    have hzero : pieces.countP Piece.crosses = 0 := by simpa [List.countP_eq_zero] using hcross
    have hpath' := hbounds hpath'
    omega
  · intro ranges hmem r hr hslash
    exact ⟨hplain.strictly hmem hr hslash, (hplain.drawn ranges hmem r hr).1⟩

/-- A glob with a wildcard, a negated class and a class over the slash, against a path with as many
slashes. -/
theorem slashes_of_matched_path_of_classes :
    let path := "src/a1.ts".toList
    let pattern := "src/[!b][+-9].*".toList
    (pattern.head? ≠ some '!' ∧ '{' ∉ pattern ∧ globstar ∉ segments pattern ∧
        matchPath path pattern = .ok true) ∧
      ∃ pieces, plainPieces pattern = .ok pieces ∧
        (pattern.count '/' ≤ path.count '/' ∧
          path.count '/' ≤ pattern.count '/' + pieces.countP Piece.crosses) ∧
        ((∀ path', matchPath path' pattern = .ok true → path'.count '/' = pattern.count '/') ↔
          ∀ piece ∈ pieces, piece.crosses = false) ∧
        ∀ ranges, .oneOf ranges ∈ pieces → ∀ r ∈ ranges, r.contains '/' = true →
          (r.lo < '/' ∧ '/' < r.hi) ∧ r.lo ∈ pattern ∧ r.hi ∈ pattern := by
  intro path pattern
  have hmark : pattern.head? ≠ some '!' := by decide
  have hbrace : '{' ∉ pattern := by decide
  have hglobstar : globstar ∉ segments pattern := by decide
  have hmatch : matchPath path pattern = .ok true := by decide +kernel
  exact ⟨⟨hmark, hbrace, hglobstar, hmatch⟩, slashes_of_matched_path hmark hbrace hglobstar hmatch⟩

/-- A class from the plus sign to nine matches the slash, so a glob of one segment matches a path of
two. -/
theorem class_range_takes_slash :
    let path := "x/y".toList
    let pattern := "x[+-9]y".toList
    pattern.head? ≠ some '!' ∧ '{' ∉ pattern ∧ '}' ∉ pattern ∧ globstar ∉ segments pattern ∧
      matchPath path pattern = .ok true ∧ path.count '/' ≠ pattern.count '/' := by
  decide +kernel

end ComplexityHints.Glob
