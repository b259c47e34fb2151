import ComplexityHints.Proofs.Host.Layout

namespace ComplexityHints.Host

/-- Where a comment scanner is: in code, in a line comment, or in the block comment that opened at
an offset. -/
inductive Mode where
  | code
  | line
  | block (opened : Nat)
deriving DecidableEq, Repr

/-- What a scan finds: the block comments that close in the text, and the mode at its end. -/
structure Scan where
  comments : List Span
  mode : Mode
deriving DecidableEq, Repr

def Scan.cons (comment : Span) (s : Scan) : Scan := { s with comments := comment :: s.comments }

/-- Scans a text that starts at offset `from_`. The marks of comments are taken two code points at a
time, so the slash of a closing mark opens nothing. -/
def scan (from_ : Nat) : Mode → Text → Scan
  | .code, .scalar '/' :: .scalar '/' :: rest => scan (from_ + 2) .line rest
  | .code, .scalar '/' :: .scalar '*' :: rest => scan (from_ + 2) (.block from_) rest
  | .block opened, .scalar '*' :: .scalar '/' :: rest =>
    (scan (from_ + 2) .code rest).cons ⟨opened, from_ + 2⟩
  | .line, c :: rest => scan (from_ + 1) (if c.isTerminator then .code else .line) rest
  | mode, _ :: rest => scan (from_ + 1) mode rest
  | mode, [] => ⟨[], mode⟩

def isBlank (c : CodePoint) : Bool := c = .scalar ' ' || c.isTerminator

theorem isBlank_of_mem_blank {c : CodePoint} {t : Text} (h : c ∈ blank t) : isBlank c = true := by
  obtain ⟨d, -, rfl⟩ := List.mem_map.1 h
  by_cases hd : d.isTerminator <;> simp [isBlank, hd]

theorem scan_cons_of_isBlank {c : CodePoint} (hc : isBlank c = true) {m : Mode}
    (hm : ∀ opened, m ≠ .block opened) (from_ : Nat) (rest : Text) :
    scan from_ m (c :: rest) = scan (from_ + 1) (if c.isTerminator then .code else m) rest := by
  have hslash : c ≠ .scalar '/' := by
    intro heq
    subst heq
    exact absurd hc (by decide)
  cases m with
  | code => rw [ite_self, scan] <;> simp [hslash]
  | line => rw [scan]
  | block opened => exact absurd rfl (hm opened)

theorem scan_blank_append (t rest : Text) {m : Mode} (hm : ∀ opened, m ≠ .block opened)
    (from_ : Nat) :
    scan from_ m (blank t ++ rest) =
      scan (from_ + t.length) (if t.any (·.isTerminator) then .code else m) rest := by
  induction t generalizing from_ m with
  | nil => rfl
  | cons c t ih =>
    have hblank : isBlank (if c.isTerminator then c else .scalar ' ') = true :=
      isBlank_of_mem_blank (t := c :: t) List.mem_cons_self
    change scan from_ m (_ :: (blank t ++ rest)) = _
    rw [scan_cons_of_isBlank hblank hm]
    by_cases hc : c.isTerminator = true
    · rw [if_pos hc, if_pos hc, ih (by simp), List.length_cons, List.any_cons, hc]
      simp [Nat.add_assoc, Nat.add_comm 1]
    · rw [if_neg hc, if_neg (by decide), ih hm, List.length_cons, List.any_cons]
      simp [hc, Nat.add_assoc, Nat.add_comm 1]

theorem scan_opener_append (from_ : Nat) (rest : Text) :
    scan from_ .code (opener ++ rest) = scan (from_ + 2) (.block from_) rest := rfl

theorem scan_block_cons {c : CodePoint} {rest : Text} (h : ¬ closer <+: c :: rest)
    (from_ opened : Nat) :
    scan from_ (.block opened) (c :: rest) = scan (from_ + 1) (.block opened) rest := by
  rw [scan] <;> try simp
  -- the equation for a closing mark, which does not stand here
  intro _ rest' _ hstar hslash
  subst hstar hslash
  exact h (List.prefix_append closer rest')

/-- A block comment goes on over everything that holds no closing mark. -/
theorem scan_covered_append {covered : Text} (h : ¬ closer <:+: covered) (from_ opened : Nat)
    (rest : Text) :
    scan from_ (.block opened) (covered ++ (closer ++ rest)) =
      (scan (from_ + covered.length + 2) .code rest).cons
        ⟨opened, from_ + covered.length + 2⟩ := by
  induction covered generalizing from_ with
  | nil => rfl
  | cons c covered ih =>
    rw [List.infix_cons_iff, not_or] at h
    -- the closing mark starts with no slash, so the last code point covered does not complete one
    have hc : ¬ closer <+: c :: (covered ++ (closer ++ rest)) := by
      intro hp
      cases covered with
      | nil => simp [closer] at hp
      | cons d covered => exact h.1 (by simpa [closer] using hp)
    rw [List.cons_append, scan_block_cons hc, ih h.2, List.length_cons]
    simp only [Nat.add_assoc, Nat.add_comm 1]

theorem scan_blank (t : Text) {m : Mode} (hm : ∀ opened, m ≠ .block opened) (from_ : Nat) :
    scan from_ m (blank t) = ⟨[], if t.any (·.isTerminator) then .code else m⟩ := by
  have h := scan_blank_append t [] hm from_
  rw [List.append_nil] at h
  rw [h]
  cases hmode : (if t.any (·.isTerminator) then Mode.code else m) <;> rfl

theorem scan_comment {before covered : Text} (hcovered : ¬ closer <:+: covered) {m : Mode}
    (hm : m = .code ∨ m = .line ∧ ∃ c ∈ before, c.isTerminator = true) (from_ : Nat)
    (after : Text) :
    scan from_ m (blank before ++ (opener ++ (covered ++ (closer ++ blank after)))) =
      ⟨[⟨from_ + before.length, from_ + before.length + 2 + covered.length + 2⟩], .code⟩ := by
  have hblock : ∀ opened, m ≠ .block opened := by
    intro opened heq
    simp [heq] at hm
  have hcode : (if before.any (·.isTerminator) then Mode.code else m) = .code := by
    rcases hm with rfl | ⟨-, hterm⟩
    · exact ite_self _
    · exact if_pos (List.any_eq_true.2 hterm)
  rw [scan_blank_append _ _ hblock, hcode, scan_opener_append, scan_covered_append hcovered,
    scan_blank after (by simp), ite_self]
  rfl

/-- No markup is live: all that is not blank lies in one block comment that opens and closes in the
text, and the scanner ends in code unless it came in a line comment that nothing ends. -/
structure Dead (from_ : Nat) (m : Mode) (masked : Text) : Prop where
  one_comment : (scan from_ m masked).comments.length ≤ 1
  covered : ∀ (i : Nat) (c : CodePoint), masked[i]? = some c → isBlank c = false →
    ∃ comment ∈ (scan from_ m masked).comments, from_ ≤ comment.start ∧
      comment.start ≤ from_ + i ∧ from_ + i < comment.stop ∧
      comment.stop ≤ from_ + masked.length
  mode : (scan from_ m masked).mode = .code ∨
    (scan from_ m masked).mode = .line ∧ m = .line ∧ ∀ c ∈ masked, c.isTerminator = false

theorem dead_blank (t : Text) {m : Mode} (hm : m = .code ∨ m = .line) (from_ : Nat) :
    Dead from_ m (blank t) := by
  have hblock : ∀ opened, m ≠ .block opened := by
    intro opened heq
    simp [heq] at hm
  have hscan := scan_blank t hblock from_
  refine ⟨by simp [hscan], ?_, ?_⟩
  · intro i c hi hc
    simp [isBlank_of_mem_blank (List.mem_of_getElem? hi)] at hc
  · rw [hscan]
    rcases hm with rfl | rfl
    · exact .inl (ite_self _)
    · by_cases hterm : t.any (·.isTerminator) = true
      · exact .inl (if_pos hterm)
      · refine .inr ⟨if_neg hterm, rfl, ?_⟩
        intro c hc
        obtain ⟨d, hd, rfl⟩ := List.mem_map.1 hc
        have hnot : ¬ d.isTerminator = true := by
          intro h
          exact hterm (List.any_eq_true.2 ⟨d, hd, h⟩)
        rw [if_neg hnot]
        decide

theorem between_of_not_isBlank {before inside after : Text} {i : Nat} {c : CodePoint}
    (hi : (blank before ++ (inside ++ blank after))[i]? = some c) (hc : isBlank c = false) :
    before.length ≤ i ∧ i < before.length + inside.length := by
  constructor
  · by_contra hlt
    rw [List.getElem?_append_left (by simpa using hlt)] at hi
    simp [isBlank_of_mem_blank (List.mem_of_getElem? hi)] at hc
  · by_contra hle
    rw [← List.append_assoc, List.getElem?_append_right (by simpa using hle)] at hi
    simp [isBlank_of_mem_blank (List.mem_of_getElem? hi)] at hc

theorem dead_of_isComment {afterScript : Bool} {region masked : Text}
    (h : IsComment afterScript region masked) {m : Mode}
    (hm : m = .code ∨ m = .line ∧ afterScript = true) (from_ : Nat) : Dead from_ m masked := by
  obtain ⟨before, x, inside, y, after, covered, -, rfl, -, -, -, hcovered, hbefore⟩ := h
  have hscan := scan_comment hcovered (hm.imp_right fun h => ⟨h.1, hbefore h.2⟩) from_ after
  refine ⟨by simp [hscan], ?_, by simp [hscan]⟩
  intro i c hi hc
  refine ⟨_, by rw [hscan]; exact List.mem_singleton_self _, ?_⟩
  have hparts : opener ++ (covered ++ (closer ++ blank after)) =
      (opener ++ (covered ++ closer)) ++ blank after := by simp
  rw [hparts] at hi
  have hin := between_of_not_isBlank hi hc
  simp only [List.length_append, length_blank, length_opener, length_closer] at hin ⊢
  omega

theorem dead_maskMarkup (afterScript : Bool) (t : Text) {m : Mode}
    (hm : m = .code ∨ m = .line ∧ afterScript = true) (from_ : Nat) :
    Dead from_ m (maskMarkup afterScript t) := by
  rcases maskMarkup_cases afterScript t with h | h
  · rw [h]
    apply dead_blank
    exact hm.imp_right And.left
  · exact dead_of_isComment h hm from_

/-- The markup between two neighbouring lists of bodies: what stands in front of the first body,
between two bodies, or behind the last. -/
def markupBetween (length : Nat) (before after : List Span) : Span :=
  ⟨lastStop 0 before, (after.head?.map Span.start).getD length⟩

theorem cut_append_append (front middle rest : Text) :
    cut (front ++ (middle ++ rest)) ⟨front.length, front.length + middle.length⟩ = middle := by
  rw [cut, ← List.append_assoc, List.take_left' (by simp), List.drop_left]

/-- Every region of markup is masked on its own. -/
theorem cut_mask_markupBetween {t : Text} {before after : List Span}
    (h : bodies t = before ++ after) :
    cut (mask t) (markupBetween t.length before after) =
      maskMarkup (!before.isEmpty) (cut t (markupBetween t.length before after)) := by
  obtain ⟨front, hfront, hlen⟩ := mask_append h
  have htotal := (aligned_mask t).length_eq
  cases after with
  | nil =>
    have hregion : cut t ⟨lastStop 0 before, t.length⟩ = t.drop (lastStop 0 before) := by
      rw [cut, List.take_length]
    have hcut := cut_append_append front (maskMarkup (!before.isEmpty)
      (cut t ⟨lastStop 0 before, t.length⟩)) []
    rw [hregion, List.append_nil] at hcut
    rw [hfront, maskFrom, List.length_append] at htotal
    rw [markupBetween, List.head?_nil, Option.map_none, Option.getD_none, hfront, maskFrom,
      hregion]
    rwa [htotal, hlen] at hcut
  | cons b bs =>
    obtain ⟨hstart, hb, hstop, -⟩ := (h ▸ spansInOrder_bodies t).of_append
    have hcut := cut_append_append front (maskMarkup (!before.isEmpty)
      (cut t ⟨lastStop 0 before, b.start⟩)) (cut t b ++ maskFrom t b.stop true bs)
    have hend : front.length + (maskMarkup (!before.isEmpty)
        (cut t ⟨lastStop 0 before, b.start⟩)).length = b.start := by
      simp only [length_maskMarkup, length_cut]
      omega
    rw [hend, hlen] at hcut
    rw [markupBetween, List.head?_cons, Option.map_some, Option.getD_some, hfront, maskFrom_cons]
    exact hcut

/-- No markup survives masking as live code, in no region of any text, whether the scanner enters
the region in code or in a line comment of the script before it. -/
theorem masked_markup_dead {t : Text} {before after : List Span} (h : bodies t = before ++ after)
    {m : Mode} (hm : m = .code ∨ m = .line ∧ before ≠ []) :
    Dead (markupBetween t.length before after).start m
      (cut (mask t) (markupBetween t.length before after)) := by
  rw [cut_mask_markupBetween h]
  apply dead_maskMarkup
  rcases hm with hcode | ⟨hline, hbefore⟩
  · exact .inl hcode
  · exact .inr ⟨hline, by simpa using hbefore⟩

/-- The last line of a script leaves a line comment open, the closing tag stands on that line, and
the markup behind it tries to close the comment around it. -/
theorem masked_markup_dead_behind_line_comment :
    let t := Text.ofString "<script>a //</script>\n<b>*/</b>"
    bodies t = [⟨8, 12⟩] ++ [] ∧ Dead 12 .line (cut (mask t) ⟨12, t.length⟩) :=
  have h : bodies (Text.ofString "<script>a //</script>\n<b>*/</b>") = [⟨8, 12⟩] ++ [] := by
    decide +kernel
  ⟨h, masked_markup_dead h (.inr ⟨rfl, List.cons_ne_nil _ _⟩)⟩

end ComplexityHints.Host
