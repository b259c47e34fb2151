import ComplexityHints.Proofs.Host.Comments

namespace ComplexityHints.Host

/-- The mode of a comment scanner that has read the first `k` code points of a text. -/
def modeAt (t : Text) (k : Nat) : Mode := (scan 0 .code (t.take k)).mode

theorem cons_of_append_eq_cons {t rest r : Text} {c : CodePoint}
    (hrest : ∀ d ∈ rest.head?, isBlank d = true) (hc : isBlank c = false)
    (h : t ++ rest = c :: r) : ∃ r', t = c :: r' := by
  cases t with
  | nil =>
    have hblank : isBlank c = true := by
      apply hrest
      rw [List.nil_append] at h
      rw [h]
      rfl
    simp [hblank] at hc
  | cons d t =>
    rw [List.cons_append] at h
    exact ⟨t, by rw [(List.cons.inj h).1]⟩

/-- A scan goes on where it stopped: no mark of a comment reaches into text that starts blank. -/
theorem mode_scan_append {rest : Text} (hrest : ∀ c ∈ rest.head?, isBlank c = true) (from_ : Nat)
    (m : Mode) (t : Text) :
    (scan from_ m (t ++ rest)).mode = (scan (from_ + t.length) (scan from_ m t).mode rest).mode := by
  fun_induction scan from_ m t with
  | case1 from_ t ih =>
    rw [List.cons_append, List.cons_append, scan, ih]
    simp only [List.length_cons, Nat.add_assoc, Nat.add_comm 2]
  | case2 from_ t ih =>
    rw [List.cons_append, List.cons_append, scan, ih]
    simp only [List.length_cons, Nat.add_assoc, Nat.add_comm 2]
  | case3 from_ opened t ih =>
    rw [List.cons_append, List.cons_append, scan]
    simp only [Scan.cons, ih, List.length_cons, Nat.add_assoc, Nat.add_comm 2]
  | case4 from_ c t ih =>
    rw [List.cons_append, scan, ih]
    simp only [List.length_cons, Nat.add_assoc, Nat.add_comm 1]
  | case5 from_ m c t hline hblock hclose hmode ih =>
    rw [List.cons_append, scan, ih]
    · simp only [List.length_cons, Nat.add_assoc, Nat.add_comm 1]
    -- a mark that starts here would be complete without the text behind
    · intro r hm hc ht
      obtain ⟨r', rfl⟩ := cons_of_append_eq_cons hrest (by decide) ht
      exact hline r' hm hc rfl
    · intro r hm hc ht
      obtain ⟨r', rfl⟩ := cons_of_append_eq_cons hrest (by decide) ht
      exact hblock r' hm hc rfl
    · intro opened r hm hc ht
      obtain ⟨r', rfl⟩ := cons_of_append_eq_cons hrest (by decide) ht
      exact hclose opened r' hm hc rfl
    · exact hmode
  | case6 => rfl

theorem isBlank_head_maskMarkup (t : Text) :
    ∀ c ∈ (maskMarkup true t).head?, isBlank c = true := by
  intro c hc
  rcases maskMarkup_cases true t with h | ⟨before, _, _, _, _, _, -, hm, -, -, -, -, hbefore⟩
  · rw [h] at hc
    exact isBlank_of_mem_blank (List.mem_of_head? hc)
  · -- the comment opens behind a line terminator, so there is something blank in front of it
    obtain ⟨d, hd, -⟩ := hbefore rfl
    have hne : blank before ≠ [] := by
      simpa [blank] using List.ne_nil_of_mem hd
    rw [hm, List.head?_append_of_ne_nil _ hne] at hc
    exact isBlank_of_mem_blank (List.mem_of_head? hc)

/-- Only a line terminator of the markup ends a line comment that a script leaves open. -/
theorem mode_scan_maskMarkup (t : Text) {m : Mode} (hm : m = .code ∨ m = .line) (from_ : Nat) :
    (scan from_ m (maskMarkup true t)).mode =
      if t.any (·.isTerminator) then .code else m := by
  rcases maskMarkup_cases true t with
    h | ⟨before, x, inside, y, after, covered, ht, hmask, -, -, -, hcovered, hbefore⟩
  · have hblock : ∀ opened, m ≠ .block opened := by
      intro opened heq
      simp [heq] at hm
    rw [h, scan_blank t hblock]
  · obtain ⟨c, hc, hterm⟩ := hbefore rfl
    have hany : t.any (·.isTerminator) = true := by
      refine List.any_eq_true.2 ⟨c, ?_, hterm⟩
      rw [ht]
      exact List.mem_append_left _ hc
    rw [hmask, scan_comment hcovered (hm.imp_right fun hline => ⟨hline, c, hc, hterm⟩), if_pos hany]

theorem take_append_cut (t : Text) {lo hi : Nat} (h : lo ≤ hi) :
    t.take lo ++ cut t ⟨lo, hi⟩ = t.take hi := by
  have htake : (t.take hi).take lo = t.take lo := by
    rw [List.take_take, Nat.min_eq_left h]
  rw [cut, ← htake]
  exact List.take_append_drop lo (t.take hi)

theorem cut_mask_between {t : Text} {before after : List Span} {a b : Span}
    (h : bodies t = before ++ a :: b :: after) :
    a.stop ≤ b.start ∧
      cut (mask t) ⟨a.stop, b.start⟩ = maskMarkup true (cut t ⟨a.stop, b.start⟩) := by
  have hsplit : bodies t = (before ++ [a]) ++ b :: after := by simpa using h
  have hlast : lastStop 0 (before ++ [a]) = a.stop := by simp [lastStop]
  have hnonempty : (before ++ [a]).isEmpty = false := by simp
  have hregion := cut_mask_markupBetween hsplit
  rw [markupBetween, hlast, hnonempty] at hregion
  have horder := (hsplit ▸ spansInOrder_bodies t).of_append
  rw [hlast] at horder
  exact ⟨horder.1, hregion⟩

/-- How the scanner comes to a script from the one before it. -/
theorem modeAt_next_start {t : Text} {before after : List Span} {a b : Span}
    (h : bodies t = before ++ a :: b :: after)
    (hm : modeAt (mask t) a.stop = .code ∨ modeAt (mask t) a.stop = .line) :
    modeAt (mask t) b.start =
      if (cut t ⟨a.stop, b.start⟩).any (·.isTerminator) then .code
      else modeAt (mask t) a.stop := by
  obtain ⟨hle, hregion⟩ := cut_mask_between h
  rw [modeAt, ← take_append_cut (mask t) hle, hregion, mode_scan_append (isBlank_head_maskMarkup _)]
  exact mode_scan_maskMarkup _ hm _

/-- A script behind another one is read as code if the scanner leaves the first script in code, or
in a line comment and the markup between the two has a line terminator, and only then. -/
theorem next_script_live_iff {t : Text} {before after : List Span} {a b : Span}
    (h : bodies t = before ++ a :: b :: after)
    (hm : modeAt (mask t) a.stop = .code ∨ modeAt (mask t) a.stop = .line) :
    modeAt (mask t) b.start = .code ↔
      modeAt (mask t) a.stop = .code ∨ ∃ c ∈ cut t ⟨a.stop, b.start⟩, c.isTerminator = true := by
  rw [modeAt_next_start h hm, ← List.any_eq_true]
  by_cases hterm : (cut t ⟨a.stop, b.start⟩).any (·.isTerminator) = true
  · simp [hterm]
  · simp [hterm]

/-- The line terminator stands inside the second opening tag. -/
theorem next_script_live_iff_of_split_tag :
    let t := Text.ofString "<script>a //</script><script\n>b</script>"
    bodies t = [] ++ ⟨8, 12⟩ :: ⟨30, 31⟩ :: [] ∧ modeAt (mask t) 12 = .line ∧
      modeAt (mask t) 30 = .code :=
  have h : bodies (Text.ofString "<script>a //</script><script\n>b</script>") =
      [] ++ ⟨8, 12⟩ :: ⟨30, 31⟩ :: [] := by decide +kernel
  have hline : modeAt (mask (Text.ofString "<script>a //</script><script\n>b</script>")) 12 =
      .line := by decide +kernel
  ⟨h, hline, (next_script_live_iff h (.inr hline)).2 (.inr ⟨.scalar '\n', by decide +kernel, rfl⟩)⟩

/-- Two scripts on one line: the line comment at the end of the first one takes in the second. -/
theorem line_comment_takes_in_next_script :
    let t := Text.ofString "<script>a //</script><script>b</script>"
    bodies t = [⟨8, 12⟩, ⟨29, 30⟩] ∧ modeAt (mask t) 12 = .line ∧ modeAt (mask t) 29 = .line := by
  decide +kernel

end ComplexityHints.Host
