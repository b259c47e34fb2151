import ComplexityHints.Document
import ComplexityHints.Proofs.Host.Bodies
import ComplexityHints.Proofs.Host.Region

namespace ComplexityHints.Host

def cut (t : Text) (s : Span) : Text := (t.take s.stop).drop s.start

@[simp] theorem length_cut (t : Text) (s : Span) :
    (cut t s).length = min s.stop t.length - s.start := by
  simp [cut]

theorem cut_append_drop (t : Text) {lo hi : Nat} (h : lo ≤ hi) :
    cut t ⟨lo, hi⟩ ++ t.drop hi = t.drop lo := by
  rw [cut, List.drop_take]
  conv_rhs => rw [← List.take_append_drop (hi - lo) (t.drop lo)]
  rw [List.drop_drop, Nat.add_sub_of_le h]

theorem getElem?_cut {t : Text} {s : Span} {i : Nat} (hlo : s.start ≤ i) (hhi : i < s.stop) :
    (cut t s)[i - s.start]? = t[i]? := by
  rw [cut, List.getElem?_drop, Nat.add_sub_of_le hlo, List.getElem?_take_of_lt hhi]

theorem maskFrom_cons (t : Text) (from_ : Nat) (afterScript : Bool) (b : Span) (bs : List Span) :
    maskFrom t from_ afterScript (b :: bs) =
      maskMarkup afterScript (cut t ⟨from_, b.start⟩) ++
        (cut t b ++ maskFrom t b.stop true bs) := by
  rw [maskFrom, List.append_assoc]
  rfl

def lastStop (from_ : Nat) (bodies : List Span) : Nat := (bodies.getLast?.map Span.stop).getD from_

@[simp] theorem lastStop_nil (from_ : Nat) : lastStop from_ [] = from_ := rfl

@[simp] theorem lastStop_cons (from_ : Nat) (b : Span) (bs : List Span) :
    lastStop from_ (b :: bs) = lastStop b.stop bs := by
  cases bs <;> simp [lastStop, List.getLast?_cons]

theorem SpansInOrder.of_append {lo hi : Nat} {before after : List Span}
    (h : SpansInOrder lo hi (before ++ after)) : SpansInOrder (lastStop lo before) hi after := by
  induction before generalizing lo with
  | nil => exact h
  | cons b bs ih =>
    rw [lastStop_cons]
    exact ih (h.2.2.2.mono (Nat.le_succ _))

theorem aligned_maskFrom {t : Text} {from_ hi : Nat} {bs : List Span}
    (h : SpansInOrder from_ hi bs) (afterScript : Bool) :
    Aligned (maskFrom t from_ afterScript bs) (t.drop from_) := by
  induction bs generalizing from_ afterScript with
  | nil => exact aligned_maskMarkup afterScript _
  | cons b bs ih =>
    obtain ⟨hlo, hb, -, hbs⟩ := h
    have hrest := ih (hbs.mono (Nat.le_succ _)) true
    rw [← cut_append_drop t hlo, ← cut_append_drop t hb, maskFrom_cons]
    exact List.rel_append (aligned_maskMarkup afterScript _)
      (List.rel_append (aligned_refl _) hrest)

theorem aligned_mask (t : Text) : Aligned (mask t) t :=
  aligned_maskFrom (spansInOrder_bodies t) false

/-- Masking has passed the bodies `before` when it comes to the markup behind them. -/
theorem maskFrom_append {t : Text} {from_ : Nat} {before after : List Span}
    (h : SpansInOrder from_ t.length (before ++ after)) (afterScript : Bool) :
    ∃ front, maskFrom t from_ afterScript (before ++ after) =
        front ++ maskFrom t (lastStop from_ before) (afterScript || !before.isEmpty) after ∧
      from_ + front.length = lastStop from_ before := by
  induction before generalizing from_ afterScript with
  | nil => exact ⟨[], by simp⟩
  | cons b bs ih =>
    obtain ⟨hlo, hb, hhi, hbs⟩ := h
    obtain ⟨front, hfront, hlen⟩ := ih (hbs.mono (Nat.le_succ _)) true
    refine ⟨maskMarkup afterScript (cut t ⟨from_, b.start⟩) ++ cut t b ++ front, ?_, ?_⟩
    · rw [List.cons_append, maskFrom_cons, hfront, lastStop_cons]
      simp
    · simp only [List.length_append, length_maskMarkup, length_cut, lastStop_cons]
      omega

theorem mask_append {t : Text} {before after : List Span} (h : bodies t = before ++ after) :
    ∃ front, mask t = front ++ maskFrom t (lastStop 0 before) (!before.isEmpty) after ∧
      front.length = lastStop 0 before := by
  obtain ⟨front, hfront, hlen⟩ := maskFrom_append (h ▸ spansInOrder_bodies t) false
  exact ⟨front, by simpa [mask, h] using hfront, by simpa using hlen⟩

theorem getElem?_mask_of_mem_bodies {t : Text} {b : Span} (h : b ∈ bodies t) {i : Nat}
    (hlo : b.start ≤ i) (hhi : i < b.stop) : (mask t)[i]? = t[i]? := by
  obtain ⟨before, after, hsplit⟩ := List.append_of_mem h
  obtain ⟨front, hfront, hlen⟩ := mask_append hsplit
  obtain ⟨hstart, hb, hstop, -⟩ := (hsplit ▸ spansInOrder_bodies t).of_append
  have hfront' : (front ++ maskMarkup (!before.isEmpty)
      (cut t ⟨lastStop 0 before, b.start⟩)).length = b.start := by
    simp only [List.length_append, length_maskMarkup, length_cut]
    omega
  have hin : i - b.start < (cut t b).length := by
    rw [length_cut]
    omega
  rw [hfront, maskFrom_cons, ← List.append_assoc, List.getElem?_append_right (hfront'.trans_le hlo),
    hfront', List.getElem?_append_left hin, getElem?_cut hlo hhi]

theorem SameBreak.isTerminator_eq {c d : CodePoint} (h : SameBreak c d) :
    c.isTerminator = d.isTerminator := by
  rcases h with rfl | ⟨hc, hd⟩
  · rfl
  · rw [hc, hd]

theorem SameBreak.eq_of_isTerminator {c d : CodePoint} (h : SameBreak c d)
    (hc : c.isTerminator = true) : c = d := by
  rcases h with rfl | ⟨hc', -⟩
  · rfl
  · simp [hc'] at hc

theorem getElem?_eq_some_iff_of_aligned {s t : Text} (h : Aligned s t) {c : CodePoint}
    (hc : c.isTerminator = true) (i : Nat) : s[i]? = some c ↔ t[i]? = some c := by
  induction h generalizing i with
  | nil => simp
  | cons hcd _ ih =>
    cases i with
    | succ i => exact ih i
    | zero =>
      simp only [List.getElem?_cons_zero, Option.some.injEq]
      constructor
      · intro h
        subst h
        exact (hcd.eq_of_isTerminator hc).symm
      · intro h
        subst h
        exact hcd.eq_of_isTerminator (hcd.isTerminator_eq.trans hc)

theorem breakEnds_eq_of_aligned {s t : Text} (h : Aligned s t) (from_ : Nat) :
    s.breakEnds from_ = t.breakEnds from_ := by
  fun_induction Text.breakEnds from_ s generalizing t with
  | case1 =>
    cases h
    rfl
  | case2 from_ rest ih =>
    obtain ⟨d, _, hd, htail, rfl⟩ := List.forall₂_cons_left_iff.1 h
    obtain ⟨e, t, he, ht, rfl⟩ := List.forall₂_cons_left_iff.1 htail
    obtain rfl := hd.eq_of_isTerminator (by decide)
    obtain rfl := he.eq_of_isTerminator (by decide)
    rw [Text.breakEnds, ih ht]
  | case3 from_ c rest hcrlf hterm ih =>
    obtain ⟨d, t, hd, ht, rfl⟩ := List.forall₂_cons_left_iff.1 h
    obtain rfl := hd.eq_of_isTerminator hterm
    rw [Text.breakEnds, if_pos hterm, ih ht]
    -- a line feed behind the other text's terminator stands behind this one too
    intro t' hcr hlf
    subst hcr hlf
    obtain ⟨e, rest', he, -, rfl⟩ := List.forall₂_cons_right_iff.1 ht
    obtain rfl := he.eq_of_isTerminator (he.isTerminator_eq.trans (by decide))
    exact hcrlf rest' rfl rfl
  | case4 from_ c rest hcrlf hterm ih =>
    obtain ⟨d, t, hd, ht, rfl⟩ := List.forall₂_cons_left_iff.1 h
    rw [hd.isTerminator_eq] at hterm
    rw [Text.breakEnds, if_neg hterm, ih ht]
    intro t' hcr _
    subst hcr
    exact hterm (by decide)

theorem positionAt_eq_of_aligned {s t : Text} (h : Aligned s t) (offset : Int) :
    s.positionAt offset = t.positionAt offset := by
  unfold Text.positionAt Text.clamp
  rw [h.length_eq, breakEnds_eq_of_aligned h]

/-- Script bodies are in order, never touch and lie inside the text. The masked text has the length
of the text, is the text itself inside every body, and has the same line terminators at the same
offsets, so a document has the same positions with either. -/
theorem mask_keeps_layout (t : Text) :
    (∀ b ∈ bodies t, b.start ≤ b.stop ∧ b.stop ≤ t.length) ∧
    (bodies t).Pairwise (fun a b => a.stop < b.start) ∧
    (mask t).length = t.length ∧
    (∀ b ∈ bodies t, ∀ i : Nat, b.start ≤ i → i < b.stop → (mask t)[i]? = t[i]?) ∧
    (∀ (i : Nat) (c : CodePoint), c.isTerminator = true → ((mask t)[i]? = some c ↔ t[i]? = some c)) ∧
    ∀ (uri languageId : String) (version offset : Int),
      Document.positionAt ⟨uri, languageId, mask t, version⟩ offset =
        Document.positionAt ⟨uri, languageId, t, version⟩ offset := by
  have horder := spansInOrder_bodies t
  have haligned := aligned_mask t
  refine ⟨fun b hb => (horder.bounds b hb).2, horder.pairwise, haligned.length_eq, ?_, ?_, ?_⟩
  · intro b hb i hlo hhi
    exact getElem?_mask_of_mem_bodies hb hlo hhi
  · intro i c hc
    exact getElem?_eq_some_iff_of_aligned haligned hc i
  · intro uri languageId version offset
    exact positionAt_eq_of_aligned haligned offset

end ComplexityHints.Host
