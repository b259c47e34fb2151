import ComplexityHints.Proofs.Host.Tags

namespace ComplexityHints.Host

theorem size_of_tagAt? {t : Text} {tag : Tag} {size : Nat} (h : tagAt? t = some (tag, size)) :
    0 < size ∧ size ≤ t.length := by
  obtain ⟨u, rest, rfl, rfl, htag⟩ := isTag_of_tagAt? h
  obtain ⟨v, rfl, -⟩ := htag.bracket
  simp only [List.length_append, List.length_singleton]
  omega

def TagsInOrder (lo hi : Nat) : List PlacedTag → Prop
  | [] => lo ≤ hi
  | t :: ts => lo ≤ t.start ∧ t.start < t.stop ∧ TagsInOrder t.stop hi ts

theorem TagsInOrder.le {lo hi : Nat} {ts : List PlacedTag} (h : TagsInOrder lo hi ts) :
    lo ≤ hi := by
  induction ts generalizing lo with
  | nil => exact h
  | cons t ts ih =>
    obtain ⟨hlo, hpos, hts⟩ := h
    have hle : t.stop ≤ hi := ih hts
    omega

theorem TagsInOrder.mono {lo lo' hi : Nat} {ts : List PlacedTag} (hlo : lo' ≤ lo)
    (h : TagsInOrder lo hi ts) : TagsInOrder lo' hi ts := by
  cases ts with
  | nil => exact hlo.trans h
  | cons t ts => exact ⟨hlo.trans h.1, h.2⟩

theorem tagsInOrder_tags (from_ skip : Nat) (t : Text) (hs : skip ≤ t.length) :
    TagsInOrder (from_ + skip) (from_ + t.length) (tags from_ skip t) := by
  fun_induction tags from_ skip t with
  | case1 from_ skip =>
    have h0 : skip = 0 := by simpa using hs
    simp [TagsInOrder, h0]
  | case2 from_ c rest skip ih =>
    have h := ih (by simpa using hs)
    have hlo : from_ + 1 + skip = from_ + (skip + 1) := by omega
    have hhi : from_ + 1 + rest.length = from_ + (rest.length + 1) := by omega
    rwa [hlo, hhi] at h
  | case3 from_ c rest tag size htag ih =>
    -- the rest of the tag is skipped, so the next one starts behind it
    obtain ⟨hpos, hsize⟩ := size_of_tagAt? htag
    rw [List.length_cons] at hsize
    have hskip : size - 1 ≤ rest.length := by omega
    have h := ih hskip
    have hlo : from_ + 1 + (size - 1) = from_ + size := by omega
    have hhi : from_ + 1 + rest.length = from_ + (rest.length + 1) := by omega
    rw [hlo, hhi] at h
    exact ⟨le_rfl, Nat.lt_add_of_pos_right hpos, h⟩
  | case4 from_ c rest htag ih =>
    have h := ih (Nat.zero_le _)
    have hhi : from_ + 1 + rest.length = from_ + (rest.length + 1) := by omega
    rw [hhi] at h
    exact h.mono (Nat.le_add_right from_ 1)

/-- Spans from offset `lo` up to `hi`, each with a gap behind the one before it. -/
def SpansInOrder (lo hi : Nat) : List Span → Prop
  | [] => True
  | s :: ss => lo ≤ s.start ∧ s.start ≤ s.stop ∧ s.stop ≤ hi ∧ SpansInOrder (s.stop + 1) hi ss

theorem SpansInOrder.mono {lo lo' hi : Nat} {ss : List Span} (hlo : lo' ≤ lo)
    (h : SpansInOrder lo hi ss) : SpansInOrder lo' hi ss := by
  cases ss with
  | nil => trivial
  | cons s ss => exact ⟨hlo.trans h.1, h.2⟩

theorem SpansInOrder.bounds {lo hi : Nat} {ss : List Span} (h : SpansInOrder lo hi ss) :
    ∀ s ∈ ss, lo ≤ s.start ∧ s.start ≤ s.stop ∧ s.stop ≤ hi := by
  induction ss generalizing lo with
  | nil => simp
  | cons s ss ih =>
    obtain ⟨hlo, hs, hhi, hss⟩ := h
    intro b hb
    rcases List.mem_cons.1 hb with rfl | hb
    · exact ⟨hlo, hs, hhi⟩
    · have hb' := ih hss b hb
      exact ⟨by omega, hb'.2⟩

theorem SpansInOrder.pairwise {lo hi : Nat} {ss : List Span} (h : SpansInOrder lo hi ss) :
    ss.Pairwise fun a b => a.stop < b.start := by
  induction ss generalizing lo with
  | nil => exact .nil
  | cons s ss ih =>
    obtain ⟨_, _, _, hss⟩ := h
    refine List.pairwise_cons.2 ⟨?_, ih hss⟩
    intro b hb
    exact (hss.bounds b hb).1

theorem spansInOrder_bodiesOf {lo length : Nat} {open_ : Option Nat} {ts : List PlacedTag}
    (h : TagsInOrder lo length ts) (ho : ∀ s ∈ open_, s ≤ lo) :
    SpansInOrder (open_.getD (lo + 1)) length (bodiesOf length open_ ts) := by
  fun_induction bodiesOf length open_ ts generalizing lo with
  | case1 s => exact ⟨le_rfl, (ho s rfl).trans h, le_rfl, trivial⟩
  | case2 => trivial
  | case3 t ts _ ih =>
    -- a body opens behind the tag
    obtain ⟨hlo, hpos, hts⟩ := h
    have hopen := ih hts (by simp)
    apply hopen.mono
    simp only [Option.getD_none, Option.getD_some]
    omega
  | case4 t ts s _ ih =>
    -- the open body ends where the closing tag starts
    obtain ⟨hlo, hpos, hts⟩ := h
    have hnone := ih hts (by simp)
    refine ⟨le_rfl, (ho s rfl).trans hlo, hpos.le.trans hts.le, ?_⟩
    apply hnone.mono
    simp only [Option.getD_none]
    omega
  | case5 open_ t ts _ _ ih =>
    obtain ⟨hlo, hpos, hts⟩ := h
    have hle : lo ≤ t.stop := by omega
    have hrest := ih hts fun s hs => (ho s hs).trans hle
    cases open_ with
    | none => exact hrest.mono (by simpa using hle)
    | some s => exact hrest

theorem tagsInOrder_text (t : Text) : TagsInOrder 0 t.length (tags 0 0 t) := by
  have h := tagsInOrder_tags 0 0 t (Nat.zero_le _)
  simpa only [Nat.zero_add] using h

/-- The script bodies of a text are in order, apart from each other and inside the text. -/
theorem spansInOrder_bodies (t : Text) : SpansInOrder 0 t.length (bodies t) :=
  (spansInOrder_bodiesOf (tagsInOrder_text t) (by simp)).mono (Nat.zero_le _)

end ComplexityHints.Host
