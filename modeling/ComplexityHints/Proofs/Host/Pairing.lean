import ComplexityHints.Proofs.Host.Layout

namespace ComplexityHints.Host

theorem tagAt?_of_mem_tags {from_ skip : Nat} {t : Text} {p : PlacedTag}
    (h : p ∈ tags from_ skip t) :
    ∃ k n, p.start = from_ + k ∧ p.stop = from_ + k + n ∧ tagAt? (t.drop k) = some (p.tag, n) := by
  fun_induction tags from_ skip t with
  | case1 => simp at h
  | case2 from_ c rest skip ih =>
    obtain ⟨k, n, hstart, hstop, htag⟩ := ih h
    exact ⟨k + 1, n, by omega, by omega, htag⟩
  | case3 from_ c rest tag size htag ih =>
    rcases List.mem_cons.1 h with rfl | h
    · exact ⟨0, size, rfl, rfl, htag⟩
    · obtain ⟨k, n, hstart, hstop, htag⟩ := ih h
      exact ⟨k + 1, n, by omega, by omega, htag⟩
  | case4 from_ c rest _ ih =>
    obtain ⟨k, n, hstart, hstop, htag⟩ := ih h
    exact ⟨k + 1, n, by omega, by omega, htag⟩

/-- A tag is missed only if it starts inside a tag that was found before it. -/
theorem mem_tags_or_covered {from_ skip k n : Nat} {t : Text} {tag : Tag}
    (h : tagAt? (t.drop k) = some (tag, n)) (hk : skip ≤ k) :
    ⟨tag, from_ + k, from_ + k + n⟩ ∈ tags from_ skip t ∨
      ∃ p ∈ tags from_ skip t, p.start < from_ + k ∧ from_ + k < p.stop := by
  fun_induction tags from_ skip t generalizing k with
  | case1 => simp [tagAt?] at h
  | case2 from_ c rest skip ih =>
    cases k with
    | zero => simp at hk
    | succ k =>
      have hshift : from_ + 1 + k = from_ + (k + 1) := by omega
      have hrest := ih (k := k) h (Nat.le_of_succ_le_succ hk)
      rwa [hshift] at hrest
  | case3 from_ c rest tag' size htag ih =>
    cases k with
    | zero =>
      rw [List.drop_zero, htag] at h
      cases h
      exact .inl List.mem_cons_self
    | succ k =>
      have hshift : from_ + 1 + k = from_ + (k + 1) := by omega
      by_cases hsize : size - 1 ≤ k
      · have hrest := ih (k := k) h hsize
        rw [hshift] at hrest
        refine hrest.imp (List.mem_cons_of_mem _) ?_
        rintro ⟨p, hp, hcover⟩
        exact ⟨p, List.mem_cons_of_mem _ hp, hcover⟩
      · -- the offset is one of those that the tag skips
        refine .inr ⟨_, List.mem_cons_self, ?_, ?_⟩
        · dsimp only
          omega
        · dsimp only
          omega
  | case4 from_ c rest htag ih =>
    cases k with
    | zero => simp [htag] at h
    | succ k =>
      have hshift : from_ + 1 + k = from_ + (k + 1) := by omega
      have hrest := ih (k := k) h (Nat.zero_le k)
      rwa [hshift] at hrest

theorem TagsInOrder.bounds {lo hi : Nat} {ts : List PlacedTag} (h : TagsInOrder lo hi ts) :
    ∀ p ∈ ts, lo ≤ p.start ∧ p.start < p.stop := by
  induction ts generalizing lo with
  | nil => simp
  | cons t ts ih =>
    obtain ⟨hlo, hpos, hts⟩ := h
    intro p hp
    rcases List.mem_cons.1 hp with rfl | hp
    · exact ⟨hlo, hpos⟩
    · obtain ⟨hle, hlt⟩ := ih hts p hp
      exact ⟨by omega, hlt⟩

theorem TagsInOrder.apart {lo hi : Nat} {ts : List PlacedTag} (h : TagsInOrder lo hi ts)
    {a b : PlacedTag} (ha : a ∈ ts) (hb : b ∈ ts) :
    a = b ∨ a.stop ≤ b.start ∨ b.stop ≤ a.start := by
  induction ts generalizing lo with
  | nil => simp at ha
  | cons t ts ih =>
    obtain ⟨-, -, hts⟩ := h
    rcases List.mem_cons.1 ha with hat | hat <;> rcases List.mem_cons.1 hb with hbt | hbt
    · exact .inl (hat.trans hbt.symm)
    · exact .inr (.inl (hat ▸ (hts.bounds b hbt).1))
    · exact .inr (.inr (hbt ▸ (hts.bounds a hat).1))
    · exact ih hts hat hbt

theorem opened_of_mem_bodiesOf {length : Nat} {open_ : Option Nat} {ts : List PlacedTag} {b : Span}
    (h : b ∈ bodiesOf length open_ ts) :
    open_ = some b.start ∨ ∃ p, ⟨.opening false, p, b.start⟩ ∈ ts := by
  fun_induction bodiesOf length open_ ts with
  | case1 s =>
    obtain rfl := List.mem_singleton.1 h
    exact .inl rfl
  | case2 => simp at h
  | case3 t ts htag ih =>
    right
    rcases ih h with hopen | ⟨p, hp⟩
    · -- the body that is open behind this tag was opened by it
      obtain ⟨tag, start, stop⟩ := t
      cases hopen
      cases htag
      exact ⟨start, List.mem_cons_self⟩
    · exact ⟨p, List.mem_cons_of_mem _ hp⟩
  | case4 t ts s _ ih =>
    rcases List.mem_cons.1 h with rfl | h
    · exact .inl rfl
    · obtain ⟨p, hp⟩ := (ih h).resolve_left (by simp)
      exact .inr ⟨p, List.mem_cons_of_mem _ hp⟩
  | case5 open_ t ts _ _ ih =>
    refine (ih h).imp_right ?_
    rintro ⟨p, hp⟩
    exact ⟨p, List.mem_cons_of_mem _ hp⟩

theorem closed_of_mem_bodiesOf {length : Nat} {open_ : Option Nat} {ts : List PlacedTag} {b : Span}
    (h : b ∈ bodiesOf length open_ ts) :
    b.stop = length ∨ ∃ q, ⟨.closing, b.stop, q⟩ ∈ ts := by
  have hcons {t : PlacedTag} {ts : List PlacedTag}
      (h : b.stop = length ∨ ∃ q, ⟨.closing, b.stop, q⟩ ∈ ts) :
      b.stop = length ∨ ∃ q, ⟨.closing, b.stop, q⟩ ∈ t :: ts := by
    refine h.imp_right ?_
    rintro ⟨q, hq⟩
    exact ⟨q, List.mem_cons_of_mem _ hq⟩
  fun_induction bodiesOf length open_ ts with
  | case1 s =>
    obtain rfl := List.mem_singleton.1 h
    exact .inl rfl
  | case2 => simp at h
  | case3 t ts _ ih => exact hcons (ih h)
  | case4 t ts s htag ih =>
    rcases List.mem_cons.1 h with rfl | h
    · obtain ⟨tag, start, stop⟩ := t
      cases htag
      exact .inr ⟨stop, List.mem_cons_self⟩
    · exact hcons (ih h)
  | case5 open_ t ts _ _ ih => exact hcons (ih h)

theorem lt_start_of_mem_bodiesOf {lo length : Nat} {ts : List PlacedTag} {b : Span}
    (horder : TagsInOrder lo length ts) (h : b ∈ bodiesOf length none ts) : lo < b.start :=
  ((spansInOrder_bodiesOf horder (by simp)).bounds b h).1

/-- No closing tag that was found lies inside a body. -/
theorem stop_le_of_closing {lo length : Nat} {open_ : Option Nat} {ts : List PlacedTag} {b : Span}
    (horder : TagsInOrder lo length ts) (h : b ∈ bodiesOf length open_ ts) {c : PlacedTag}
    (hc : c ∈ ts) (hclosing : c.tag = .closing) (hstart : b.start ≤ c.start) :
    b.stop ≤ c.start := by
  fun_induction bodiesOf length open_ ts generalizing lo with
  | case1 => simp at hc
  | case2 => simp at h
  | case3 t ts htag ih =>
    rcases List.mem_cons.1 hc with rfl | hc
    · simp [htag] at hclosing
    · exact ih horder.2.2 h hc
  | case4 t ts s htag ih =>
    obtain ⟨-, hpos, hts⟩ := horder
    rcases List.mem_cons.1 h with rfl | hb
    · -- the tag closes the body, and every other tag of the list is behind it
      rcases List.mem_cons.1 hc with rfl | hc
      · exact le_rfl
      · exact hpos.le.trans (hts.bounds c hc).1
    · -- a later body starts behind the tag
      rcases List.mem_cons.1 hc with rfl | hc
      · have hlt := lt_start_of_mem_bodiesOf hts hb
        omega
      · exact ih hts hb hc
  | case5 open_ t ts _ hclose ih =>
    obtain ⟨-, hpos, hts⟩ := horder
    rcases List.mem_cons.1 hc with rfl | hc
    · -- no body is open at a closing tag that closes none
      have hnone : open_ = none := by
        cases open_ with
        | none => rfl
        | some s => exact (hclose s rfl hclosing).elim
      subst hnone
      have hlt := lt_start_of_mem_bodiesOf hts h
      omega
    · exact ih hts h hc

theorem cut_of_drop_eq_append {t u rest : Text} {k : Nat} (h : t.drop k = u ++ rest) :
    cut t ⟨k, k + u.length⟩ = u := by
  rw [cut, List.drop_take, Nat.add_sub_cancel_left, h, List.take_left]

theorem isTag_of_mem_tags {t : Text} {p : PlacedTag} (h : p ∈ tags 0 0 t) :
    IsTag p.tag (cut t ⟨p.start, p.stop⟩) := by
  obtain ⟨k, n, hstart, hstop, htag⟩ := tagAt?_of_mem_tags h
  obtain ⟨u, rest, hu, rfl, hisTag⟩ := isTag_of_tagAt? htag
  rw [Nat.zero_add] at hstart hstop
  rwa [hstart, hstop, cut_of_drop_eq_append hu]

/-- A closing tag inside a body is the end of an opening tag that starts in the body. -/
theorem exists_opening_of_closing {t : Text} {b : Span} (h : b ∈ bodies t) {k q : Nat}
    (hlo : b.start ≤ k) (hhi : k < b.stop) (hq : q ≤ t.length)
    (hclosing : IsTag .closing (cut t ⟨k, q⟩)) :
    ∃ selfClosing p, ⟨.opening selfClosing, p, q⟩ ∈ tags 0 0 t ∧ b.start ≤ p ∧ p < k := by
  have horder := tagsInOrder_text t
  have hlen : (cut t ⟨k, q⟩).length = q - k := by
    rw [length_cut, Nat.min_eq_left hq]
  have hkq : k < q := by
    obtain ⟨v, hv, -⟩ := hclosing.bracket
    rw [hv, List.length_append, List.length_singleton] at hlen
    omega
  have hdrop : t.drop k = cut t ⟨k, q⟩ ++ t.drop q := (cut_append_drop t hkq.le).symm
  have htag : tagAt? (t.drop k) = some (.closing, q - k) := by
    rw [hdrop, tagAt?_of_closing hclosing, hlen]
  have hfound : ⟨.closing, 0 + k, 0 + k + (q - k)⟩ ∈ tags 0 0 t ∨
      ∃ o ∈ tags 0 0 t, o.start < 0 + k ∧ 0 + k < o.stop :=
    mem_tags_or_covered htag (Nat.zero_le k)
  rcases hfound with hmem | ⟨o, ho, hok, hko⟩
  · -- a closing tag that was found ends the body
    have hle := stop_le_of_closing horder h hmem rfl (by dsimp only; omega)
    dsimp only at hle
    omega
  · -- the tag around it is no closing tag and starts behind the one that opens the body
    rw [Nat.zero_add] at hok hko
    obtain ⟨p, hp⟩ := (opened_of_mem_bodiesOf h).resolve_left (by simp)
    have hpos : p < b.start := (horder.bounds _ hp).2
    have hstart : b.start ≤ o.start := by
      rcases horder.apart ho hp with rfl | hle | hle
      · exact absurd hko (by dsimp only; omega)
      · dsimp only at hle
        omega
      · exact hle
    -- it ends at the bracket that the closing tag ends at
    have hend : o.stop = q := by
      obtain ⟨i, n, hi, hn, hat⟩ := tagAt?_of_mem_tags ho
      obtain ⟨u, rest, hu, rfl, hisTag⟩ := isTag_of_tagAt? hat
      have heq := hisTag.end_eq hu hclosing hdrop (by omega) (by omega)
      omega
    obtain ⟨tag, start, stop⟩ := o
    cases tag with
    | opening selfClosing => exact ⟨selfClosing, start, hend ▸ ho, hstart, hok⟩
    | closing =>
      have hle := stop_le_of_closing horder h ho rfl hstart
      dsimp only at hle hok
      omega

/-- A script body starts behind an opening tag that is not self-closing and stops at a closing tag or
at the end of the text. A closing tag that starts in the body is the end of an opening tag that
starts there too, so a body without opening tags stops at the first closing tag. -/
theorem body_between_tags {t : Text} {b : Span} (h : b ∈ bodies t) :
    (∃ p, ⟨.opening false, p, b.start⟩ ∈ tags 0 0 t ∧
      IsTag (.opening false) (cut t ⟨p, b.start⟩)) ∧
    (b.stop = t.length ∨
      ∃ q, ⟨.closing, b.stop, q⟩ ∈ tags 0 0 t ∧ IsTag .closing (cut t ⟨b.stop, q⟩)) ∧
    ∀ k q, b.start ≤ k → k < b.stop → q ≤ t.length → IsTag .closing (cut t ⟨k, q⟩) →
      ∃ selfClosing p, ⟨.opening selfClosing, p, q⟩ ∈ tags 0 0 t ∧
        IsTag (.opening selfClosing) (cut t ⟨p, q⟩) ∧ b.start ≤ p ∧ p < k := by
  refine ⟨?_, ?_, ?_⟩
  · obtain ⟨p, hp⟩ := (opened_of_mem_bodiesOf h).resolve_left (by simp)
    exact ⟨p, hp, isTag_of_mem_tags hp⟩
  · refine (closed_of_mem_bodiesOf h).imp_right ?_
    rintro ⟨q, hq⟩
    exact ⟨q, hq, isTag_of_mem_tags hq⟩
  · intro k q hlo hhi hq hclosing
    obtain ⟨selfClosing, p, hp, hstart, hlt⟩ := exists_opening_of_closing h hlo hhi hq hclosing
    exact ⟨selfClosing, p, hp, isTag_of_mem_tags hp, hstart, hlt⟩

theorem isTag_closing_behind_literal : IsTag .closing
    (cut (Text.ofString "<script>f('<script ');</script>\n<p>text</p>\n") ⟨22, 31⟩) := by
  refine ⟨Text.ofString "script", [], by decide +kernel, ?_, by simp⟩
  exact .cons rfl (.cons rfl (.cons rfl (.cons rfl (.cons rfl (.cons rfl .nil)))))

/-- A string literal in the body starts an opening tag that the closing tag finishes. -/
theorem body_between_tags_of_literal :
    let t := Text.ofString "<script>f('<script ');</script>\n<p>text</p>\n"
    ⟨8, 44⟩ ∈ bodies t ∧ IsTag .closing (cut t ⟨22, 31⟩) ∧
      ∃ selfClosing p, ⟨.opening selfClosing, p, 31⟩ ∈ tags 0 0 t ∧
        IsTag (.opening selfClosing) (cut t ⟨p, 31⟩) ∧ 8 ≤ p ∧ p < 22 := by
  intro t
  have hbody : ⟨8, 44⟩ ∈ bodies t := by decide +kernel
  have hlength : 31 ≤ t.length := by decide +kernel
  refine ⟨hbody, isTag_closing_behind_literal, ?_⟩
  exact (body_between_tags hbody).2.2 22 31 (by decide) (by decide) hlength
    isTag_closing_behind_literal

/-- The body of that text runs over its closing tag and the markup behind it, to the end. -/
theorem body_holds_closing_tag :
    let t := Text.ofString "<script>f('<script ');</script>\n<p>text</p>\n"
    bodies t = [⟨8, t.length⟩] ∧ 22 < t.length ∧ IsTag .closing (cut t ⟨22, 31⟩) :=
  ⟨by decide +kernel, by decide +kernel, isTag_closing_behind_literal⟩

end ComplexityHints.Host
