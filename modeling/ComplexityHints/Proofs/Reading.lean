import ComplexityHints.Files.Read
import ComplexityHints.Files.Snapshot
import ComplexityHints.Proofs.Failure
import ComplexityHints.Proofs.Positions
import Mathlib.Data.List.TakeWhile

namespace ComplexityHints

namespace Text

variable {t : Text} {i o e : Nat}

/-- The position behind a text that starts at a position: a break opens the next line, any other
character goes one further on its line. -/
def advance (p : Position) : Text → Position
  | [] => p
  | .scalar '\r' :: .scalar '\n' :: rest => advance ⟨p.line + 1, 0⟩ rest
  | c :: rest =>
    if c.isTerminator then advance ⟨p.line + 1, 0⟩ rest
    else advance ⟨p.line, p.character + 1⟩ rest

/-- An offset lies between the two characters of one break. -/
def SplitsPair (t : Text) (i : Nat) : Prop :=
  ∃ k, i = k + 1 ∧ t[k]? = some (.scalar '\r') ∧ t[k + 1]? = some (.scalar '\n')

theorem not_splitsPair_zero (t : Text) : ¬ SplitsPair t 0 := by
  rintro ⟨k, hk, -⟩
  omega

theorem splitsPair_succ_cons {c : CodePoint} :
    SplitsPair (c :: t) (i + 1) ↔
      SplitsPair t i ∨ i = 0 ∧ c = .scalar '\r' ∧ t.head? = some (.scalar '\n') := by
  constructor
  · rintro ⟨_ | k, hk, hcr, hlf⟩
    · exact .inr ⟨by omega, Option.some.inj hcr, by rwa [List.head?_eq_getElem?]⟩
    · exact .inl ⟨k, by omega, hcr, hlf⟩
  · rintro (⟨k, rfl, hcr, hlf⟩ | ⟨rfl, rfl, hlf⟩)
    · exact ⟨k + 1, rfl, hcr, hlf⟩
    · exact ⟨0, rfl, rfl, by rwa [List.head?_eq_getElem?] at hlf⟩

theorem not_splitsPair_of_cons {c : CodePoint} (h : ¬ SplitsPair (c :: t) (i + 1)) :
    ¬ SplitsPair t i :=
  fun hrest => h (splitsPair_succ_cons.2 (.inl hrest))

theorem endsBreak_le_length (h : EndsBreak t i) : i ≤ t.length := by
  cases i with
  | zero => exact Nat.zero_le _
  | succ i =>
    rcases endsBreak_succ_iff.1 h with hlf | ⟨hcr, -⟩
    · exact (List.getElem?_eq_some_iff.1 hlf).1
    · exact (List.getElem?_eq_some_iff.1 hcr).1

theorem advance_eq {from_ start : Nat} (hstart : start ≤ from_) (line : Nat) (t : Text) :
    advance ⟨line, from_ - start⟩ t =
      ⟨line + (t.breakEnds from_).length,
        from_ + t.length - (t.breakEnds from_).getLast?.getD start⟩ := by
  fun_induction breakEnds from_ t generalizing start line with
  | case1 from_ => simp [advance]
  | case2 from_ rest ih =>
    have hrest := ih (le_refl (from_ + 2)) (line + 1)
    rw [Nat.sub_self] at hrest
    rw [advance, hrest, List.getLast?_cons]
    simp only [List.length_cons, Option.getD_some, Position.mk.injEq]
    omega
  | case3 from_ c rest hpair hterm ih =>
    have hrest := ih (le_refl (from_ + 1)) (line + 1)
    rw [Nat.sub_self] at hrest
    rw [advance, if_pos hterm, hrest, List.getLast?_cons]
    · simp only [List.length_cons, Option.getD_some, Position.mk.injEq]
      omega
    · exact hpair
  | case4 from_ c rest hpair hterm ih =>
    have hrest := ih (Nat.le_succ_of_le hstart) line
    rw [advance, if_neg hterm, ← Nat.sub_add_comm hstart, hrest]
    · simp only [List.length_cons, Position.mk.injEq, true_and]
      omega
    · exact hpair

theorem passed_length (t : Text) : t.passed t.length = t.breakEnds 0 := by
  apply List.takeWhile_eq_self_iff.2
  intro e he
  obtain ⟨i, rfl, hi⟩ := mem_breakEnds.1 he
  simpa using endsBreak_le_length hi

theorem positionAt_length (t : Text) : t.positionAt t.length = advance ⟨0, 0⟩ t := by
  have hread := advance_eq (le_refl 0) 0 t
  have hpassed := passed_length t
  rw [passed] at hpassed
  rw [positionAt, clamp_of_le le_rfl, hpassed, hread]
  simp

theorem endsBreak_take (h : ¬ SplitsPair t i) (he : e ≤ i) :
    EndsBreak (t.take i) e ↔ EndsBreak t e := by
  cases e with
  | zero => exact iff_of_false (not_endsBreak_zero _) (not_endsBreak_zero t)
  | succ k =>
    rw [endsBreak_succ_iff, endsBreak_succ_iff, List.getElem?_take_of_lt (by omega)]
    by_cases hk : k + 1 < i
    · rw [List.getElem?_take_of_lt hk]
    · -- at the cut a carriage return loses what follows it, which is no line feed
      obtain rfl : i = k + 1 := by omega
      have hlone : t[k]? = some (.scalar '\r') → t[k + 1]? ≠ some (.scalar '\n') :=
        fun hcr hlf => h ⟨k, rfl, hcr, hlf⟩
      have hend : (t.take (k + 1))[k + 1]? = none := by simp
      rw [hend]
      simp only [ne_eq, reduceCtorEq, not_false_eq_true, and_true]
      tauto

/-- The text behind an offset has no part in its position, unless it ends a break that the offset
splits. -/
theorem positionAt_take (hi : i ≤ t.length) (h : ¬ SplitsPair t i) :
    positionAt (t.take i) i = t.positionAt i := by
  have hpassed : passed (t.take i) i = t.passed i := by
    rw [passed_eq_filter, passed_eq_filter]
    apply List.filter_congr
    intro e he
    rw [List.mem_range] at he
    exact decide_eq_decide.2 (endsBreak_take h (by omega))
  have hlength : i ≤ (t.take i).length := by
    rw [List.length_take]
    omega
  rw [passed, passed] at hpassed
  rw [positionAt, positionAt, clamp_of_le hlength, clamp_of_le hi, hpassed]

theorem positionAt_eq_advance (hi : i ≤ t.length) (h : ¬ SplitsPair t i) :
    t.positionAt i = advance ⟨0, 0⟩ (t.take i) := by
  rw [← positionAt_take hi h, ← positionAt_length, List.length_take, Nat.min_eq_left hi]

theorem head?_ne_of_lone (h : ∀ rest, t = .scalar '\n' :: rest → False) :
    t.head? ≠ some (.scalar '\n') := by
  intro hlf
  obtain ⟨rest, rfl⟩ := List.head?_eq_some_iff.1 hlf
  exact h rest rfl

theorem head?_take_ne {c : CodePoint} (h : t.head? ≠ some c) (i : Nat) :
    (t.take i).head? ≠ some c := by
  rw [List.head?_take]
  split
  · simp
  · exact h

theorem normalizeBreaks_cr (h : t.head? ≠ some (.scalar '\n')) :
    normalizeBreaks (.scalar '\r' :: t) = .scalar '\n' :: normalizeBreaks t := by
  rw [normalizeBreaks.eq_3]
  rintro rest rfl
  exact h rfl

theorem normalizeBreaks_cons {c : CodePoint} (h : c ≠ .scalar '\r') (t : Text) :
    normalizeBreaks (c :: t) = c :: normalizeBreaks t := by
  rw [normalizeBreaks.eq_4]
  · rintro rest rfl
    exact absurd rfl h
  · exact h

theorem advance_normalizeBreaks (p : Position) (t : Text) :
    advance p (normalizeBreaks t) = advance p t := by
  fun_induction normalizeBreaks t generalizing p with
  | case1 => rfl
  | case2 rest ih => simp [advance, ih, CodePoint.isTerminator]
  | case3 rest hlone ih =>
    rw [advance.eq_3 p (.scalar '\r') rest (by simpa using hlone),
      advance.eq_3 p (.scalar '\n') _ (by simp)]
    simp [ih, CodePoint.isTerminator]
  | case4 c rest hpair hlone ih =>
    rw [advance.eq_3 p c rest hpair, advance.eq_3 p c _ fun _ hcr _ => hlone hcr]
    simp only [ih]

theorem cr_not_mem_normalizeBreaks (t : Text) : .scalar '\r' ∉ normalizeBreaks t := by
  fun_induction normalizeBreaks t with
  | case1 => simp
  | case2 rest ih => simpa using ih
  | case3 rest _ ih => simpa using ih
  | case4 c rest _ hlone ih => simpa [eq_comm] using ⟨hlone, ih⟩

theorem not_splitsPair_normalizeBreaks (t : Text) (o : Nat) : ¬ SplitsPair (normalizeBreaks t) o := by
  rintro ⟨k, -, hcr, -⟩
  exact cr_not_mem_normalizeBreaks t (List.mem_of_getElem? hcr)

theorem normalizeBreaks_cut (h : ¬ SplitsPair t i) :
    normalizeBreaks t = normalizeBreaks (t.take i) ++ normalizeBreaks (t.drop i) := by
  fun_induction normalizeBreaks t generalizing i with
  | case1 => simp [normalizeBreaks]
  | case2 rest ih =>
    rcases i with _ | _ | i
    · simp [normalizeBreaks]
    · exact absurd ⟨0, rfl, rfl, rfl⟩ h
    · have hrest := ih (not_splitsPair_of_cons (not_splitsPair_of_cons h))
      simp [normalizeBreaks, ← hrest]
  | case3 rest hlone ih =>
    have hhead := head?_ne_of_lone hlone
    cases i with
    | zero => simp [normalizeBreaks_cr hhead, normalizeBreaks]
    | succ i =>
      have hrest := ih (not_splitsPair_of_cons h)
      rw [List.take_succ_cons, List.drop_succ_cons, normalizeBreaks_cr (head?_take_ne hhead i),
        hrest, List.cons_append]
  | case4 c rest hpair hlone ih =>
    cases i with
    | zero => simp [normalizeBreaks_cons hlone, normalizeBreaks]
    | succ i =>
      have hrest := ih (not_splitsPair_of_cons h)
      rw [List.take_succ_cons, List.drop_succ_cons, normalizeBreaks_cons hlone, hrest,
        List.cons_append]

/-- Where an offset of the text as an editor holds it comes to lie in the text as it is read. -/
def readOffset (t : Text) (i : Nat) : Nat := (normalizeBreaks (t.take i)).length

theorem take_readOffset (h : ¬ SplitsPair t i) :
    (normalizeBreaks t).take (t.readOffset i) = normalizeBreaks (t.take i) := by
  rw [normalizeBreaks_cut h, readOffset, List.take_left]

theorem readOffset_le_length (h : ¬ SplitsPair t i) :
    t.readOffset i ≤ (normalizeBreaks t).length := by
  rw [normalizeBreaks_cut h, readOffset, List.length_append]
  omega

/-- Reading moves offsets and keeps positions. -/
theorem positionAt_readOffset (hi : i ≤ t.length) (h : ¬ SplitsPair t i) :
    (normalizeBreaks t).positionAt (t.readOffset i) = t.positionAt i :=
  calc (normalizeBreaks t).positionAt (t.readOffset i)
    _ = advance ⟨0, 0⟩ ((normalizeBreaks t).take (t.readOffset i)) :=
      positionAt_eq_advance (readOffset_le_length h) (not_splitsPair_normalizeBreaks t _)
    _ = advance ⟨0, 0⟩ (normalizeBreaks (t.take i)) := by rw [take_readOffset h]
    _ = advance ⟨0, 0⟩ (t.take i) := advance_normalizeBreaks _ _
    _ = t.positionAt i := (positionAt_eq_advance hi h).symm

theorem exists_readOffset (ho : o ≤ (normalizeBreaks t).length) :
    ∃ i ≤ t.length, ¬ SplitsPair t i ∧ t.readOffset i = o := by
  fun_induction normalizeBreaks t generalizing o with
  | case1 => exact ⟨0, Nat.le_refl 0, not_splitsPair_zero [], (Nat.le_zero.1 ho).symm⟩
  | case2 rest ih =>
    cases o with
    | zero => exact ⟨0, Nat.zero_le _, not_splitsPair_zero _, rfl⟩
    | succ o =>
      obtain ⟨i, hi, hsplit, rfl⟩ := ih (Nat.le_of_succ_le_succ ho)
      refine ⟨i + 2, Nat.add_le_add_right hi 2, ?_, rfl⟩
      simp [splitsPair_succ_cons, hsplit]
  | case3 rest hlone ih =>
    cases o with
    | zero => exact ⟨0, Nat.zero_le _, not_splitsPair_zero _, rfl⟩
    | succ o =>
      obtain ⟨i, hi, hsplit, rfl⟩ := ih (Nat.le_of_succ_le_succ ho)
      have hhead := head?_ne_of_lone hlone
      refine ⟨i + 1, Nat.succ_le_succ hi, ?_, ?_⟩
      · simp [splitsPair_succ_cons, hsplit, hhead]
      · rw [readOffset, List.take_succ_cons, normalizeBreaks_cr (head?_take_ne hhead i)]
        rfl
  | case4 c rest hpair hlone ih =>
    cases o with
    | zero => exact ⟨0, Nat.zero_le _, not_splitsPair_zero _, rfl⟩
    | succ o =>
      obtain ⟨i, hi, hsplit, rfl⟩ := ih (Nat.le_of_succ_le_succ ho)
      refine ⟨i + 1, Nat.succ_le_succ hi, ?_, ?_⟩
      · simp [splitsPair_succ_cons, hsplit, show c ≠ .scalar '\r' from hlone]
      · rw [readOffset, List.take_succ_cons, normalizeBreaks_cons hlone]
        rfl

end Text

/-- A document as it is read, beside one that holds the same text with its own line breaks. -/
structure SamePositions (file editor : Document) : Prop where
  /-- An offset that splits no break has the position of the offset that it comes to lie at. -/
  kept : ∀ i ≤ editor.text.length, ¬ editor.text.SplitsPair i →
    file.positionAt (editor.text.readOffset i) = editor.positionAt i
  /-- Whatever offset is reported, its position is that of the place it comes from. -/
  reported : ∀ offset : Int, ∃ i ≤ editor.text.length, ¬ editor.text.SplitsPair i ∧
    editor.text.readOffset i = file.text.clamp offset ∧ file.positionAt offset = editor.positionAt i

theorem samePositions_of_normalizeBreaks {file editor : Document}
    (h : file.text = editor.text.normalizeBreaks) : SamePositions file editor := by
  have hkept (i : Nat) (hi : i ≤ editor.text.length) (hsplit : ¬ editor.text.SplitsPair i) :
      file.positionAt (editor.text.readOffset i) = editor.positionAt i := by
    rw [Document.positionAt, h]
    exact Text.positionAt_readOffset hi hsplit
  refine ⟨hkept, ?_⟩
  intro offset
  have hclamp : file.text.clamp offset ≤ (Text.normalizeBreaks editor.text).length :=
    h ▸ Nat.min_le_right _ _
  obtain ⟨i, hi, hsplit, hoffset⟩ := Text.exists_readOffset hclamp
  refine ⟨i, hi, hsplit, hoffset, ?_⟩
  rw [← hkept i hi hsplit, hoffset]
  exact (Text.positionAt_clamp file.text offset).symm

section Loading

variable {t : FileTree} {p : Path} {languageId : Option String} {d : Document}

theorem loadDocument_eq_ok (h : loadDocument t p languageId = .ok d) :
    d.uri = t.uri p ∧ readText t p "utf-8" .replace = .ok d.text := by
  have hrest (id : String) (h : (do
      let text ← readText t p "utf-8" .replace
      return { uri := t.uri p, languageId := id, text } : Except Failure Document) = .ok d) :
      d.uri = t.uri p ∧ readText t p "utf-8" .replace = .ok d.text := by
    obtain ⟨text, htext, h⟩ := ok_of_bind h
    cases h
    exact ⟨rfl, htext⟩
  unfold loadDocument at h
  cases languageId with
  | some id => exact hrest id h
  | none =>
    cases hlanguage : p.language? with
    | some language =>
      rw [hlanguage] at h
      exact hrest language.id h
    | none =>
      rw [hlanguage] at h
      cases h

theorem text_of_loadDocument (h : loadDocument t p languageId = .ok d) :
    ∃ bytes cs, t.read p = .ok bytes ∧ Decoding.decode .utf8 .replace bytes = .ok cs ∧
      d.text = Text.normalizeBreaks (Text.ofChars cs) := by
  have hread := (loadDocument_eq_ok h).2
  have hencoding : Encoding.ofName? "utf-8" = some .utf8 := by decide +kernel
  rw [readText, hencoding] at hread
  cases hbytes : t.read p with
  | error why => simp [hbytes] at hread
  | ok bytes =>
    simp only [hbytes] at hread
    cases hcs : Decoding.decode .utf8 .replace bytes with
    | error complaint => simp [hcs] at hread
    | ok cs =>
      simp only [hcs, Except.ok.injEq] at hread
      exact ⟨bytes, cs, rfl, hcs, hread.symm⟩

end Loading

/-- Reading a text with line feeds for its breaks keeps the positions of all offsets that split no
break, and every position in it is one of these. So a position in a loaded file is the one that an
editor shows which holds the text of the file with its own breaks. -/
theorem reading_keeps_positions (editor : Document) :
    (∀ file : Document, file.text = editor.text.normalizeBreaks → SamePositions file editor) ∧
    ∀ (t : FileTree) (p : Path) (languageId : Option String) (file : Document),
      loadDocument t p languageId = .ok file → ∃ bytes cs, t.read p = .ok bytes ∧
        Decoding.decode .utf8 .replace bytes = .ok cs ∧
        (editor.text = Text.ofChars cs → SamePositions file editor) := by
  refine ⟨fun file => samePositions_of_normalizeBreaks, ?_⟩
  intro t p languageId file h
  obtain ⟨bytes, cs, hbytes, hcs, htext⟩ := text_of_loadDocument h
  refine ⟨bytes, cs, hbytes, hcs, fun heditor => ?_⟩
  exact samePositions_of_normalizeBreaks (heditor ▸ htext)

/-- A file with a pair and a carriage return on its own: what stands at offset four in an editor is read
at offset three, and both show it at the start of the third line. -/
theorem reading_keeps_positions_of_returns :
    let t : FileTree := Snapshot.tree
      { directory := ["w"], home := ["h"], directories := []
        files := [(["w", "a.lua"], Utf8.encode "x\r\n\ry".toList)] }
    let editor : Document := ⟨"", "lua", Text.ofString "x\r\n\ry", 0⟩
    ∃ file, loadDocument t ⟨false, ["a.lua"]⟩ none = .ok file ∧ ¬ editor.text.SplitsPair 4 ∧
      editor.text.readOffset 4 = 3 ∧ file.positionAt 3 = editor.positionAt 4 ∧
      editor.positionAt 4 = ⟨2, 0⟩ := by
  intro t editor
  have hok : (loadDocument t ⟨false, ["a.lua"]⟩ none).toOption.isSome = true := by decide +kernel
  obtain ⟨file, hfile⟩ := ok_of_isSome hok
  have hsplit : ¬ editor.text.SplitsPair 4 := by
    rintro ⟨k, hk, hcr, hlf⟩
    obtain rfl : k = 3 := by omega
    exact absurd hlf (by decide +kernel)
  have hoffset : editor.text.readOffset 4 = 3 := by decide +kernel
  obtain ⟨bytes, cs, hbytes, hcs, hsame⟩ :=
    (reading_keeps_positions editor).2 t ⟨false, ["a.lua"]⟩ none file hfile
  have htext : editor.text = Text.ofChars cs := by
    have hread : t.read ⟨false, ["a.lua"]⟩ = .ok (Utf8.encode "x\r\n\ry".toList) := rfl
    have hdecode : Decoding.decode .utf8 .replace (Utf8.encode "x\r\n\ry".toList) =
        .ok "x\r\n\ry".toList := by
      decide +kernel
    cases hread.symm.trans hbytes
    cases hdecode.symm.trans hcs
    rfl
  have hkept := (hsame htext).kept 4 (by decide +kernel) hsplit
  rw [hoffset] at hkept
  exact ⟨file, hfile, hsplit, hoffset, hkept, by decide +kernel⟩

end ComplexityHints
