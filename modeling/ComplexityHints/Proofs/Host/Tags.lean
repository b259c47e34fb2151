import ComplexityHints.Host.Bodies
import Mathlib.Data.List.TakeWhile
import Mathlib.Tactic

namespace ComplexityHints.Host

abbrev Spelled : List Char → Text → Prop := List.Forall₂ fun letter c => spells letter c = true

/-- The text of a tag. The end of a word comes behind the name of an opening tag, which is
self-closing when its last attribute ends in a slash. -/
def IsTag : Tag → Text → Prop
  | .opening selfClosing, t => ∃ word attributes : Text,
    t = .scalar '<' :: (word ++ (attributes ++ [.scalar '>'])) ∧ Spelled scriptWord word ∧
      (∀ c ∈ attributes.head?, c.satisfies isWord = false) ∧ .scalar '>' ∉ attributes ∧
      selfClosing = decide ((Text.trimRight attributes).getLast? = some (.scalar '/'))
  | .closing, t => ∃ word spaces : Text,
    t = .scalar '<' :: .scalar '/' :: (word ++ (spaces ++ [.scalar '>'])) ∧
      Spelled scriptWord word ∧ ∀ c ∈ spaces, c.satisfies isSpace = true

theorem afterWord?_eq_some_iff {word : List Char} {t rest : Text} :
    afterWord? word t = some rest ↔ ∃ w, t = w ++ rest ∧ Spelled word w := by
  fun_induction afterWord? word t with
  | case1 t =>
    constructor
    · rintro ⟨⟩
      exact ⟨[], rfl, .nil⟩
    · rintro ⟨w, rfl, hw⟩
      cases hw
      rfl
  | case2 letter letters c t hc ih =>
    rw [ih]
    constructor
    · rintro ⟨w, rfl, hw⟩
      exact ⟨c :: w, rfl, .cons hc hw⟩
    · rintro ⟨w, ht, hw⟩
      obtain ⟨d, w, -, hrest, rfl⟩ := List.forall₂_cons_left_iff.1 hw
      exact ⟨w, (List.cons.inj ht).2, hrest⟩
  | case3 letter letters c t hc =>
    constructor
    · simp
    · rintro ⟨w, ht, hw⟩
      obtain ⟨d, w, hd, -, rfl⟩ := List.forall₂_cons_left_iff.1 hw
      obtain rfl := (List.cons.inj ht).1
      exact absurd hd hc
  | case4 letter letters =>
    constructor
    · simp
    · rintro ⟨w, ht, hw⟩
      obtain ⟨d, w, -, -, rfl⟩ := List.forall₂_cons_left_iff.1 hw
      simp at ht

theorem split_at_dropWhile {p : CodePoint → Bool} {t rest : Text} {c : CodePoint}
    (h : t.dropWhile p = c :: rest) :
    t = t.takeWhile p ++ c :: rest ∧ p c = false ∧ ∀ d ∈ t.takeWhile p, p d = true := by
  refine ⟨?_, ?_, fun d hd => List.mem_takeWhile_imp hd⟩
  · rw [← h, List.takeWhile_append_dropWhile]
  · have hhead := List.head?_dropWhile_not p t
    rw [h] at hhead
    exact hhead

theorem isTag_of_opening? {t after : Text} {tag : Tag} (h : opening? t = some (tag, after)) :
    ∃ u, t = u ++ after ∧ IsTag tag (.scalar '<' :: u) := by
  unfold opening? at h
  split at h
  · rename_i c rest hw
    obtain ⟨word, rfl, hword⟩ := afterWord?_eq_some_iff.1 hw
    split_ifs at h with hboundary
    split at h
    · simp at h
    · rename_i bracket tail hd
      cases h
      obtain ⟨hsplit, hbracket, hattributes⟩ := split_at_dropWhile hd
      have hgt : bracket = .scalar '>' := by simpa using hbracket
      subst hgt
      generalize (c :: rest).takeWhile (· ≠ .scalar '>') = attributes at *
      refine ⟨word ++ (attributes ++ [.scalar '>']), ?_, word, attributes, rfl, hword, ?_, ?_, rfl⟩
      · rw [hsplit]
        simp
      · intro d hd
        have hdc : d = c := by
          obtain ⟨attributes, rfl⟩ := List.head?_eq_some_iff.1 hd
          exact (List.cons.inj hsplit).1.symm
        simpa [hdc] using hboundary
      · intro hmem
        simpa using hattributes _ hmem
  · simp at h

theorem isTag_of_closing? {t after : Text} {tag : Tag} (h : closing? t = some (tag, after)) :
    ∃ u, t = u ++ after ∧ IsTag tag (.scalar '<' :: u) := by
  unfold closing? at h
  split at h
  · rename_i rest
    split at h
    · rename_i tail hw
      obtain ⟨word, rfl, hword⟩ := afterWord?_eq_some_iff.1 hw
      split at h
      · rename_i tail' hd
        cases h
        obtain ⟨hsplit, -, hspaces⟩ := split_at_dropWhile hd
        generalize tail.takeWhile (·.satisfies isSpace) = spaces at hsplit hspaces
        refine ⟨.scalar '/' :: (word ++ (spaces ++ [.scalar '>'])), ?_, word, spaces, rfl, hword,
          hspaces⟩
        rw [hsplit]
        simp
      · simp at h
    · simp at h
  · simp at h

theorem isTag_of_tagAt? {t : Text} {tag : Tag} {n : Nat} (h : tagAt? t = some (tag, n)) :
    ∃ u rest, t = u ++ rest ∧ u.length = n ∧ IsTag tag u := by
  unfold tagAt? at h
  split at h
  · rename_i rest
    obtain ⟨⟨tag', after⟩, ho, he⟩ := Option.map_eq_some_iff.1 h
    cases he
    have hu : ∃ u, rest = u ++ after ∧ IsTag tag (.scalar '<' :: u) := by
      rcases Option.or_eq_some_iff.1 ho with ho | ⟨_, ho⟩
      · exact isTag_of_opening? ho
      · exact isTag_of_closing? ho
    obtain ⟨u, rfl, hu⟩ := hu
    refine ⟨.scalar '<' :: u, after, rfl, ?_, hu⟩
    simp only [List.length_cons, List.length_append]
    omega
  · simp at h

theorem tagAt?_of_closing {u : Text} (h : IsTag .closing u) (rest : Text) :
    tagAt? (u ++ rest) = some (.closing, u.length) := by
  obtain ⟨word, spaces, rfl, hword, hspaces⟩ := h
  have hafter : afterWord? scriptWord (word ++ (spaces ++ .scalar '>' :: rest)) =
      some (spaces ++ .scalar '>' :: rest) := afterWord?_eq_some_iff.2 ⟨word, rfl, hword⟩
  have hdrop : (spaces ++ .scalar '>' :: rest).dropWhile (·.satisfies isSpace) =
      .scalar '>' :: rest := by
    rw [List.dropWhile_append_of_pos hspaces]
    rfl
  have hclosing : closing? (.scalar '/' :: (word ++ (spaces ++ .scalar '>' :: rest))) =
      some (.closing, rest) := by
    simp only [closing?, hafter, hdrop]
  have hopening : opening? (.scalar '/' :: (word ++ (spaces ++ .scalar '>' :: rest))) = none := rfl
  simp only [List.cons_append, List.append_assoc, List.nil_append, tagAt?, hopening, hclosing,
    Option.none_or, Option.map_some, List.length_cons, List.length_append, List.length_nil]
  congr 2
  omega

theorem not_mem_of_spelled {word : List Char} {t : Text} (h : Spelled word t) {c : CodePoint}
    (hc : ∀ letter ∈ word, spells letter c = false) : c ∉ t := by
  induction h with
  | nil => exact List.not_mem_nil
  | cons hd _ ih =>
    intro hmem
    rcases List.mem_cons.1 hmem with rfl | hmem
    · simp [hc _ List.mem_cons_self] at hd
    · exact ih (fun letter hl => hc letter (List.mem_cons_of_mem _ hl)) hmem

theorem IsTag.bracket {tag : Tag} {u : Text} (h : IsTag tag u) :
    ∃ v, u = v ++ [.scalar '>'] ∧ .scalar '>' ∉ v := by
  have hname {word : Text} (hword : Spelled scriptWord word) : .scalar '>' ∉ word :=
    not_mem_of_spelled hword (by simp [scriptWord, spells])
  cases tag with
  | opening selfClosing =>
    obtain ⟨word, attributes, rfl, hword, -, hattributes, -⟩ := h
    refine ⟨.scalar '<' :: (word ++ attributes), by simp, ?_⟩
    simp [hname hword, hattributes]
  | closing =>
    obtain ⟨word, spaces, rfl, hword, hspaces⟩ := h
    have hspace : .scalar '>' ∉ spaces := fun hmem => absurd (hspaces _ hmem) (by decide)
    refine ⟨.scalar '<' :: .scalar '/' :: (word ++ spaces), by simp, ?_⟩
    simp [hname hword, hspace]

/-- A tag that starts inside another one ends with it. -/
theorem IsTag.end_eq {t u v r s : Text} {tag tag' : Tag} {p k : Nat} (hu : IsTag tag u)
    (hp : t.drop p = u ++ r) (hv : IsTag tag' v) (hk : t.drop k = v ++ s) (hpk : p ≤ k)
    (hin : k < p + u.length) : k + v.length = p + u.length := by
  obtain ⟨u, rfl, hgtu⟩ := hu.bracket
  obtain ⟨v, rfl, hgtv⟩ := hv.bracket
  rw [List.length_append, List.length_singleton] at hin ⊢
  -- both end at the first bracket behind `k`
  have hsame : u.drop (k - p) ++ .scalar '>' :: r = v ++ .scalar '>' :: s := by
    rw [List.append_assoc, List.singleton_append] at hp hk
    have hle : k - p ≤ u.length := by omega
    rw [← hk, ← List.drop_append_of_le_length hle, ← hp, List.drop_drop, Nat.add_sub_of_le hpk]
  have hindex := congrArg (List.idxOf (.scalar '>')) hsame
  have hgtu' : .scalar '>' ∉ u.drop (k - p) := fun hmem => hgtu (List.mem_of_mem_drop hmem)
  rw [List.idxOf_append_of_notMem hgtu', List.idxOf_append_of_notMem hgtv, List.idxOf_cons_self,
    List.idxOf_cons_self, List.length_drop] at hindex
  rw [List.length_append, List.length_singleton]
  omega

end ComplexityHints.Host
