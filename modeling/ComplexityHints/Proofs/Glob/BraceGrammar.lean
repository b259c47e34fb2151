import ComplexityHints.Proofs.Glob.Expansion
import Mathlib.Data.Int.Range
import Mathlib.Data.Nat.Digits.Defs
import Mathlib.Tactic

namespace ComplexityHints.Glob

/-- An integer as a pattern writes it: decimal digits behind an optional minus sign. -/
structure Numeral where
  negative : Bool
  digits : List Char
  digits_ne_nil : digits ≠ []
  isDigit_of_mem : ∀ c ∈ digits, isDigit c = true

namespace Numeral

def text (n : Numeral) : List Char := if n.negative then '-' :: n.digits else n.digits

def magnitude (n : Numeral) : Nat :=
  Nat.ofDigits 10 (n.digits.reverse.map fun c => (digitValue? c).getD 0)

def value (n : Numeral) : Int := if n.negative then -n.magnitude else n.magnitude

end Numeral

def inclusive (first last : Int) : List Int :=
  if first ≤ last then Int.range first (last + 1) else (Int.range last (first + 1)).reverse

mutual

/-- A pattern with braces, a sequence of parts. `inside` tells that it is an item of a group, where a
comma is no literal. -/
inductive Pattern : (inside : Bool) → Type
  | nil {inside : Bool} : Pattern inside
  | cons {inside : Bool} (part : Part inside) (rest : Pattern inside) : Pattern inside

inductive Part : (inside : Bool) → Type
  | literal {inside : Bool} (c : Char) (plain : c ∉ ['{', '}', '\\'])
      (comma : inside = true → c ≠ ',') : Part inside
  | escaped {inside : Bool} (c : Char) : Part inside
  | group {inside : Bool} (items : Items) : Part inside
  | range {inside : Bool} (first last : Numeral) : Part inside

inductive Items : Type
  | two (first second : Pattern true)
  | cons (first : Pattern true) (others : Items)

end

mutual

def Pattern.text {inside : Bool} : Pattern inside → List Char
  | .nil => []
  | .cons part rest => part.text ++ rest.text

def Part.text {inside : Bool} : Part inside → List Char
  | .literal c _ _ => [c]
  | .escaped c => ['\\', c]
  | .group items => '{' :: (items.text ++ ['}'])
  | .range first last => '{' :: (first.text ++ '.' :: '.' :: last.text ++ ['}'])

def Items.text : Items → List Char
  | .two first second => first.text ++ ',' :: second.text
  | .cons first others => first.text ++ ',' :: others.text

end

mutual

/-- The texts that a pattern stands for: those of its parts put together, where the first part varies
slowest. -/
def Pattern.denotation {inside : Bool} : Pattern inside → List (List Char)
  | .nil => [[]]
  | .cons part rest => part.denotation.flatMap fun front => rest.denotation.map (front ++ ·)

def Part.denotation {inside : Bool} : Part inside → List (List Char)
  | .literal c _ _ => [[c]]
  | .escaped c => [['\\', c]]
  | .group items => items.denotation
  | .range first last => (inclusive first.value last.value).map decimalChars

def Items.denotation : Items → List (List Char)
  | .two first second => first.denotation ++ second.denotation
  | .cons first others => first.denotation ++ others.denotation

end

def Items.texts : Items → List (List Char)
  | .two first second => [first.text, second.text]
  | .cons first others => first.text :: others.texts

section Ranges

theorem numeral_eq_ofDigits (digits : List Char) :
    numeral digits = Nat.ofDigits 10 (digits.reverse.map fun c => (digitValue? c).getD 0) := by
  induction digits using List.reverseRecOn with
  | nil => rfl
  | append_singleton digits c ih =>
    unfold numeral at ih ⊢
    rw [List.foldl_append, ih]
    simp [Nat.ofDigits_cons, add_comm]

theorem Numeral.numeral_digits (n : Numeral) : numeral n.digits = n.magnitude :=
  numeral_eq_ofDigits n.digits

theorem numbers_eq_inclusive (first last : Int) : numbers first last = inclusive first last := by
  unfold numbers inclusive Int.range
  split
  · have hlength : (last - first).natAbs + 1 = (last + 1 - first).toNat := by omega
    rw [hlength]
  · have hlength : (last - first).natAbs + 1 = (first + 1 - last).toNat := by omega
    rw [hlength]
    apply List.ext_getElem
    · simp
    · intro i h₁ h₂
      simp at h₁ h₂ ⊢
      omega

theorem bound?_text (n : Numeral) (rest : List Char)
    (h : ∀ c ∈ rest.head?, isDigit c = false) :
    bound? (n.text ++ rest) = some (n.value, rest) := by
  have hstop : rest.takeWhile isDigit = [] ∧ rest.dropWhile isDigit = rest := by
    cases rest with
    | nil => simp
    | cons c rest => simp [h c rfl]
  have htake : (n.digits ++ rest).takeWhile isDigit = n.digits := by
    rw [List.takeWhile_append_of_pos n.isDigit_of_mem, hstop.1, List.append_nil]
  have hdrop : (n.digits ++ rest).dropWhile isDigit = rest := by
    rw [List.dropWhile_append_of_pos n.isDigit_of_mem, hstop.2]
  have hne : n.digits.isEmpty = false := by simpa using n.digits_ne_nil
  -- a digit is no minus sign, so the sign is read from a negative numeral only
  have hsign : ∀ tail, n.digits ++ rest ≠ '-' :: tail := by
    intro tail heq
    obtain ⟨d, ds, hds⟩ := List.exists_cons_of_ne_nil n.digits_ne_nil
    have hd : isDigit d = true := n.isDigit_of_mem d (by simp [hds])
    have hminus : isDigit '-' = false := by decide
    rw [hds] at heq
    rw [(List.cons.inj heq).1, hminus] at hd
    contradiction
  unfold bound? Numeral.text Numeral.value
  cases n.negative with
  | true => simp [htake, hdrop, hne, n.numeral_digits]
  | false => simp [htake, hdrop, hne, n.numeral_digits]

theorem range?_text (first last : Numeral) :
    range? (first.text ++ '.' :: '.' :: last.text) = some (first.value, last.value) := by
  have hdot : isDigit '.' = false := by decide
  have hfirst := bound?_text first ('.' :: '.' :: last.text) (by simp [hdot])
  have hlast := bound?_text last [] (by simp)
  rw [List.append_nil] at hlast
  rw [range?, hfirst]
  simp only [hlast]

end Ranges

section Reading

variable {depth : Nat} {t w : List Char}

theorem groupItems_open (rest : List Char) : groupItems depth ('{' :: rest) =
    (groupItems (depth + 1) rest).map fun (items, after) => (consItem '{' items, after) := by
  cases depth <;> simp [groupItems]

theorem groupItems_close (rest : List Char) : groupItems (depth + 1) ('}' :: rest) =
    (groupItems depth rest).map fun (items, after) => (consItem '}' items, after) := by
  simp [groupItems]

theorem groupItems_char {c : Char} (hc : c ∉ ['{', '}', '\\']) (hcomma : c = ',' → depth ≠ 0)
    (rest : List Char) : groupItems depth (c :: rest) =
      (groupItems depth rest).map fun (items, after) => (consItem c items, after) := by
  simp only [List.mem_cons, List.not_mem_nil, or_false, not_or] at hc
  cases depth with
  | zero =>
    have hne : c ≠ ',' := fun h => hcomma h rfl
    simp [groupItems, hc, hne]
  | succ depth => simp [groupItems, hc]

/-- Text that becomes part of the first item unchanged when the items of a group are read. -/
def Kept (depth : Nat) (t : List Char) : Prop :=
  ∀ rest, groupItems depth (t ++ rest) =
    (groupItems depth rest).map fun (items, after) => (t.foldr consItem items, after)

theorem kept_nil : Kept depth [] := by
  intro rest
  simp

theorem Kept.append (ht : Kept depth t) (hw : Kept depth w) : Kept depth (t ++ w) := by
  intro rest
  rw [List.append_assoc, ht, hw, Option.map_map]
  simp [Function.comp_def]

theorem kept_char {c : Char} (hc : c ∉ ['{', '}', '\\']) (hcomma : c = ',' → depth ≠ 0) :
    Kept depth [c] :=
  groupItems_char hc hcomma

theorem kept_escaped (c : Char) : Kept depth ['\\', c] := by
  intro rest
  simp [groupItems]

theorem Kept.braced (h : Kept (depth + 1) t) : Kept depth ('{' :: (t ++ ['}'])) := by
  intro rest
  have hinner := h ('}' :: rest)
  rw [groupItems_close, Option.map_map] at hinner
  rw [List.cons_append, List.append_assoc, List.singleton_append, groupItems_open, hinner,
    Option.map_map]
  simp [Function.comp_def]

theorem kept_of_forall (h : ∀ c ∈ t, c ∉ ['{', '}', '\\'] ∧ c ≠ ',') : Kept depth t := by
  induction t with
  | nil => exact kept_nil
  | cons c t ih =>
    obtain ⟨hc, ht⟩ := List.forall_mem_cons.1 h
    have hfirst : Kept depth [c] := kept_char hc.1 fun hcomma => absurd hcomma hc.2
    exact hfirst.append (ih ht)

theorem Numeral.isDigit_or_minus_of_mem_text {n : Numeral} {c : Char} (h : c ∈ n.text) :
    isDigit c = true ∨ c = '-' := by
  unfold Numeral.text at h
  split at h
  · rcases List.mem_cons.1 h with rfl | h
    · exact .inr rfl
    · exact .inl (n.isDigit_of_mem c h)
  · exact .inl (n.isDigit_of_mem c h)

theorem kept_range (first last : Numeral) :
    Kept depth (first.text ++ '.' :: '.' :: last.text) := by
  have hdigit {c : Char} (h : isDigit c = true) : c ∉ ['{', '}', '\\'] ∧ c ≠ ',' := by
    refine ⟨?_, ?_⟩
    · intro hc
      simp only [List.mem_cons, List.not_mem_nil, or_false] at hc
      rcases hc with rfl | rfl | rfl <;> revert h <;> decide
    · rintro rfl
      revert h
      decide
  have hnumeral {n : Numeral} {c : Char} (h : c ∈ n.text) : c ∉ ['{', '}', '\\'] ∧ c ≠ ',' := by
    rcases n.isDigit_or_minus_of_mem_text h with h | rfl
    · exact hdigit h
    · decide
  apply kept_of_forall
  intro c hc
  simp only [List.mem_append, List.mem_cons] at hc
  rcases hc with hc | rfl | rfl | hc
  · exact hnumeral hc
  · decide
  · decide
  · exact hnumeral hc

mutual

theorem Pattern.kept_text : ∀ (p : Pattern true) (depth : Nat), Kept depth p.text
  | .nil, depth => kept_nil
  | .cons part rest, depth => (part.kept_text depth).append (rest.kept_text depth)

theorem Part.kept_text : ∀ (part : Part true) (depth : Nat), Kept depth part.text
  | .literal c plain comma, depth => kept_char plain fun h => absurd h (comma rfl)
  | .escaped c, depth => kept_escaped c
  | .group items, depth => (items.kept_text depth).braced
  | .range first last, depth => (kept_range first last).braced

theorem Items.kept_text : ∀ (items : Items) (depth : Nat), Kept (depth + 1) items.text
  | .two first second, depth => by
    have hcomma : Kept (depth + 1) [','] := kept_char (by decide) (by simp)
    have hsecond := hcomma.append (second.kept_text (depth + 1))
    exact (first.kept_text (depth + 1)).append hsecond
  | .cons first others, depth => by
    have hcomma : Kept (depth + 1) [','] := kept_char (by decide) (by simp)
    have hothers := hcomma.append (others.kept_text depth)
    exact (first.kept_text (depth + 1)).append hothers

end

theorem foldr_consItem (t item : List Char) (items : List (List Char)) :
    t.foldr consItem (item :: items) = (t ++ item) :: items := by
  induction t with
  | nil => rfl
  | cons c t ih => rw [List.foldr_cons, ih, consItem, List.cons_append]

theorem Kept.groupItems_last (h : Kept 0 t) (rest : List Char) :
    groupItems 0 (t ++ '}' :: rest) = some ([t], rest) := by
  have hclose : groupItems 0 ('}' :: rest) = some ([[]], rest) := by simp [groupItems]
  rw [h, hclose]
  simp [foldr_consItem]

theorem Kept.groupItems_next (h : Kept 0 t) (rest : List Char) :
    groupItems 0 (t ++ ',' :: rest) =
      (groupItems 0 rest).map fun (items, after) => (t :: items, after) := by
  have hcomma : groupItems 0 (',' :: rest) =
      (groupItems 0 rest).map fun (items, after) => ([] :: items, after) := by
    simp [groupItems]
  rw [h, hcomma, Option.map_map]
  simp [Function.comp_def, foldr_consItem]

theorem groupItems_items : ∀ (items : Items) (rest : List Char),
    groupItems 0 (items.text ++ '}' :: rest) = some (items.texts, rest)
  | .two first second, rest => by
    have hlast := (second.kept_text 0).groupItems_last rest
    have hnext := (first.kept_text 0).groupItems_next (second.text ++ '}' :: rest)
    rw [hlast] at hnext
    rw [Items.text, List.append_assoc]
    exact hnext
  | .cons first others, rest => by
    have hnext := (first.kept_text 0).groupItems_next (others.text ++ '}' :: rest)
    rw [groupItems_items others rest] at hnext
    rw [Items.text, List.append_assoc]
    exact hnext

theorem alternatives?_texts (items : Items) : alternatives? items.texts = some items.texts := by
  cases items with
  | two first second => rfl
  | cons first others => cases others <;> rfl

theorem groupAt?_items (items : Items) (rest : List Char) :
    groupAt? (items.text ++ '}' :: rest) = some (items.texts, rest) := by
  rw [groupAt?, groupItems_items]
  simp [alternatives?_texts]

theorem groupAt?_range (first last : Numeral) (rest : List Char) :
    groupAt? (first.text ++ '.' :: '.' :: last.text ++ '}' :: rest) =
      some ((inclusive first.value last.value).map decimalChars, rest) := by
  have hread := (kept_range first last).groupItems_last rest
  rw [groupAt?, hread]
  simp [alternatives?, range?_text, numbers_eq_inclusive]

end Reading

section Expanding

variable {u v w : List Char}

/-- Text without an opening brace that counts, and with whole escapes. -/
inductive Flat : List Char → Prop
  | nil : Flat []
  | char {c : Char} {u : List Char} (hopen : c ≠ '{') (hescape : c ≠ '\\') (h : Flat u) :
      Flat (c :: u)
  | escaped {u : List Char} (c : Char) (h : Flat u) : Flat ('\\' :: c :: u)

theorem Flat.append (hu : Flat u) (hv : Flat v) : Flat (u ++ v) := by
  induction hu with
  | nil => exact hv
  | char hopen hescape _ ih => exact .char hopen hescape ih
  | escaped c _ ih => exact .escaped c ih

theorem Flat.firstGroup?_append (hu : Flat u) (s : List Char) :
    firstGroup? (u ++ s) = (firstGroup? s).map fun g => { g with before := u ++ g.before } := by
  induction hu with
  | nil => simp
  | char hopen hescape _ ih =>
    rw [List.cons_append, firstGroup?, if_neg hopen, ih]
    · simp [Group.cons, Function.comp_def]
    · simp [hescape]
  | escaped c _ ih =>
    rw [List.cons_append, List.cons_append, firstGroup?, ih]
    simp [Group.cons, Function.comp_def]

theorem Flat.firstGroup?_eq_none (hu : Flat u) : firstGroup? u = none := by
  have h := hu.firstGroup?_append []
  rw [List.append_nil] at h
  rw [h]
  rfl

theorem Flat.expandChars_eq (hu : Flat u) : expandChars u = [u] :=
  expandChars_of_none hu.firstGroup?_eq_none

theorem Flat.expandChars_group {s : List Char} {choices : List (List Char)} (hu : Flat u)
    (h : groupAt? s = some (choices, v)) :
    expandChars (u ++ '{' :: s) = choices.flatMap fun choice => expandChars (u ++ (choice ++ v)) := by
  have hopen : firstGroup? ('{' :: s) = some ⟨[], choices, v⟩ := by
    rw [firstGroup?, if_pos rfl, h]
    simp
  have hfirst := hu.firstGroup?_append ('{' :: s)
  rw [hopen] at hfirst
  rw [expandChars_of_some hfirst]
  simp

theorem flat_of_forall (h : ∀ c ∈ u, c ≠ '{' ∧ c ≠ '\\') : Flat u := by
  induction u with
  | nil => exact .nil
  | cons c u ih =>
    obtain ⟨hc, hu⟩ := List.forall_mem_cons.1 h
    exact .char hc.1 hc.2 (ih hu)

theorem flat_decimalChars (n : Int) : Flat (decimalChars n) := by
  apply flat_of_forall
  intro c hc
  rcases isDigit_or_minus_of_mem_decimalChars hc with h | rfl
  · constructor <;> rintro rfl <;> revert h <;> decide
  · decide

mutual

theorem Pattern.flat_of_mem {inside : Bool} :
    ∀ (p : Pattern inside), ∀ d ∈ p.denotation, Flat d
  | .nil, d, h => by
    rw [List.mem_singleton.1 h]
    exact .nil
  | .cons part rest, d, h => by
    obtain ⟨front, hfront, hd⟩ := List.mem_flatMap.1 h
    obtain ⟨back, hback, rfl⟩ := List.mem_map.1 hd
    exact (part.flat_of_mem front hfront).append (rest.flat_of_mem back hback)

theorem Part.flat_of_mem {inside : Bool} :
    ∀ (part : Part inside), ∀ d ∈ part.denotation, Flat d
  | .literal c plain comma, d, h => by
    simp only [List.mem_cons, List.not_mem_nil, or_false, not_or] at plain
    rw [List.mem_singleton.1 h]
    exact .char plain.1 plain.2.2 .nil
  | .escaped c, d, h => by
    rw [List.mem_singleton.1 h]
    exact .escaped c .nil
  | .group items, d, h => items.flat_of_mem d h
  | .range first last, d, h => by
    obtain ⟨n, -, rfl⟩ := List.mem_map.1 h
    exact flat_decimalChars n

theorem Items.flat_of_mem : ∀ (items : Items), ∀ d ∈ items.denotation, Flat d
  | .two first second, d, h => by
    rcases List.mem_append.1 h with h | h
    · exact first.flat_of_mem d h
    · exact second.flat_of_mem d h
  | .cons first others, d, h => by
    rcases List.mem_append.1 h with h | h
    · exact first.flat_of_mem d h
    · exact others.flat_of_mem d h

end

mutual

/-- Behind flat text a pattern may be replaced by each of the texts that it stands for, whatever
comes after it. -/
theorem Pattern.expandChars_text {inside : Bool} : ∀ (p : Pattern inside) (u v : List Char),
    Flat u → expandChars (u ++ (p.text ++ v)) =
      p.denotation.flatMap fun d => expandChars (u ++ (d ++ v))
  | .nil, u, v, hu => by simp [Pattern.text, Pattern.denotation]
  | .cons part rest, u, v, hu => by
    rw [Pattern.text, Pattern.denotation, List.append_assoc, part.expandChars_text u _ hu,
      List.flatMap_assoc]
    apply List.flatMap_congr
    intro front hfront
    have hflat : Flat (u ++ front) := hu.append (part.flat_of_mem front hfront)
    rw [← List.append_assoc, rest.expandChars_text _ v hflat, List.flatMap_map]
    simp

theorem Part.expandChars_text {inside : Bool} : ∀ (part : Part inside) (u v : List Char),
    Flat u → expandChars (u ++ (part.text ++ v)) =
      part.denotation.flatMap fun d => expandChars (u ++ (d ++ v))
  | .literal c plain comma, u, v, hu => by simp [Part.text, Part.denotation]
  | .escaped c, u, v, hu => by simp [Part.text, Part.denotation]
  | .group items, u, v, hu => by
    rw [Part.text, Part.denotation, List.cons_append, List.append_assoc, List.singleton_append,
      hu.expandChars_group (groupAt?_items items v), items.expandChars_texts u v hu]
  | .range first last, u, v, hu => by
    rw [Part.text, Part.denotation, List.cons_append, List.append_assoc, List.singleton_append,
      hu.expandChars_group (groupAt?_range first last v)]

theorem Items.expandChars_texts : ∀ (items : Items) (u v : List Char), Flat u →
    (items.texts.flatMap fun item => expandChars (u ++ (item ++ v))) =
      items.denotation.flatMap fun d => expandChars (u ++ (d ++ v))
  | .two first second, u, v, hu => by
    simp [Items.texts, Items.denotation, first.expandChars_text u v hu,
      second.expandChars_text u v hu]
  | .cons first others, u, v, hu => by
    simp [Items.texts, Items.denotation, first.expandChars_text u v hu,
      others.expandChars_texts u v hu]

end

end Expanding

/-- Expansion gives what a pattern of the grammar stands for, in order. -/
theorem expand_text_eq_denotation (p : Pattern false) :
    expand (String.ofList p.text) = p.denotation.map String.ofList := by
  have htext := p.expandChars_text [] [] .nil
  simp only [List.nil_append, List.append_nil] at htext
  have hflat : p.denotation.flatMap expandChars = p.denotation.flatMap fun d => [d] :=
    List.flatMap_congr fun d hd => (p.flat_of_mem d hd).expandChars_eq
  rw [expand, String.toList_ofList, htext, hflat, List.flatMap_singleton']

example : expand "\x7ba,\\,\x7b2..1\x7d\x7d!" = ["a!", "\\,2!", "\\,1!"] := by decide +kernel

end ComplexityHints.Glob
