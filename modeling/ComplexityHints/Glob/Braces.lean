import ComplexityHints.Text.Digit

namespace ComplexityHints.Glob

def consItem (c : Char) : List (List Char) → List (List Char)
  | [] => [[c]]
  | item :: items => (c :: item) :: items

/-- The comma-separated items of a group whose opening brace is already read, and what follows its
closing brace. `depth` counts the inner groups that are open. -/
def groupItems : Nat → List Char → Option (List (List Char) × List Char)
  | _, [] => none
  | depth, '\\' :: c :: rest =>
    (groupItems depth rest).map fun (items, after) => (consItem '\\' (consItem c items), after)
  | depth, c :: rest =>
    if c = '{' then
      (groupItems (depth + 1) rest).map fun (items, after) => (consItem c items, after)
    else if c = '}' then
      match depth with
      | 0 => some ([[]], rest)
      | depth + 1 => (groupItems depth rest).map fun (items, after) => (consItem c items, after)
    else if c = ',' ∧ depth = 0 then
      (groupItems depth rest).map fun (items, after) => ([] :: items, after)
    else
      (groupItems depth rest).map fun (items, after) => (consItem c items, after)

def bound? (s : List Char) : Option (Int × List Char) :=
  let (negative, s) := match s with
    | '-' :: rest => (true, rest)
    | _ => (false, s)
  let digits := s.takeWhile isDigit
  if digits.isEmpty then none
  else
    let n : Int := numeral digits
    some (if negative then -n else n, s.dropWhile isDigit)

/-- The ends of a range `m..n`. One final line feed is allowed. -/
def range? (s : List Char) : Option (Int × Int) :=
  match bound? s with
  | some (first, '.' :: '.' :: rest) =>
    match bound? rest with
    | some (last, []) | some (last, ['\n']) => some (first, last)
    | _ => none
  | _ => none

def numbers (first last : Int) : List Int :=
  (List.range ((last - first).natAbs + 1)).map fun (k : Nat) =>
    if first ≤ last then first + k else first - k

/-- What a group stands for: its items if there are several, else its range of numbers. -/
def alternatives? : List (List Char) → Option (List (List Char))
  | [item] => (range? item).map fun (first, last) =>
      (numbers first last).map decimalChars
  | items => some items

/-- A group inside a pattern: what stands before it, its alternatives, what stands after it. -/
structure Group where
  before : List Char
  choices : List (List Char)
  after : List Char

namespace Group

def cons (c : Char) (g : Group) : Group := { g with before := c :: g.before }

end Group

def groupAt? (s : List Char) : Option (List (List Char) × List Char) := do
  let (items, after) ← groupItems 0 s
  let choices ← alternatives? items
  return (choices, after)

def firstGroup? : List Char → Option Group
  | [] => none
  | '\\' :: c :: rest => (firstGroup? rest).map fun g => (g.cons c).cons '\\'
  | c :: rest =>
    match if c = '{' then groupAt? rest else none with
    | some (choices, after) => some ⟨[], choices, after⟩
    | none => (firstGroup? rest).map (Group.cons c)

def braces (s : List Char) : Nat := s.count '{'

theorem flatten_consItem (c : Char) (items : List (List Char)) :
    (consItem c items).flatten = c :: items.flatten := by
  cases items <;> simp [consItem]

theorem braces_groupItems {depth : Nat} {s after : List Char} {items : List (List Char)}
    (h : groupItems depth s = some (items, after)) :
    braces items.flatten + braces after ≤ braces s := by
  fun_induction groupItems depth s generalizing items after <;>
    simp only [Option.map_eq_some_iff, Prod.exists, Prod.mk.injEq, Option.some.injEq,
      reduceCtorEq] at h <;>
    grind [braces, flatten_consItem]

theorem braces_le_of_mem_groupItems {s after item : List Char} {items : List (List Char)}
    (h : groupItems 0 s = some (items, after)) (hi : item ∈ items) :
    braces item + braces after ≤ braces s := by
  have total := braces_groupItems h
  have part : braces item ≤ braces items.flatten :=
    (List.sublist_flatten_of_mem hi).count_le _
  omega

theorem braces_decimalChars (n : Int) : braces (decimalChars n) = 0 := by
  refine List.count_eq_zero.2 fun h => ?_
  rcases isDigit_or_minus_of_mem_decimalChars h with h | h <;> revert h <;> decide

theorem braces_le_of_mem_groupAt? {s after choice : List Char} {choices : List (List Char)}
    (h : groupAt? s = some (choices, after)) (hc : choice ∈ choices) :
    braces choice + braces after ≤ braces s := by
  simp only [groupAt?, Option.bind_eq_bind, Option.bind_eq_some_iff, Option.pure_def, Prod.exists,
    Option.some.injEq, Prod.mk.injEq] at h
  obtain ⟨items, _, hg, _, ha, rfl, rfl⟩ := h
  unfold alternatives? at ha
  split at ha
  · obtain ⟨⟨first, last⟩, _, rfl⟩ := Option.map_eq_some_iff.1 ha
    obtain ⟨n, _, rfl⟩ := List.mem_map.1 hc
    have := braces_groupItems hg
    rw [braces_decimalChars]
    omega
  · cases ha
    exact braces_le_of_mem_groupItems hg hc

/-- Replacing a group by one of its alternatives removes its opening brace. -/
theorem braces_lt_of_firstGroup? {s : List Char} {g : Group} (h : firstGroup? s = some g)
    {choice : List Char} (hc : choice ∈ g.choices) :
    braces (g.before ++ (choice ++ g.after)) < braces s := by
  fun_induction firstGroup? s generalizing g with
  | case1 => simp at h
  | case2 c rest ih =>
    obtain ⟨g, hg, rfl⟩ := Option.map_eq_some_iff.1 h
    have := ih hg hc
    simp only [Group.cons, braces, List.cons_append, List.count_cons] at *
    omega
  | case3 c rest _ choices after hg =>
    cases h
    by_cases hb : c = '{'
    · rw [if_pos hb] at hg
      have := braces_le_of_mem_groupAt? hg hc
      simp only [braces, List.nil_append, List.count_append, List.count_cons, hb, beq_self_eq_true,
        if_true] at *
      omega
    · simp [hb] at hg
  | case4 c rest _ _ ih =>
    obtain ⟨g, hg, rfl⟩ := Option.map_eq_some_iff.1 h
    have := ih hg hc
    simp only [Group.cons, braces, List.cons_append, List.count_cons] at *
    omega

def expandChars (s : List Char) : List (List Char) :=
  match h : firstGroup? s with
  | none => [s]
  | some g => g.choices.attach.flatMap fun ⟨choice, hc⟩ =>
      have := braces_lt_of_firstGroup? h hc
      expandChars (g.before ++ (choice ++ g.after))
termination_by braces s

def expand (pattern : String) : List String :=
  (expandChars pattern.toList).map String.ofList

end ComplexityHints.Glob
