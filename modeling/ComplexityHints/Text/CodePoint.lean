namespace ComplexityHints

/-- A Unicode code point: a scalar value, or the surrogate `0xD800 + index`. -/
inductive CodePoint where
  | scalar (c : Char)
  | surrogate (index : Fin 2048)
deriving DecidableEq, Repr, Inhabited

/-- Document text. Lengths and offsets count code points. -/
abbrev Text := List CodePoint

namespace CodePoint

instance : Coe Char CodePoint := ⟨.scalar⟩

def value : CodePoint → Nat
  | scalar c => c.toNat
  | surrogate i => 0xD800 + i.val

/-- The code point with a given number; numbers past the last one give NUL. -/
def ofNat (n : Nat) : CodePoint :=
  if h : 0xD800 ≤ n ∧ n < 0xE000 then
    .surrogate ⟨n - 0xD800, by omega⟩
  else
    .scalar (Char.ofNat n)

/-- A class of scalar values as a class of code points; no surrogate belongs to it. -/
def satisfies (p : Char → Bool) : CodePoint → Bool
  | scalar c => p c
  | surrogate _ => false

@[simp] theorem satisfies_scalar (p : Char → Bool) (c : Char) : (scalar c).satisfies p = p c := rfl

@[simp] theorem satisfies_surrogate (p : Char → Bool) (i : Fin 2048) :
    (surrogate i).satisfies p = false := rfl

def isTerminator (c : CodePoint) : Bool :=
  c = .scalar '\r' ∨ c = .scalar '\n'

end CodePoint

namespace Text

def ofChars (cs : List Char) : Text := cs.map .scalar

def ofString (s : String) : Text := ofChars s.toList

@[simp] theorem length_ofChars (cs : List Char) : (ofChars cs).length = cs.length := by
  simp [ofChars]

def chars? : Text → Option (List Char)
  | [] => some []
  | .scalar c :: rest => (chars? rest).map (c :: ·)
  | .surrogate _ :: _ => none

@[simp] theorem chars?_ofChars (cs : List Char) : chars? (ofChars cs) = some cs := by
  induction cs with
  | nil => rfl
  | cons c cs ih => simpa [ofChars, chars?] using ih

theorem eq_ofChars_of_chars? {t : Text} {cs : List Char} (h : chars? t = some cs) :
    t = ofChars cs := by
  induction t generalizing cs with
  | nil => simp_all [chars?, ofChars]
  | cons c t ih =>
    cases c with
    | scalar c =>
      obtain ⟨ds, hd, rfl⟩ := Option.map_eq_some_iff.1 h
      simp [ofChars, ih hd]
    | surrogate i => simp [chars?] at h

end Text

end ComplexityHints
