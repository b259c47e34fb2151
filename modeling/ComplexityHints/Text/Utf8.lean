import ComplexityHints.Text.CodePoint

namespace ComplexityHints.Utf8

abbrev Bytes := List UInt8

def encode (cs : List Char) : Bytes := cs.flatMap String.utf8EncodeChar

/-- The first run of surrogates of a text, as code point indexes `first ≤ last`. -/
structure SurrogateRun where
  first : Nat
  last : Nat
  lead : Fin 2048
deriving DecidableEq, Repr

def leadingSurrogates : Text → Nat
  | .surrogate _ :: rest => leadingSurrogates rest + 1
  | _ => 0

def surrogateRun? (from_ : Nat) : Text → Option SurrogateRun
  | [] => none
  | .scalar _ :: rest => surrogateRun? (from_ + 1) rest
  | .surrogate i :: rest => some ⟨from_, from_ + leadingSurrogates rest, i⟩

def scalars (t : Text) : Except SurrogateRun (List Char) :=
  match t.chars? with
  | some cs => .ok cs
  | none => .error ((surrogateRun? 0 t).getD ⟨0, 0, 0⟩)

inductive Flaw where
  | startByte
  | continuation
  | truncated
deriving DecidableEq, Repr

/-- One step of decoding: a character or a malformed run, with the number of bytes it takes. -/
structure Step where
  outcome : Except Flaw Char
  size : Nat

/-- The range of the second byte that keeps a sequence shortest, inside Unicode and free of
surrogates. -/
def secondRange (lead : Nat) : Nat × Nat :=
  if lead = 0xE0 then (0xA0, 0xBF)
  else if lead = 0xED then (0x80, 0x9F)
  else if lead = 0xF0 then (0x90, 0xBF)
  else if lead = 0xF4 then (0x80, 0x8F)
  else (0x80, 0xBF)

/-- How many continuation bytes a lead byte asks for, and the payload bits it carries. -/
def lead? (b : Nat) : Option (Nat × Nat) :=
  if b < 0x80 then some (0, b)
  else if 0xC2 ≤ b ∧ b < 0xE0 then some (1, b - 0xC0)
  else if 0xE0 ≤ b ∧ b < 0xF0 then some (2, b - 0xE0)
  else if 0xF0 ≤ b ∧ b < 0xF5 then some (3, b - 0xF0)
  else none

/-- Reads `need` continuation bytes; `size` bytes of the sequence are already read. -/
def continue_ (range : Nat × Nat) (value size : Nat) : Nat → Bytes → Step
  | 0, _ => ⟨.ok (Char.ofNat value), size⟩
  | _ + 1, [] => ⟨.error .truncated, size⟩
  | need + 1, b :: rest =>
    if range.1 ≤ b.toNat ∧ b.toNat ≤ range.2 then
      continue_ (0x80, 0xBF) (value * 64 + (b.toNat - 0x80)) (size + 1) need rest
    else ⟨.error .continuation, size⟩

def step (b : UInt8) (rest : Bytes) : Step :=
  match lead? b.toNat with
  | none => ⟨.error .startByte, 1⟩
  | some (need, payload) => continue_ (secondRange b.toNat) payload 1 need rest

/-- The steps that decode a byte sequence, each with the offset of its first byte. `skip` bytes
belong to the step before. -/
def steps (from_ skip : Nat) : Bytes → List (Nat × Step)
  | [] => []
  | b :: rest =>
    match skip with
    | skip + 1 => steps (from_ + 1) skip rest
    | 0 =>
      let s := step b rest
      (from_, s) :: steps (from_ + 1) (s.size - 1) rest

def decodeReplacing (bytes : Bytes) : List Char :=
  (steps 0 0 bytes).map fun (_, s) =>
    match s.outcome with
    | .ok c => c
    | .error _ => '\uFFFD'

structure Malformed where
  flaw : Flaw
  byte : UInt8
  offset : Nat
  size : Nat
deriving DecidableEq, Repr

def decode (bytes : Bytes) : Except Malformed (List Char) :=
  (steps 0 0 bytes).mapM fun (offset, s) =>
    match s.outcome with
    | .ok c => .ok c
    | .error flaw => .error ⟨flaw, bytes.getD offset 0, offset, s.size⟩

/-- The bytes from `start` up to `stop`, clamped to the sequence and empty when they cross. -/
def slice (bytes : Bytes) (start stop : Nat) : Bytes :=
  (bytes.drop start).take (stop - start)

end ComplexityHints.Utf8
