import ComplexityHints.Syntax.Node

namespace ComplexityHints.Syntax

/-- A place in a source text: what is left to read, its byte offset, and a bound on repetitions. -/
structure Cursor where
  rest : List Char
  offset : Nat
  limit : Nat
deriving Repr

namespace Cursor

def start (source : List Char) : Cursor := ⟨source, 0, source.length + 1⟩

def advance : Nat → Cursor → Cursor
  | 0, c => c
  | n + 1, c =>
    match c.rest with
    | [] => c
    | ch :: rest => advance n { c with rest, offset := c.offset + ch.utf8Size }

end Cursor

abbrev Parser := StateT Cursor Option

namespace Parser

variable {α β : Type}

def cursor : Parser Cursor := get

def take (n : Nat) : Parser Unit := modify (·.advance n)

def ahead (p : Parser α) : Parser Unit := fun c => (p c).map fun _ => ((), c)

def notAhead (p : Parser α) : Parser Unit := fun c =>
  match p c with
  | some _ => none
  | none => some ((), c)

def optional? (p : Parser α) : Parser (Option α) := fun c =>
  match p c with
  | some (a, rest) => some (some a, rest)
  | none => some (none, c)

def orNil (p : Parser (List α)) : Parser (List α) := fun c => (p c).or (some ([], c))

def accept (p : Parser α) : Parser Bool := fun c =>
  match p c with
  | some (_, rest) => some (true, rest)
  | none => some (false, c)

def guardThat (b : Bool) : Parser Unit := if b then pure () else failure

/-- At most `n` rounds of `p`, each of which reads something. -/
def upTo (p : Parser α) : Nat → Parser (List α)
  | 0 => pure []
  | n + 1 => fun c =>
    match p c with
    | none => some ([], c)
    | some (a, next) =>
      if next.offset = c.offset then some ([a], next)
      else (upTo p n next).map fun (as, last) => (a :: as, last)

def many (p : Parser α) : Parser (List α) := fun c => upTo p c.limit c

def sepBy1 (p : Parser α) (separator : Parser β) : Parser (List α) := do
  let first ← p
  let others ← many (separator *> p)
  return first :: others

def extend (step : α → Parser α) : Nat → α → Parser α
  | 0, a => pure a
  | n + 1, a => fun c =>
    match step a c with
    | none => some (a, c)
    | some (b, next) => if next.offset = c.offset then some (b, next) else extend step n b next

def extendAll (step : α → Parser α) (a : α) : Parser α := fun c => extend step c.limit a c

def node (kind : String) (start : Nat) (children : List Node) : Parser Node := do
  return .mk kind start (← cursor).offset none true children

def around (kind : String) (first : Node) (others : List Node) : Parser Node :=
  node kind first.start (first :: others)

end Parser

/-- The parser of every nonterminal of a grammar, for a nesting of at most `n`. -/
def nested {γ : Type} (body : (γ → Parser Node) → γ → Parser Node) : Nat → γ → Parser Node
  | 0, _ => failure
  | n + 1, goal => body (nested body n) goal

end ComplexityHints.Syntax
