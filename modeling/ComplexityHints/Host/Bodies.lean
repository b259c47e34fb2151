import ComplexityHints.Text.Space
import ComplexityHints.Text.Word

namespace ComplexityHints.Host

/-- Whether a code point spells a lower-case letter when case is ignored. The long s counts as s,
the dotted capital and the dotless small i as i. -/
def spells (letter : Char) : CodePoint → Bool
  | .surrogate _ => false
  | .scalar c =>
    c.toLower = letter || (letter = 's' && c = 'ſ') || (letter = 'i' && (c = 'ı' || c = 'İ'))

def afterWord? : List Char → Text → Option Text
  | [], t => some t
  | letter :: letters, c :: rest => if spells letter c then afterWord? letters rest else none
  | _ :: _, [] => none

def scriptWord : List Char := ['s', 'c', 'r', 'i', 'p', 't']

inductive Tag where
  | opening (selfClosing : Bool)
  | closing
deriving DecidableEq, Repr

def opening? (t : Text) : Option (Tag × Text) :=
  match afterWord? scriptWord t with
  | some (c :: rest) =>
    if c.satisfies isWord then none
    else
      let attributes := (c :: rest).takeWhile (· ≠ .scalar '>')
      match (c :: rest).dropWhile (· ≠ .scalar '>') with
      | [] => none
      | _ :: after =>
        some (.opening ((Text.trimRight attributes).getLast? = some (CodePoint.scalar '/')), after)
  | _ => none

def closing? : Text → Option (Tag × Text)
  | .scalar '/' :: rest =>
    match afterWord? scriptWord rest with
    | some tail =>
      match tail.dropWhile (·.satisfies isSpace) with
      | .scalar '>' :: after => some (.closing, after)
      | _ => none
    | none => none
  | _ => none

def tagAt? : Text → Option (Tag × Nat)
  | .scalar '<' :: rest =>
    ((opening? rest).or (closing? rest)).map fun (tag, after) =>
      (tag, rest.length + 1 - after.length)
  | _ => none

structure PlacedTag where
  tag : Tag
  start : Nat
  stop : Nat
deriving DecidableEq, Repr

/-- The tags of a text that starts at offset `from_`; its first `skip` code points belong to a tag
already found. -/
def tags (from_ skip : Nat) : Text → List PlacedTag
  | [] => []
  | c :: rest =>
    match skip with
    | skip + 1 => tags (from_ + 1) skip rest
    | 0 =>
      match tagAt? (c :: rest) with
      | some (tag, size) => ⟨tag, from_, from_ + size⟩ :: tags (from_ + 1) (size - 1) rest
      | none => tags (from_ + 1) 0 rest

structure Span where
  start : Nat
  stop : Nat
deriving DecidableEq, Repr

/-- The bodies between tags. `open_` is the start of the body that is open; tags that open another
are part of it. An unclosed body runs to the end. -/
def bodiesOf (length : Nat) (open_ : Option Nat) : List PlacedTag → List Span
  | [] =>
    match open_ with
    | some start => [⟨start, length⟩]
    | none => []
  | t :: ts =>
    match open_, t.tag with
    | none, .opening false => bodiesOf length (some t.stop) ts
    | some start, .closing => ⟨start, t.start⟩ :: bodiesOf length none ts
    | _, _ => bodiesOf length open_ ts

def bodies (t : Text) : List Span := bodiesOf t.length none (tags 0 0 t)

end ComplexityHints.Host
