import ComplexityHints.Syntax.Script.Token

namespace ComplexityHints.Syntax.Script

open ComplexityHints.Syntax.Parser

inductive Dialect where
  | javascript
  | typescript
  | tsx
deriving DecidableEq, Repr

namespace Dialect

def typed : Dialect → Bool
  | javascript => false
  | typescript | tsx => true

end Dialect

/-- How the place of an expression limits it. -/
structure Mode where
  /-- The statement can end behind the expression, so a line end may stop it. -/
  lineEnds : Bool
  /-- The word `in` belongs to the head of a loop. -/
  noIn : Bool
  /-- A colon belongs to a conditional, not to the result type of an arrow function. -/
  noResultType : Bool
deriving DecidableEq, Repr

namespace Mode

def enclosed : Mode := ⟨false, false, false⟩

def last : Mode := ⟨true, false, false⟩

/-- Whether a token continues an expression of this mode only on the same line. -/
def allows (m : Mode) (l : Lexeme) : Bool := !(m.lineEnds && l.lineBefore)

end Mode

/-- The nonterminals through which the grammar recurs. -/
inductive Goal where
  | expression (m : Mode)
  | operators (m : Mode) (level : Nat)
  | unary (m : Mode)
  | primary (m : Mode)
  | element
  | pattern
  | type
  | typeOperand
  | resultType
  | statement
  | block
deriving Repr

/-- The grammar of a dialect, closed under its own nonterminals. -/
structure Context where
  dialect : Dialect
  rule : Goal → Parser Node

variable (g : Context)

def ifTyped (p : Parser (List Node)) : Parser (List Node) :=
  if g.dialect.typed then orNil p else pure []

def commaList (item : Parser Node) : Parser (List Node) :=
  orNil (sepBy1 item (symbol ",")) <* optional? (symbol ",")

def sequence (m : Mode) : Parser Node := do
  let items ← sepBy1 (g.rule (.expression m)) (symbol ",")
  match items with
  | [] => failure
  | [item] => return item
  | first :: others => around "sequence_expression" first others

def parenthesized : Parser Node := do
  let start ← symbol "("
  let inner ← sequence g .enclosed
  let type ← ifTyped g (symbol ":" *> (g.rule .type).map ([·]))
  let _ ← symbol ")"
  node "parenthesized_expression" start (inner :: type)

def spread : Parser Node := do
  let start ← symbol "..."
  let value ← g.rule (.expression .enclosed)
  node "spread_element" start [value]

def arguments : Parser Node := do
  let start ← symbol "("
  let items ← commaList (spread g <|> g.rule (.expression .enclosed))
  let _ ← symbol ")"
  node "arguments" start items

def typeArguments : Parser Node := do
  let start ← char '<'
  let items ← commaList (g.rule .type)
  guardThat !items.isEmpty
  let _ ← char '>'
  node "type_arguments" start items

def typeClause : Parser (List Node) := do
  let start ← symbol ":"
  let type ← g.rule .type
  return [← node "type_annotation" start [type]]

def resultClause : Parser (List Node) := do
  let start ← symbol ":"
  let type ← g.rule .resultType
  return [← node "type_annotation" start [type]]

def initializer (m : Mode) : Parser Node := symbol "=" *> g.rule (.expression m)

/-- Whether a word is followed by nothing that belongs to it. -/
def endsWord (rest : List Char) : Bool := !(rest.head?.any Char.isAlpha)

/-- Whether a text on a new line starts a statement of its own rather than going on with the one
before it. An opening bracket goes on with a value, and in untyped text with anything. -/
def startsAnew (d : Dialect) (afterValue : Bool) : List Char → Bool
  | [] => true
  | '.' :: rest => !d.typed && rest.head?.any Char.isDigit
  | '+' :: rest => rest.head? = some '+'
  | '-' :: rest => rest.head? = some '-'
  | '!' :: rest => rest.head? ≠ some '='
  | '(' :: _ | '[' :: _ => d.typed && !afterValue
  | 'i' :: 'n' :: rest =>
    !(endsWord rest || ("stanceof".toList.isPrefixOf rest && endsWord (rest.drop 8)))
  | c :: _ => !"`,:;*%><=?^|&/".toList.contains c

/-- Fails where a line end closes a statement whose keyword may stand alone. -/
def continuesLine (m : Mode) (afterValue : Bool) : Parser Unit := do
  let l ← peek
  guardThat (m.allows l || !startsAnew g.dialect afterValue l.source)

/-- The end of a statement: a semicolon, or nothing at a line end or closing brace. -/
def semicolon : Parser Unit := do
  let _ ← optional? (symbol ";")

end ComplexityHints.Syntax.Script
