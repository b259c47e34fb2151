import ComplexityHints.Syntax.Script.Statement

namespace ComplexityHints.Syntax.Script

open ComplexityHints.Syntax.Parser

def body (dialect : Dialect) (rule : Goal → Parser Node) (goal : Goal) : Parser Node :=
  let g : Context := ⟨dialect, rule⟩
  match goal with
  | .expression m => expression g m
  | .operators m level => operators g m level
  | .unary m => unary g m
  | .primary m => primary g m
  | .element => element g
  | .pattern => pattern g
  | .type => type g
  | .typeOperand => typeOperand g
  | .resultType => resultType g
  | .statement => statement g
  | .block => block g

def depth (source : List Char) : Nat := 8 * (source.length + 2)

def hashBang : Parser Unit := do
  match (← cursor).rest with
  | '#' :: '!' :: rest => take (lineLength rest + 2)
  | _ => pure ()

def strayBrace : Parser Node := do
  let start ← symbol "\x7d"
  node "ERROR" start []

def program (rule : Goal → Parser Node) : Parser Node := do
  hashBang
  let parts ← many (rule .statement <|> skipped <|> strayBrace)
  node "program" 0 parts

/-- The syntax tree of a text. Tokens that fit nowhere become nodes of their own. -/
def parse (dialect : Dialect) (source : List Char) : Node :=
  match (program (nested (body dialect) (depth source))).run (Cursor.start source) with
  | some (root, _) => root
  | none => .mk "program" 0 0 none true []

end ComplexityHints.Syntax.Script
