import ComplexityHints.Score.Walk

namespace ComplexityHints.Score.Lua

open Syntax

def statement? : String → Option (LuaConstruct × String)
  | "if_statement" => some (.ifStatement, "if")
  | "elseif_statement" => some (.elseifClause, "elseif")
  | "else_statement" => some (.elseClause, "else")
  | "while_statement" => some (.whileStatement, "while")
  | "for_statement" => some (.forStatement, "for")
  | "repeat_statement" => some (.repeatStatement, "repeat")
  | "goto_statement" => some (.gotoStatement, "goto")
  | "break_statement" => some (.breakStatement, "break")
  | _ => none

/-- The operator of a binary expression: its first anonymous child. -/
def operator (n : Node) : String :=
  match n.children.find? (!·.named) with
  | some token => token.kind
  | none => ""

def title (source : Utf8.Bytes) (n : Node) : String :=
  match n.childInField? "name" with
  | some name => "function " ++ name.text source
  | none => "function"

def rules (source : Utf8.Bytes) : Rules LuaConstruct := fun _ n =>
  if n.kind = "function_declaration" ∨ n.kind = "function_definition" then
    some ⟨.functionDeclaration, "function", title source n, true⟩
  else
    match statement? n.kind with
    | some (construct, label) => some ⟨construct, label, label, false⟩
    | none =>
      if n.kind = "binary_expression" ∧ (operator n = "and" ∨ operator n = "or") then
        some ⟨.logicalOperator, operator n, operator n, false⟩
      else none

end ComplexityHints.Score.Lua
