import ComplexityHints.Score.Walk

namespace ComplexityHints.Score.Script

open Syntax

def declaration? : String → Option (ScriptConstruct × String)
  | "function_declaration" => some (.functionDeclaration, "function")
  | "generator_function_declaration" => some (.functionDeclaration, "function*")
  | "function_expression" => some (.functionExpression, "function")
  | "function" => some (.functionExpression, "function")
  | "generator_function" => some (.functionExpression, "function*")
  | "arrow_function" => some (.arrowFunction, "arrow function")
  | "method_definition" => some (.methodDeclaration, "method")
  | "class_declaration" => some (.classDeclaration, "class")
  | "abstract_class_declaration" => some (.classDeclaration, "class")
  | "class" => some (.classDeclaration, "class")
  | _ => none

def statement? : String → Option (ScriptConstruct × String)
  | "if_statement" => some (.ifStatement, "if")
  | "else_clause" => some (.elseClause, "else")
  | "switch_case" => some (.caseClause, "case")
  | "switch_default" => some (.defaultClause, "default")
  | "ternary_expression" => some (.conditionalExpression, "?:")
  | "for_statement" => some (.forStatement, "for")
  | "for_in_statement" => some (.forInStatement, "for...in/of")
  | "while_statement" => some (.whileStatement, "while")
  | "do_statement" => some (.doStatement, "do...while")
  | "catch_clause" => some (.catchClause, "catch")
  | "throw_statement" => some (.throwStatement, "throw")
  | "break_statement" => some (.breakStatement, "break")
  | "continue_statement" => some (.continueStatement, "continue")
  | _ => none

def operator? : String → Option ScriptConstruct
  | "&&" | "||" | "&&=" | "||=" => some .logicalOperator
  | "??" | "??=" => some .nullishCoalescing
  | _ => none

def namingField? : String → Option String
  | "variable_declarator" => some "name"
  | "pair" => some "key"
  | "assignment_expression" => some "left"
  | "public_field_definition" => some "name"
  | "field_definition" => some "property"
  | _ => none

/-- The node that names a declaration: its own name, or what its value is bound to. -/
def nameNode? (parent : Option Node) (n : Node) : Option Node :=
  match n.childInField? "name" with
  | some name => some name
  | none => do
    let p ← parent
    p.childInField? (← namingField? p.kind)

def title (source : Utf8.Bytes) (parent : Option Node) (n : Node) (label : String) : String :=
  match nameNode? parent n with
  | none => label
  | some name =>
    let text := name.text source
    if text = "" then label else label ++ " " ++ text

def rules (source : Utf8.Bytes) : Rules ScriptConstruct := fun parent n =>
  match declaration? n.kind with
  | some (construct, label) => some ⟨construct, label, title source parent n label, true⟩
  | none =>
    match statement? n.kind with
    | some (construct, label) => some ⟨construct, label, label, false⟩
    | none =>
      if n.kind = "binary_expression" ∨ n.kind = "augmented_assignment_expression" then do
        let operator ← n.childInField? "operator"
        return ⟨← operator? operator.kind, operator.kind, operator.kind, false⟩
      else none

end ComplexityHints.Score.Script
