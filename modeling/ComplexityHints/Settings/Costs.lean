import ComplexityHints.Settings.Value

namespace ComplexityHints

class Construct (κ : Type) where
  all : List κ
  name : κ → String
  cost : κ → Nat
  table : String
  owner : String

abbrev CostTable (κ : Type) := κ → Amount

namespace CostTable

variable {κ : Type} [Construct κ]

def default : CostTable κ := fun k => .number (Construct.cost k)

def Valid (costs : CostTable κ) : Prop := ∀ k, 0 ≤ (costs k).toInt

def keys (κ : Type) [Construct κ] : List String := (Construct.all : List κ).map Construct.name

def entryCost (entries : List (String × Value)) (k : κ) : Except Fault Amount :=
  match entries.lookup (Construct.name k) with
  | none => .ok (default k)
  | some v =>
    match v.amount?.filter fun a => 0 ≤ a.toInt with
    | some a => .ok a
    | none =>
      .error (.invalid s!"{Construct.table κ}.{Construct.name k} must be a non-negative integer")

/-- Builds the costs of a section. Unknown keys are refused before any cost is checked. -/
def build (entries : List (String × Value)) : Except Fault (CostTable κ) :=
  match entries.find? fun (key, _) => !(keys κ).contains key with
  | some (key, _) => .error (.unknownKey (Construct.owner κ) key)
  | none =>
    match (Construct.all : List κ).findSome? fun k =>
        match entryCost entries k with
        | .ok _ => none
        | .error fault => some fault with
    | some fault => .error fault
    | none => .ok fun k =>
        match entryCost entries k with
        | .ok a => a
        | .error _ => default k

def entries (costs : CostTable κ) : List (String × Amount) :=
  (Construct.all : List κ).map fun k => (Construct.name k, costs k)

end CostTable

inductive ScriptConstruct where
  | functionDeclaration
  | functionExpression
  | arrowFunction
  | methodDeclaration
  | classDeclaration
  | ifStatement
  | elseClause
  | caseClause
  | defaultClause
  | conditionalExpression
  | forStatement
  | forInStatement
  | whileStatement
  | doStatement
  | catchClause
  | throwStatement
  | breakStatement
  | continueStatement
  | logicalOperator
  | nullishCoalescing
deriving DecidableEq, Repr

instance : Construct ScriptConstruct where
  all := [.functionDeclaration, .functionExpression, .arrowFunction, .methodDeclaration,
    .classDeclaration, .ifStatement, .elseClause, .caseClause, .defaultClause,
    .conditionalExpression, .forStatement, .forInStatement, .whileStatement, .doStatement,
    .catchClause, .throwStatement, .breakStatement, .continueStatement, .logicalOperator,
    .nullishCoalescing]
  name
    | .functionDeclaration => "function_declaration"
    | .functionExpression => "function_expression"
    | .arrowFunction => "arrow_function"
    | .methodDeclaration => "method_declaration"
    | .classDeclaration => "class_declaration"
    | .ifStatement => "if_statement"
    | .elseClause => "else_clause"
    | .caseClause => "case_clause"
    | .defaultClause => "default_clause"
    | .conditionalExpression => "conditional_expression"
    | .forStatement => "for_statement"
    | .forInStatement => "for_in_statement"
    | .whileStatement => "while_statement"
    | .doStatement => "do_statement"
    | .catchClause => "catch_clause"
    | .throwStatement => "throw_statement"
    | .breakStatement => "break_statement"
    | .continueStatement => "continue_statement"
    | .logicalOperator => "logical_operator"
    | .nullishCoalescing => "nullish_coalescing"
  cost
    | .classDeclaration | .elseClause | .defaultClause | .throwStatement | .breakStatement
    | .continueStatement => 0
    | _ => 1
  table := "script"
  owner := "ScriptMetricsConfiguration"

inductive LuaConstruct where
  | functionDeclaration
  | ifStatement
  | elseifClause
  | elseClause
  | whileStatement
  | forStatement
  | repeatStatement
  | logicalOperator
  | gotoStatement
  | breakStatement
deriving DecidableEq, Repr

instance : Construct LuaConstruct where
  all := [.functionDeclaration, .ifStatement, .elseifClause, .elseClause, .whileStatement,
    .forStatement, .repeatStatement, .logicalOperator, .gotoStatement, .breakStatement]
  name
    | .functionDeclaration => "function_declaration"
    | .ifStatement => "if_statement"
    | .elseifClause => "elseif_clause"
    | .elseClause => "else_clause"
    | .whileStatement => "while_statement"
    | .forStatement => "for_statement"
    | .repeatStatement => "repeat_statement"
    | .logicalOperator => "logical_operator"
    | .gotoStatement => "goto_statement"
    | .breakStatement => "break_statement"
  cost
    | .elseClause | .breakStatement => 0
    | _ => 1
  table := "lua"
  owner := "LuaStatementMetricsConfiguration"

end ComplexityHints
