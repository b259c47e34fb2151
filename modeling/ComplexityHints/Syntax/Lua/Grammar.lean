import ComplexityHints.Syntax.Lua.Token

namespace ComplexityHints.Syntax.Lua

open ComplexityHints.Syntax.Parser

inductive Goal where
  | expression (level : Nat)
  | statement
  | block
deriving Repr

variable (rule : Goal → Parser Node)

/-- The binary operators with their levels; the flag marks the ones that group to the right. -/
def binaryLevel? : Token → Option (String × Nat × Bool)
  | .word "or" => some ("or", 1, false)
  | .word "and" => some ("and", 2, false)
  | .symbol s =>
    if ["<", "<=", "==", "~=", ">=", ">"].contains s then some (s, 3, false)
    else if s = "|" then some (s, 4, false)
    else if s = "~" then some (s, 5, false)
    else if s = "&" then some (s, 6, false)
    else if s = "<<" ∨ s = ">>" then some (s, 7, false)
    else if s = ".." then some (s, 8, true)
    else if s = "+" ∨ s = "-" then some (s, 9, false)
    else if ["*", "/", "//", "%"].contains s then some (s, 10, false)
    else if s = "^" then some (s, 12, true)
    else none
  | _ => none

def unaryLevel : Nat := 11

def isUnary : Token → Bool
  | .word "not" | .symbol "-" | .symbol "#" | .symbol "~" => true
  | _ => false

def expression : Parser Node := rule (.expression 1)

def expressionList : Parser Node := do
  let items ← sepBy1 (expression rule) (symbol ",")
  match items with
  | [] => failure
  | first :: others => around "expression_list" first others

def parameters : Parser Node := do
  let start ← symbol "("
  let vararg : Parser Node := do
    let start ← symbol "..."
    node "vararg_expression" start []
  let items ← orNil (sepBy1 (name <|> vararg) (symbol ","))
  let _ ← symbol ")"
  node "parameters" start items

def blockNodes (field : String) : Parser (List Node) := do
  let block ← rule .block
  return if block.children.isEmpty then [] else [block.withField field]

def functionRest : Parser (List Node) := do
  let params ← parameters
  let body ← blockNodes rule "body"
  let _ ← keyword "end"
  return params.withField "parameters" :: body

def member (object : Node) : Parser Node := do
  match ← next with
  | (.symbol ".", _) =>
    let key ← name
    around "dot_index_expression" (object.withField "table") [key.withField "field"]
  | (.symbol "[", _) =>
    let key ← expression rule
    let _ ← symbol "]"
    around "bracket_index_expression" (object.withField "table") [key.withField "field"]
  | _ => failure

def field : Parser Node := do
  let bracketed : Parser Node := do
    let start ← symbol "["
    let key ← expression rule
    let _ ← symbol "]"
    let _ ← symbol "="
    let value ← expression rule
    node "field" start [key.withField "name", value.withField "value"]
  let named : Parser Node := do
    let key ← name
    let _ ← symbol "="
    let value ← expression rule
    around "field" (key.withField "name") [value.withField "value"]
  let positional : Parser Node := do
    let value ← expression rule
    around "field" (value.withField "value") []
  bracketed <|> named <|> positional

def tableConstructor : Parser Node := do
  let start ← symbol "\x7b"
  let separator := symbol "," <|> symbol ";"
  let fields ← orNil (sepBy1 (field rule) separator)
  let _ ← optional? separator
  let _ ← symbol "\x7d"
  node "table_constructor" start fields

def stringNode : Parser Node := do
  let start ← token .string
  node "string" start []

def arguments : Parser Node := do
  let parenthesized : Parser Node := do
    let start ← symbol "("
    let items ← orNil (sepBy1 (expression rule) (symbol ","))
    let _ ← symbol ")"
    node "arguments" start items
  let single : Parser Node := do
    let item ← tableConstructor rule <|> stringNode
    around "arguments" item []
  parenthesized <|> single

def call (callee : Node) : Parser Node := do
  let method : Parser Node := do
    let _ ← symbol ":"
    let key ← name
    around "method_index_expression" (callee.withField "table") [key.withField "method"]
  let target ← method <|> pure callee
  let args ← arguments rule
  around "function_call" (target.withField "name") [args.withField "arguments"]

def suffixed : Parser Node := do
  let parenthesized : Parser Node := do
    let start ← symbol "("
    let inner ← expression rule
    let _ ← symbol ")"
    node "parenthesized_expression" start [inner]
  let first ← name <|> parenthesized
  extendAll (fun n => member rule n <|> call rule n) first

def simple : Parser Node := do
  let literal : Parser Node := do
    match ← next with
    | (.number, start) => node "number" start []
    | (.string, start) => node "string" start []
    | (.word "nil", start) => node "nil" start []
    | (.word "true", start) => node "true" start []
    | (.word "false", start) => node "false" start []
    | (.symbol "...", start) => node "vararg_expression" start []
    | (.word "function", start) =>
      let rest ← functionRest rule
      node "function_definition" start rest
    | _ => failure
  literal <|> tableConstructor rule <|> suffixed rule

def unary : Parser Node := do
  let (operator, start) ← next
  Parser.guardThat (isUnary operator)
  let operand ← rule (.expression unaryLevel)
  node "unary_expression" start [operand.withField "operand"]

def binaryStep (level : Nat) (left : Node) : Parser Node := do
  let (operator, start) ← next
  match binaryLevel? operator with
  | some (kind, its, toRight) =>
    guardThat (level ≤ its)
    let sign ← tokenNode kind start (some "operator")
    let right ← rule (.expression (if toRight then its else its + 1))
    around "binary_expression" (left.withField "left") [sign, right.withField "right"]
  | none => failure

def operators (level : Nat) : Parser Node := do
  let first ← unary rule <|> simple rule
  extendAll (binaryStep rule level) first

/-- A clause of a conditional: its head is already read from `start` on. -/
def clause (kind : String) (start : Nat) (condition : List Node) : Parser Node := do
  let body ← blockNodes rule (if condition.isEmpty then "body" else "consequence")
  node kind start (condition ++ body)

/-- A clause ends with its last statement, or with its last keyword when it has none. -/
def elseifClause : Parser Node := do
  let start ← keyword "elseif"
  let condition ← expression rule
  let _ ← keyword "then"
  let c ← clause rule "elseif_statement" start [condition.withField "condition"]
  return c.withField "alternative"

def elseClause : Parser Node := do
  let start ← keyword "else"
  let c ← clause rule "else_statement" start []
  return c.withField "alternative"

def ifStatement : Parser Node := do
  let start ← keyword "if"
  let condition ← expression rule
  let _ ← keyword "then"
  let body ← blockNodes rule "consequence"
  let others ← many (elseifClause rule)
  let last ← orNil ((elseClause rule).map ([·]))
  let _ ← keyword "end"
  node "if_statement" start (condition.withField "condition" :: body ++ others ++ last)

def whileStatement : Parser Node := do
  let start ← keyword "while"
  let condition ← expression rule
  let _ ← keyword "do"
  let body ← blockNodes rule "body"
  let _ ← keyword "end"
  node "while_statement" start (condition.withField "condition" :: body)

def repeatStatement : Parser Node := do
  let start ← keyword "repeat"
  let body ← blockNodes rule "body"
  let _ ← keyword "until"
  let condition ← expression rule
  node "repeat_statement" start (body ++ [condition.withField "condition"])

def nameList : Parser Node := do
  let items ← sepBy1 name (symbol ",")
  match items with
  | [] => failure
  | first :: others => around "variable_list" first others

def forStatement : Parser Node := do
  let start ← keyword "for"
  let numeric : Parser Node := do
    let variable_ ← name
    let _ ← symbol "="
    let bounds ← sepBy1 (expression rule) (symbol ",")
    around "for_numeric_clause" (variable_.withField "name") bounds
  let generic : Parser Node := do
    let names ← nameList
    let _ ← keyword "in"
    let values ← expressionList rule
    around "for_generic_clause" names [values]
  let head ← numeric <|> generic
  let _ ← keyword "do"
  let body ← blockNodes rule "body"
  let _ ← keyword "end"
  node "for_statement" start (head.withField "clause" :: body)

def functionName : Parser Node := do
  let first ← name
  let dotted (object : Node) : Parser Node := do
    let _ ← symbol "."
    let key ← name
    around "dot_index_expression" (object.withField "table") [key.withField "field"]
  let path ← extendAll dotted first
  let method : Parser Node := do
    let _ ← symbol ":"
    let key ← name
    around "method_index_expression" (path.withField "table") [key.withField "method"]
  method <|> pure path

def functionDeclaration : Parser Node := do
  let start ← keyword "function"
  let declared ← functionName
  let rest ← functionRest rule
  node "function_declaration" start (declared.withField "name" :: rest)

def localFunction : Parser Node := do
  let start ← keyword "local"
  let _ ← keyword "function"
  let declared ← name
  let rest ← functionRest rule
  node "function_declaration" start (declared.withField "name" :: rest)

def attributed : Parser (List Node) := do
  let declared ← name
  let mark : Parser (List Node) := do
    let start ← symbol "<"
    let _ ← name
    let _ ← symbol ">"
    return [← node "attribute" start []]
  return declared :: (← orNil mark)

def localVariables : Parser Node := do
  let start ← keyword "local"
  let names ← sepBy1 attributed (symbol ",")
  let values ← orNil (do
    let _ ← symbol "="
    return [← expressionList rule])
  node "variable_declaration" start (names.flatten ++ values)

def assignment : Parser Node := do
  let targets ← sepBy1 (suffixed rule) (symbol ",")
  let _ ← symbol "="
  let values ← expressionList rule
  match targets with
  | [] => failure
  | first :: others => around "assignment_statement" first (others ++ [values])

def callStatement : Parser Node := do
  let callee ← suffixed rule
  guardThat (callee.kind = "function_call")
  return callee

def doStatement : Parser Node := do
  let start ← keyword "do"
  let body ← blockNodes rule "body"
  let _ ← keyword "end"
  node "do_statement" start body

def gotoStatement : Parser Node := do
  let start ← keyword "goto"
  let label ← name
  node "goto_statement" start [label]

def breakStatement : Parser Node := do
  let start ← keyword "break"
  node "break_statement" start []

def labelStatement : Parser Node := do
  let start ← symbol "::"
  let label ← name
  let _ ← symbol "::"
  node "label_statement" start [label]

def emptyStatement : Parser Node := do
  let start ← symbol ";"
  node "empty_statement" start []

def returnStatement : Parser Node := do
  let start ← keyword "return"
  let values ← orNil ((expressionList rule).map ([·]))
  let _ ← optional? (symbol ";")
  node "return_statement" start values

def statement : Parser Node :=
  emptyStatement <|> labelStatement <|> breakStatement <|> gotoStatement <|> doStatement rule <|>
    whileStatement rule <|> repeatStatement rule <|> ifStatement rule <|> forStatement rule <|>
    functionDeclaration rule <|> localFunction rule <|> localVariables rule <|>
    assignment rule <|> callStatement rule

/-- Statements and an optional return at the end. An empty block takes no room at all. -/
def block : Parser Node := do
  let here := (← cursor).offset
  let statements ← many (rule .statement)
  let last ← orNil ((returnStatement rule).map ([·]))
  match statements ++ last with
  | [] => return .mk "block" here here none true []
  | first :: others => around "block" first others

def body : Goal → Parser Node
  | .expression level => operators rule level
  | .statement => statement rule
  | .block => block rule

/-- The nesting that a text can need: every nonterminal on the way down reads a character after a
bounded number of steps. -/
def depth (source : List Char) : Nat := 8 * (source.length + 2)

def hashBang : Parser Unit := do
  match (← cursor).rest with
  | '#' :: rest => take ((rest.takeWhile (· ≠ '\n')).length + 1)
  | _ => pure ()

def skipped : Parser Node := do
  let _ ← many trivium
  let c ← cursor
  guardThat (!c.rest.isEmpty)
  match tokenAt? c.rest with
  | some (_, size) => take (max size 1)
  | none => take 1
  node "ERROR" c.offset []

def chunk (rule : Goal → Parser Node) : Parser Node := do
  hashBang
  let parts ← many (rule .statement <|> returnStatement rule <|> skipped)
  node "chunk" 0 parts

/-- The syntax tree of a Lua text. Tokens that fit nowhere become nodes of their own. -/
def parse (source : List Char) : Node :=
  match (chunk (nested body (depth source))).run (Cursor.start source) with
  | some (root, _) => root
  | none => .mk "chunk" 0 0 none true []

end ComplexityHints.Syntax.Lua
