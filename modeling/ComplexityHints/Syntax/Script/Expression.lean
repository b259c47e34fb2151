import ComplexityHints.Syntax.Script.Callable
import ComplexityHints.Syntax.Script.Element

namespace ComplexityHints.Syntax.Script

open ComplexityHints.Syntax.Parser

variable (g : Context)

def arrayLiteral : Parser Node := do
  let start ← symbol "["
  let items ← elements (spread g <|> g.rule (.expression .enclosed))
  node "array" start items

def objectMethod : Parser Node := do
  let start := (← peek).start
  let _ ← modifiers ["async", "get", "set"] .enclosed
  let _ ← optional? (symbol "*")
  let name ← propertyName g
  methodRest g start [] name

def objectPair : Parser Node := do
  let key ← propertyName g
  let _ ← symbol ":"
  let value ← g.rule (.expression .enclosed)
  around "pair" (key.withField "key") [value.withField "value"]

/-- A variable in the place of a property; a default turns the literal into a pattern. -/
def objectShorthand : Parser Node := do
  let name ← anyWord "shorthand_property_identifier"
  defaulted g "object_assignment_pattern" name

def objectLiteral : Parser Node := do
  let start ← symbol "\x7b"
  let items ← commaList (spread g <|> objectPair g <|> objectMethod g <|> objectShorthand g)
  let _ ← symbol "\x7d"
  node "object" start items

def arrowRest (m : Mode) (start : Nat) (head : List Node) : Parser Node := do
  let _ ← symbol "=>"
  let body ← if ← atSymbol "\x7b" then g.rule .block else g.rule (.expression m)
  node "arrow_function" start (head ++ [body.withField "body"])

def arrowSignature (m : Mode) : Parser (List Node) := do
  let generics ← ifTyped g ((typeParameters g).map ([·]))
  let params ← parameters g
  let result ← if m.noResultType then pure [] else ifTyped g (resultClause g)
  return generics ++ params.withField "parameters" :: result

def arrowFunction (m : Mode) (start : Nat) : Parser Node := do
  let single : Parser (List Node) := do
    let name ← identifier
    return [name.withField "parameter"]
  let head ← single <|> arrowSignature g m
  arrowRest g m start head

def asyncOperand (m : Mode) : Parser Node := do
  let arrow : Parser Node := do
    let start ← word "async"
    guardThat (m.allows (← peek))
    arrowFunction g m start
  functionExpression g m <|> arrow <|> (do
    let start := (← peek).start
    arrowFunction g m start) <|> identifier

def wordOperand (m : Mode) : Parser Node := do
  let start := (← peek).start
  arrowFunction g m start <|> identifier

def newExpression : Parser Node := do
  let start ← word "new"
  let meta_ : Parser Node := do
    let _ ← symbol "."
    let _ ← anyWord "property_identifier"
    node "meta_property" start []
  let constructed : Parser Node := do
    let first ← g.rule (.primary .enclosed)
    let dotted (object : Node) : Parser Node := do
      let _ ← symbol "."
      let key ← propertyName g
      around "member_expression" (object.withField "object") [key.withField "property"]
    let indexed (object : Node) : Parser Node := do
      let _ ← symbol "["
      let key ← sequence g .enclosed
      let _ ← symbol "]"
      around "subscript_expression" (object.withField "object") [key.withField "index"]
    let target ← extendAll (fun n => dotted n <|> indexed n) first
    let types ← ifTyped g ((typeArguments g).map ([·]) <* ahead (symbol "("))
    let args ← orNil ((arguments g).map ([·.withField "arguments"]))
    node "new_expression" start (target.withField "constructor" :: types ++ args)
  meta_ <|> constructed

/-- A value that a generator hands out; on a new line it is none. -/
def yieldExpression (m : Mode) : Parser Node := do
  let start ← word "yield"
  let delegated : Parser (List Node) := do
    let _ ← symbol "*"
    return [← g.rule (.expression m)]
  let plain : Parser (List Node) := do
    continuesLine g m true
    return [← g.rule (.expression m)]
  let value ← orNil (delegated <|> plain)
  node "yield_expression" start value

def typeAssertion (m : Mode) : Parser Node := do
  let types ← typeArguments g
  let value ← g.rule (.unary m)
  around "type_assertion" types [value]

/-- What an opening angle bracket starts: an element, type parameters or a type. -/
def angleOperand (m : Mode) : Parser Node := do
  let start := (← peek).start
  let generic : Parser Node := arrowFunction g m start
  match g.dialect with
  | .javascript => g.rule .element
  | .typescript => generic <|> typeAssertion g m
  | .tsx =>
    let declares : Parser Unit := do
      let _ ← char '<'
      let _ ← many (word "const")
      let _ ← identifier
      let _ ← symbol "," <|> (word "extends" <* ahead (anyWord "type_identifier" <|> objectType g))
    (ahead declares *> generic) <|> g.rule .element <|> generic

def primary (m : Mode) : Parser Node := do
  let l ← peek
  let leaf (kind : String) : Parser Node := do
    let _ ← next
    node kind l.start []
  match l.token with
  | .number => leaf "number"
  | .string => leaf "string"
  | .privateName => leaf "private_property_identifier"
  | .template => template (sequence g .enclosed)
  | .word "function" => functionExpression g m
  | .word "async" => asyncOperand g m
  | .word "class" => classExpression g
  | .word "new" => newExpression g
  | .word "yield" => yieldExpression g m
  | .word w =>
    if ["this", "super", "null", "true", "false", "import"].contains w then leaf w
    else wordOperand g m
  | .symbol "(" => arrowFunction g m l.start <|> parenthesized g
  | .symbol "[" => arrayLiteral g
  | .symbol "\x7b" => objectLiteral g
  | .symbol "/" | .symbol "/=" => regex
  | .symbol "@" => classExpression g
  | .symbol "<" | .symbol "<<" => angleOperand g m
  | _ => failure

def startsOperand : Token → Bool
  | .number | .string | .privateName | .template => true
  | .word w => !(["in", "instanceof", "as", "satisfies", "of", "implements", "extends"].contains w)
  | .symbol s => ["(", "[", "\x7b", "!", "~", "+", "-", "++", "--", "/", "<", "@"].contains s
  | .stop => false

def memberOf (object : Node) : Parser Node := do
  let key ← propertyName g
  around "member_expression" (object.withField "object") [key.withField "property"]

def elementOf (object : Node) : Parser Node := do
  let _ ← symbol "["
  let key ← sequence g .enclosed
  let _ ← symbol "]"
  around "subscript_expression" (object.withField "object") [key.withField "index"]

def callOf (callee : Node) : Parser Node := do
  let types ← ifTyped g ((typeArguments g).map ([·]))
  let args ← arguments g <|> template (sequence g .enclosed)
  around "call_expression" (callee.withField "function") (types ++ [args.withField "arguments"])

def instanceOf (callee : Node) : Parser Node := do
  guardThat g.dialect.typed
  let types ← typeArguments g
  let after ← peek
  guardThat (after.lineBefore || !startsOperand after.token)
  around "instantiation_expression" callee [types]

def suffix (operand : Node) : Parser Node := do
  match (← peek).token with
  | .symbol "." => symbol "." *> memberOf g operand
  | .symbol "?." =>
    symbol "?." *> (elementOf g operand <|> callOf g operand <|> memberOf g operand)
  | .symbol "[" => elementOf g operand
  | .symbol "(" | .template => callOf g operand
  | .symbol "<" | .symbol "<<" => callOf g operand <|> instanceOf g operand
  | _ => failure

def suffixes (operand : Node) : Parser Node := extendAll (suffix g) operand

def updated (m : Mode) (operand : Node) : Parser Node := do
  let l ← next
  guardThat (m.allows l && (l.token = .symbol "++" || l.token = .symbol "--"))
  around "update_expression" operand []

mutual

def asPattern : Node → Node
  | .mk kind start stop field named children =>
    let renamed (kind : String) : Node := .mk kind start stop field named (asPatterns children)
    match kind with
    | "array" => renamed "array_pattern"
    | "object" => renamed "object_pattern"
    | "pair" => renamed "pair_pattern"
    | "spread_element" => renamed "rest_pattern"
    | "assignment_expression" => renamed "assignment_pattern"
    | _ => .mk kind start stop field named children

def asPatterns : List Node → List Node
  | [] => []
  | n :: ns => asPattern n :: asPatterns ns

end

def isAssignable (kind : String) : Bool :=
  ["identifier", "member_expression", "subscript_expression", "parenthesized_expression", "array",
    "object", "non_null_expression"].contains kind

def augmentedOperators : List String :=
  ["+=", "-=", "*=", "/=", "%=", "**=", "<<=", ">>=", ">>>=", "&=", "|=", "^=", "&&=", "||=", "??="]

def assigned (m : Mode) (left : Node) : Parser Node := do
  guardThat (isAssignable left.kind)
  let l ← next
  match l.token with
  | .symbol "=" =>
    let right ← g.rule (.expression m)
    around "assignment_expression" ((asPattern left).withField "left") [right.withField "right"]
  | .symbol s =>
    guardThat (augmentedOperators.contains s)
    let operator ← tokenNode s l.start (some "operator")
    let right ← g.rule (.expression m)
    around "augmented_assignment_expression" (left.withField "left")
      [operator, right.withField "right"]
  | _ => failure

def operand (m : Mode) : Parser Node := do
  let first ← g.rule (.primary m)
  let whole ← suffixes g first
  updated m whole <|> assigned g m whole <|> pure whole

def unary (m : Mode) : Parser Node := do
  let l ← peek
  let applied (kind : String) : Parser Node := do
    let _ ← next
    let inner ← g.rule (.unary m)
    node kind l.start [inner.withField "argument"]
  match l.token with
  | .symbol "!" | .symbol "~" | .symbol "-" | .symbol "+" => applied "unary_expression"
  | .word "typeof" | .word "void" | .word "delete" => applied "unary_expression"
  | .symbol "++" | .symbol "--" => applied "update_expression"
  | .word "await" => applied "await_expression"
  | _ => operand g m

def binaryLevel? (m : Mode) : Token → Option (String × Nat × Bool)
  | .word "instanceof" => some ("instanceof", 8, false)
  | .word "in" => if m.noIn then none else some ("in", 8, false)
  | .symbol s =>
    if s = "??" then some (s, 1, false)
    else if s = "||" then some (s, 2, false)
    else if s = "&&" then some (s, 3, false)
    else if s = "|" then some (s, 4, false)
    else if s = "^" then some (s, 5, false)
    else if s = "&" then some (s, 6, false)
    else if ["==", "!=", "===", "!=="].contains s then some (s, 7, false)
    else if ["<", ">", "<=", ">="].contains s then some (s, 8, false)
    else if ["<<", ">>", ">>>"].contains s then some (s, 9, false)
    else if s = "+" ∨ s = "-" then some (s, 10, false)
    else if ["*", "/", "%"].contains s then some (s, 11, false)
    else if s = "**" then some (s, 12, true)
    else none
  | _ => none

def binaryStep (m : Mode) (level : Nat) (left : Node) : Parser Node := do
  let l ← next
  match binaryLevel? m l.token with
  | some (kind, its, toRight) =>
    guardThat (level ≤ its)
    let operator ← tokenNode kind l.start (some "operator")
    let right ← g.rule (.operators m (if toRight then its else its + 1))
    around "binary_expression" (left.withField "left") [operator, right.withField "right"]
  | none => failure

def typedStep (m : Mode) (left : Node) : Parser Node := do
  guardThat g.dialect.typed
  let l ← next
  guardThat (m.allows l)
  match l.token with
  | .word "as" =>
    let type ← g.rule .type
    around "as_expression" left [type]
  | .word "satisfies" =>
    let type ← g.rule .type
    around "satisfies_expression" left [type]
  | .symbol "!" =>
    let marked ← around "non_null_expression" left []
    let whole ← suffixes g marked
    updated m whole <|> assigned g m whole <|> pure whole
  | _ => failure

def operators (m : Mode) (level : Nat) : Parser Node := do
  let first ← g.rule (.unary m)
  extendAll (fun left =>
    binaryStep g m level left <|> (guardThat (level = 0) *> typedStep g m left)) first

/-- An expression without a comma. Between the two marks of a conditional a colon may end an operand
or state a result type; the first reading that finds the second mark counts. -/
def expression (m : Mode) : Parser Node := do
  let condition ← g.rule (.operators m 0)
  let conditional : Parser Node := do
    let _ ← symbol "?"
    let branch (inner : Mode) : Parser Node := g.rule (.expression inner) <* symbol ":"
    let consequence ← branch .enclosed <|> branch { Mode.enclosed with noResultType := true }
    let alternative ← g.rule (.expression m)
    around "ternary_expression" (condition.withField "condition")
      [consequence.withField "consequence", alternative.withField "alternative"]
  conditional <|> pure condition

end ComplexityHints.Syntax.Script
