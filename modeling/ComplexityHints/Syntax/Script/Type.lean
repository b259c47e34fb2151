import ComplexityHints.Syntax.Script.Literal

namespace ComplexityHints.Syntax.Script

open ComplexityHints.Syntax.Parser

variable (g : Context)

def typeParameter : Parser Node := do
  let start := (← peek).start
  let _ ← many (satisfying (isVariance ·.token) <* ahead identifier)
  let name ← identifier
  let bound ← orNil (word "extends" *> (g.rule .type).map ([·]))
  let value ← orNil (symbol "=" *> (g.rule .type).map ([·]))
  node "type_parameter" start (name.withField "name" :: bound ++ value)
where
  isVariance : Token → Bool
    | .word "const" | .word "in" | .word "out" => true
    | _ => false

def typeParameters : Parser Node := do
  let start ← char '<'
  let items ← commaList (typeParameter g)
  let _ ← char '>'
  node "type_parameters" start items

/-- What stands between the name of a function and its body: type parameters, parameters and the
result type. -/
def signature : Parser (List Node) := do
  let generics ← ifTyped g ((typeParameters g).map ([·]))
  let params ← parameters g
  let result ← ifTyped g (resultClause g)
  return generics ++ params.withField "parameters" :: result

def functionType : Parser Node := do
  let start := (← peek).start
  let _ ← optional? (word "abstract" <* ahead (word "new"))
  let _ ← optional? (word "new")
  let generics ← orNil ((typeParameters g).map ([·]))
  let params ← parameters g
  let _ ← symbol "=>"
  let result ← g.rule .resultType
  node "function_type" start (generics ++ [params, result])

def resultType : Parser Node := do
  let start := (← peek).start
  let narrowed : Parser (List Node) := wordHere "is" *> (g.rule .type).map ([·])
  let asserted : Parser Node := do
    let _ ← word "asserts"
    let subject ← identifier <|> thisParameter
    let type ← orNil narrowed
    node "asserts" start (subject :: type)
  let guarded : Parser Node := do
    let subject ← identifier <|> thisParameter
    let type ← narrowed
    node "type_predicate" start (subject :: type)
  asserted <|> guarded <|> g.rule .type

def tupleElement : Parser Node := do
  let start := (← peek).start
  let _ ← optional? (symbol "...")
  let _ ← optional? (anyWord "identifier" *> optional? (symbol "?") *> symbol ":")
  let type ← g.rule .type
  let _ ← optional? (symbol "?")
  node "tuple_element" start [type]

def tupleType : Parser Node := do
  let start ← symbol "["
  let items ← commaList (tupleElement g)
  let _ ← symbol "]"
  node "tuple_type" start items

def memberWords : List String :=
  ["public", "private", "protected", "static", "override", "readonly", "abstract", "declare",
    "accessor", "async", "get", "set"]

def indexKey : Parser Node := do
  let start ← symbol "["
  let name ← anyWord "identifier"
  let plain : Parser (List Node) := symbol ":" *> (g.rule .type).map ([·])
  let mapped : Parser (List Node) := do
    let _ ← word "in"
    let source ← g.rule .type
    let target ← orNil (word "as" *> (g.rule .type).map ([·]))
    return source :: target
  let types ← plain <|> mapped
  let _ ← symbol "]"
  node "index_key" start (name :: types)

def indexSignature : Parser Node := do
  let start := (← peek).start
  let sign := symbol "+" <|> symbol "-"
  let _ ← optional? (optional? sign *> word "readonly")
  let key ← indexKey g
  let _ ← optional? (optional? sign *> symbol "?")
  let type ← orNil (typeClause g)
  node "index_signature" start (key :: type)

def typeMember : Parser Node := do
  let start := (← peek).start
  let construct : Parser Node := do
    let _ ← word "new"
    let parts ← signature g
    node "construct_signature" start parts
  let call : Parser Node := do
    let parts ← signature g
    node "call_signature" start parts
  let property : Parser Node := do
    let _ ← modifiers memberWords .last
    let name ← propertyName g
    let _ ← optional? (symbol "?")
    let method : Parser Node := do
      let parts ← signature g
      node "method_signature" start (name :: parts)
    let plain : Parser Node := do
      let type ← orNil (typeClause g)
      node "property_signature" start (name :: type)
    method <|> plain
  construct <|> call <|> indexSignature g <|> property

def objectType : Parser Node := do
  let start ← symbol "\x7b"
  let separator := symbol "," <|> symbol ";"
  let _ ← many separator
  let items ← many (typeMember g <* many separator)
  let _ ← symbol "\x7d"
  node "object_type" start items

def typeReference : Parser Node := do
  let first ← anyWord "type_identifier"
  let dotted (scope : Node) : Parser Node := do
    let _ ← symbol "."
    let name ← anyWord "type_identifier" <|> propertyName g
    around "nested_type_identifier" scope [name]
  let path ← extendAll dotted first
  let generic : Parser Node := do
    let args ← typeArguments g
    around "generic_type" path [args]
  generic <|> pure path

def importType : Parser Node := do
  let start ← word "import"
  let args ← arguments g
  let names ← many (symbol "." *> anyWord "type_identifier")
  let generics ← orNil ((typeArguments g).map ([·]))
  node "import_type" start (args :: names ++ generics)

def typeQuery : Parser Node := do
  let start ← word "typeof"
  let subject ← importType g <|> typeReference g
  node "type_query" start [subject]

def inferType : Parser Node := do
  let start ← word "infer"
  let name ← identifier
  let bound ← orNil (word "extends" *> (g.rule .typeOperand).map ([·]))
  node "infer_type" start (name :: bound)

def prefixedType : Parser Node := do
  let l ← satisfying fun l => match l.token with
    | .word w => ["keyof", "readonly", "unique"].contains w
    | _ => false
  let inner ← g.rule .typeOperand
  node "type_operator" l.start [inner]

def literalType : Parser Node := do
  let l ← next
  match l.token with
  | .string | .number => node "literal_type" l.start []
  | .symbol "-" =>
    let _ ← satisfying (·.token = .number)
    node "literal_type" l.start []
  | _ => failure

def parenthesizedType : Parser Node := do
  let start ← symbol "("
  let inner ← g.rule .type
  let _ ← symbol ")"
  node "parenthesized_type" start [inner]

def primaryType : Parser Node := do
  match (← peek).token with
  | .symbol "(" => parenthesizedType g
  | .symbol "\x7b" => objectType g
  | .symbol "[" => tupleType g
  | .template => template (g.rule .type)
  | .word "typeof" => typeQuery g
  | .word "import" => importType g
  | .word _ => typeReference g
  | _ => literalType

def indexedType (inner : Node) : Parser Node := do
  let l ← next
  guardThat (l.token = .symbol "[" && !l.lineBefore)
  let index ← orNil ((g.rule .type).map ([·]))
  let _ ← symbol "]"
  around "lookup_type" inner index

def typeOperand : Parser Node := do
  let plain : Parser Node := do
    let first ← primaryType g
    extendAll (indexedType g) first
  functionType g <|> inferType g <|> prefixedType g <|> plain

/-- Operands joined by a sign, which may also stand before the first. -/
def joined (kind sign : String) (operand : Parser Node) : Parser Node := do
  let start := (← peek).start
  let leading ← accept (symbol sign)
  let items ← sepBy1 operand (symbol sign)
  match items, leading with
  | [item], false => return item
  | items, _ => node kind start items

def unionType : Parser Node :=
  joined "union_type" "|" (joined "intersection_type" "&" (g.rule .typeOperand))

def type : Parser Node := do
  let subject ← unionType g
  let conditional : Parser Node := do
    let _ ← word "extends"
    let bound ← unionType g
    let _ ← symbol "?"
    let consequence ← g.rule .type
    let _ ← symbol ":"
    let alternative ← g.rule .type
    around "conditional_type" subject [bound, consequence, alternative]
  conditional <|> pure subject

end ComplexityHints.Syntax.Script
