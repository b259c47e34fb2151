import ComplexityHints.Syntax.Script.Type

namespace ComplexityHints.Syntax.Script

open ComplexityHints.Syntax.Parser

variable (g : Context)

def functionBody : Parser Node := do return (← g.rule .block).withField "body"

def functionHead (m : Mode) : Parser (Nat × Bool) := do
  let start := (← peek).start
  if ← accept (word "async") then guardThat (m.allows (← peek))
  let _ ← word "function"
  let generates ← accept (symbol "*")
  return (start, generates)

def functionExpression (m : Mode) : Parser Node := do
  let (start, generates) ← functionHead m
  let name ← orNil ((anyWord "identifier").map ([·.withField "name"]))
  let parts ← signature g
  let body ← functionBody g
  node (if generates then "generator_function" else "function_expression") start
    (name ++ parts ++ [body])

def functionDeclaration : Parser Node := do
  let (start, generates) ← functionHead .last
  let name ← anyWord "identifier"
  let parts ← signature g
  let head := name.withField "name" :: parts
  let declared : Parser Node := do
    let body ← functionBody g
    node (if generates then "generator_function_declaration" else "function_declaration") start
      (head ++ [body])
  let signed : Parser Node := do
    guardThat g.dialect.typed
    semicolon
    node "function_signature" start head
  declared <|> signed

def methodRest (start : Nat) (marks : List Node) (name : Node) : Parser Node := do
  let parts ← signature g
  let head := marks ++ name.withField "name" :: parts
  let defined : Parser Node := do
    let body ← functionBody g
    node "method_definition" start (head ++ [body])
  let signed : Parser Node := do
    guardThat g.dialect.typed
    node "method_signature" start head
  defined <|> signed

def fieldRest (start : Nat) (marks : List Node) (name : Node) : Parser Node := do
  let type ← ifTyped g (typeClause g)
  let value ← orNil ((initializer g .last).map ([·.withField "value"]))
  if g.dialect.typed then
    node "public_field_definition" start (marks ++ name.withField "name" :: type ++ value)
  else
    node "field_definition" start (marks ++ name.withField "property" :: value)

def staticBlock : Parser Node := do
  let start ← word "static"
  let body ← g.rule .block
  node "class_static_block" start [body.withField "body"]

def classWords : List String :=
  if g.dialect.typed then memberWords else ["static", "async", "get", "set"]

/-- A member of a class. Decorators belong to the member, but in typed text a method stands beside
its decorators. -/
def classMember : Parser (List Node) := do
  let decorated := (← peek).start
  let marks ← decorators g
  let start := (← peek).start
  let _ ← modifiers (classWords g) .last
  let index : Parser (List Node) := do
    guardThat g.dialect.typed
    return [← indexSignature g]
  let named : Parser (List Node) := do
    let _ ← optional? (symbol "*")
    let name ← propertyName g
    if g.dialect.typed then
      let _ ← optional? (symbol "?" <|> symbol "!")
      (do return marks ++ [← methodRest g start [] name]) <|>
        (do return [← fieldRest g decorated marks name])
    else
      (do return [← methodRest g decorated marks name]) <|>
        (do return [← fieldRest g decorated marks name])
  index <|> named

def classBody : Parser Node := do
  let start ← symbol "\x7b"
  let separator := symbol ";" <|> symbol ","
  let _ ← many separator
  let member := (staticBlock g).map ([·]) <|> classMember g
  let items ← many (member <* many separator)
  let _ ← symbol "\x7d"
  node "class_body" start items.flatten

/-- What a class builds on: a value, in typed text with type arguments, and the types that it keeps
to. -/
def heritage : Parser (List Node) := do
  let superclass : Parser (List Node) := do
    let start ← word "extends"
    let value ← g.rule (.unary .enclosed)
    let types ← ifTyped g ((typeArguments g).map ([·]))
    return [← node "extends_clause" start (value :: types)]
  let kept : Parser (List Node) := do
    let start ← word "implements"
    let types ← sepBy1 (g.rule .type) (symbol ",")
    return [← node "implements_clause" start types]
  return (← orNil superclass) ++ (← ifTyped g kept)

def classRest : Parser (List Node) := do
  let generics ← ifTyped g ((typeParameters g).map ([·]))
  let base ← heritage g
  let body ← classBody g
  return generics ++ base ++ [body.withField "body"]

def classDeclaration : Parser Node := do
  let start := (← peek).start
  let marks ← decorators g
  let isAbstract ← accept (do
    guardThat g.dialect.typed
    word "abstract" <* ahead (wordHere "class"))
  let _ ← word "class"
  let name ← identifier
  let parts ← classRest g
  node (if isAbstract then "abstract_class_declaration" else "class_declaration") start
    (marks ++ name.withField "name" :: parts)

def className : Parser Node := do
  notAhead (word "implements" *> identifier)
  identifier

def classExpression : Parser Node := do
  let start := (← peek).start
  let marks ← decorators g
  let _ ← word "class"
  let name ← orNil (className.map ([·.withField "name"]))
  let parts ← classRest g
  node "class" start (marks ++ name ++ parts)

end ComplexityHints.Syntax.Script
