import ComplexityHints.Syntax.Script.Expression

namespace ComplexityHints.Syntax.Script

open ComplexityHints.Syntax.Parser

variable (g : Context)

def declarator (m : Mode) : Parser Node := do
  let name ← g.rule .pattern
  let type ← ifTyped g (do
    let _ ← optional? (symbol "!")
    typeClause g)
  let value ← orNil ((initializer g m).map ([·.withField "value"]))
  around "variable_declarator" (name.withField "name") (type ++ value)

def variableKeyword : Parser (Nat × String) := do
  let l ← next
  match l.token with
  | .word "var" => return (l.start, "variable_declaration")
  | .word "const" => return (l.start, "lexical_declaration")
  | .word "let" => return (l.start, "lexical_declaration")
  | .word "using" =>
    guardThat !(← peek).lineBefore
    return (l.start, "using_declaration")
  | .word "await" =>
    let _ ← wordHere "using"
    guardThat !(← peek).lineBefore
    return (l.start, "using_declaration")
  | _ => failure

def bindings (m : Mode) : Parser Node := do
  let (start, kind) ← variableKeyword
  let items ← sepBy1 (declarator g m) (symbol ",")
  node kind start items

def variableStatement : Parser Node := do
  let n ← bindings g .last
  semicolon
  node n.kind n.start n.children

def condition : Parser Node := do return (← parenthesized g).withField "condition"

def elseClause : Parser Node := do
  let start ← word "else"
  let body ← g.rule .statement
  return (← node "else_clause" start [body]).withField "alternative"

def ifStatement : Parser Node := do
  let start ← word "if"
  let test ← condition g
  let consequence ← g.rule .statement
  let alternative ← orNil ((elseClause g).map ([·]))
  node "if_statement" start (test :: consequence.withField "consequence" :: alternative)

def switchCase : Parser Node := do
  let start ← word "case"
  let value ← sequence g .enclosed
  let _ ← symbol ":"
  let body ← many (g.rule .statement)
  node "switch_case" start (value.withField "value" :: body)

def switchDefault : Parser Node := do
  let start ← word "default"
  let _ ← symbol ":"
  let body ← many (g.rule .statement)
  node "switch_default" start body

def switchStatement : Parser Node := do
  let start ← word "switch"
  let value ← parenthesized g
  let bodyStart ← symbol "\x7b"
  let cases ← many (switchCase g <|> switchDefault g)
  let _ ← symbol "\x7d"
  let body ← node "switch_body" bodyStart cases
  node "switch_statement" start [value.withField "value", body.withField "body"]

def iterationHead : Parser (List Node) := do
  let declared : Parser Node := do
    let _ ← variableKeyword
    let name ← g.rule .pattern
    let value ← orNil ((initializer g { Mode.enclosed with noIn := true }).map ([·]))
    match value with
    | [] => return name
    | values => around "variable_declarator" (name.withField "name") values
  let direct : Parser Node := do
    return asPattern (← g.rule (.unary { Mode.enclosed with noIn := true }))
  let through (left : Parser Node) : Parser (List Node) := do
    let target ← left
    let _ ← word "in" <|> word "of"
    let source ← sequence g .enclosed
    return [target.withField "left", source.withField "right"]
  through declared <|> through direct

def countingHead : Parser (List Node) := do
  let start ← orNil
    ((bindings g .enclosed <|> sequence g .enclosed).map ([·.withField "initializer"]))
  let _ ← symbol ";"
  let test ← orNil ((sequence g .enclosed).map ([·.withField "condition"]))
  let _ ← symbol ";"
  let step ← orNil ((sequence g .enclosed).map ([·.withField "increment"]))
  return start ++ test ++ step

def forStatement : Parser Node := do
  let start ← word "for"
  let _ ← optional? (word "await")
  let _ ← symbol "("
  let loop (kind : String) (head : Parser (List Node)) : Parser (String × List Node) := do
    let parts ← head
    let _ ← symbol ")"
    return (kind, parts)
  let (kind, head) ←
    loop "for_in_statement" (iterationHead g) <|> loop "for_statement" (countingHead g)
  let body ← g.rule .statement
  node kind start (head ++ [body.withField "body"])

def whileStatement : Parser Node := do
  let start ← word "while"
  let test ← condition g
  let body ← g.rule .statement
  node "while_statement" start [test, body.withField "body"]

def doStatement : Parser Node := do
  let start ← word "do"
  let body ← g.rule .statement
  let _ ← word "while"
  let test ← condition g
  semicolon
  node "do_statement" start [body.withField "body", test]

def catchClause : Parser Node := do
  let start ← word "catch"
  let parameter_ ← orNil (do
    let _ ← symbol "("
    let name ← g.rule .pattern
    let type ← ifTyped g (typeClause g)
    let _ ← symbol ")"
    return name.withField "parameter" :: type)
  let body ← g.rule .block
  node "catch_clause" start (parameter_ ++ [body.withField "body"])

def finallyClause : Parser Node := do
  let start ← word "finally"
  let body ← g.rule .block
  node "finally_clause" start [body.withField "body"]

def tryStatement : Parser Node := do
  let start ← word "try"
  let body ← g.rule .block
  let handler ← orNil ((catchClause g).map ([·.withField "handler"]))
  let finalizer ← orNil ((finallyClause g).map ([·.withField "finalizer"]))
  node "try_statement" start (body.withField "body" :: handler ++ finalizer)

def throwStatement : Parser Node := do
  let start ← word "throw"
  let value ← sequence g .last
  semicolon
  node "throw_statement" start [value]

def returnStatement : Parser Node := do
  let start ← word "return"
  let value ← orNil (continuesLine g .last false *> (sequence g .last).map ([·]))
  semicolon
  node "return_statement" start value

def jumpStatement (keyword kind : String) : Parser Node := do
  let start ← word keyword
  let label ← orNil (do
    guardThat !(← peek).lineBefore
    return [← identifier])
  semicolon
  node kind start label

def withStatement : Parser Node := do
  let start ← word "with"
  let object ← parenthesized g
  let body ← g.rule .statement
  node "with_statement" start [object, body.withField "body"]

def debuggerStatement : Parser Node := do
  let start ← word "debugger"
  semicolon
  node "debugger_statement" start []

def emptyStatement : Parser Node := do
  let start ← symbol ";"
  node "empty_statement" start []

def labeledStatement : Parser Node := do
  let label ← identifier
  let _ ← symbol ":"
  let body ← g.rule .statement
  around "labeled_statement" (label.withField "label") [body.withField "body"]

def expressionStatement : Parser Node := do
  let value ← sequence g .last
  semicolon
  around "expression_statement" value []

def contextual (keyword : String) : Parser Nat := do
  let start ← word keyword
  guardThat !(← peek).lineBefore
  return start

def typeAlias : Parser Node := do
  let start ← contextual "type"
  let name ← identifier
  let generics ← orNil ((typeParameters g).map ([·]))
  let _ ← symbol "="
  let value ← g.rule .type
  semicolon
  node "type_alias_declaration" start (name :: generics ++ [value])

def interfaceDeclaration : Parser Node := do
  let start ← contextual "interface"
  let name ← identifier
  let generics ← orNil ((typeParameters g).map ([·]))
  let bases ← orNil (word "extends" *> sepBy1 (g.rule .type) (symbol ","))
  let body ← objectType g
  node "interface_declaration" start (name :: generics ++ bases ++ [body])

def enumMember : Parser Node := do
  let name ← propertyName g
  let assignment : Parser Node := do
    let value ← initializer g .enclosed
    around "enum_assignment" (name.withField "name") [value.withField "value"]
  assignment <|> pure name

def enumDeclaration : Parser Node := do
  let start := (← peek).start
  let _ ← optional? (word "const")
  let _ ← word "enum"
  let name ← identifier
  let _ ← symbol "\x7b"
  let members ← commaList (enumMember g)
  let _ ← symbol "\x7d"
  node "enum_declaration" start (name :: members)

def namespaceDeclaration : Parser Node := do
  let start ← contextual "namespace" <|> contextual "module"
  let path : Parser Unit := do
    let _ ← identifier
    let _ ← many (symbol "." *> anyWord "identifier")
  let quoted : Parser Unit := do
    let _ ← satisfying (·.token = .string)
  path <|> quoted
  let body ← orNil ((g.rule .block).map ([·]))
  semicolon
  node "module" start body

def typeDeclaration : Parser Node :=
  typeAlias g <|> interfaceDeclaration g <|> enumDeclaration g <|> namespaceDeclaration g

def declaration : Parser Node := do
  let l ← peek
  match l.token with
  | .word "function" | .word "async" => functionDeclaration g
  | .word "class" | .word "abstract" | .symbol "@" => classDeclaration g
  | .word "var" | .word "let" | .word "using" | .word "await" => variableStatement g
  | .word "const" => (guardThat g.dialect.typed *> enumDeclaration g) <|> variableStatement g
  | .word _ => guardThat g.dialect.typed *> typeDeclaration g
  | _ => failure

def ambientDeclaration : Parser Node := do
  guardThat g.dialect.typed
  let start ← contextual "declare"
  let global : Parser Node := do
    let _ ← word "global"
    g.rule .block
  let exports : Parser Node := do
    let _ ← word "module"
    let _ ← symbol "."
    let name ← anyWord "property_identifier"
    let type ← typeClause g
    around "module_exports" name type
  let inner ← declaration g <|> global <|> exports
  semicolon
  node "ambient_declaration" start [inner]

def sourceString : Parser Node := do
  let l ← satisfying (·.token = .string)
  node "string" l.start []

def importAttributes : Parser (List Node) := do
  let _ ← word "with" <|> wordHere "assert"
  return [← objectLiteral g]

def moduleName : Parser Node := do
  let start := (← peek).start
  let name := anyWord "identifier" <|> sourceString
  let _ ← optional? ((word "type" <|> word "typeof") <* ahead (notAhead (word "as") *> name))
  let first ← name
  let others ← orNil (word "as" *> name.map ([·]))
  node "module_name" start (first :: others)

def namedModules : Parser Node := do
  let start ← symbol "\x7b"
  let items ← commaList moduleName
  let _ ← symbol "\x7d"
  node "named_imports" start items

def wholeModule : Parser Node := do
  let start ← symbol "*"
  let name ← orNil (word "as" *> (anyWord "identifier" <|> sourceString).map ([·]))
  node "namespace_import" start name

def fromSource : Parser (List Node) := do
  let _ ← word "from"
  let source ← sourceString
  let attributes ← orNil (importAttributes g)
  return source :: attributes

def importAlias : Parser (List Node) := do
  let name ← identifier
  let _ ← symbol "="
  let value ← g.rule (.expression .last)
  return [name, value]

def importStatement : Parser Node := do
  let start ← word "import"
  let bare : Parser (List Node) := do
    let source ← sourceString
    let attributes ← orNil (importAttributes g)
    return source :: attributes
  let several := wholeModule <|> namedModules
  let clause : Parser (List Node) := do
    let first ← orNil (identifier.map ([·]))
    let _ ← optional? (symbol ",")
    let others ← orNil (several.map ([·]))
    let source ← fromSource g
    return first ++ others ++ source
  let typed : Parser (List Node) :=
    (word "type" <|> word "typeof") *> (clause <|> importAlias g)
  let parts ← bare <|> clause <|> typed <|> importAlias g
  semicolon
  node "import_statement" start parts

def defaultExport : Parser Node := do
  let _ ← word "default"
  let named := functionDeclaration g <|> classDeclaration g <|>
    (guardThat g.dialect.typed *> interfaceDeclaration g)
  let value : Parser Node := do
    let value ← g.rule (.expression .last)
    semicolon
    return value
  return (← named <|> value).withField "value"

def exportStatement : Parser Node := do
  let start := (← peek).start
  let marks ← decorators g
  let _ ← word "export"
  let several : Parser (List Node) := do
    let _ ← optional? (word "type")
    let names ← wholeModule <|> namedModules
    let source ← orNil (fromSource g)
    semicolon
    return names :: source
  let assigned_ : Parser (List Node) := do
    let value ← initializer g .last
    semicolon
    return [value]
  let namespaced : Parser (List Node) := do
    let _ ← word "as"
    let _ ← word "namespace"
    let name ← identifier
    semicolon
    return [name]
  let inner ← (defaultExport g).map ([·]) <|> several <|>
    (ambientDeclaration g <|> declaration g <|> importStatement g).map ([·.withField "declaration"])
    <|> assigned_ <|> namespaced
  node "export_statement" start (marks ++ inner)

def keywordStatement? : String → Option (Parser Node)
  | "if" => some (ifStatement g)
  | "switch" => some (switchStatement g)
  | "for" => some (forStatement g)
  | "while" => some (whileStatement g)
  | "do" => some (doStatement g)
  | "try" => some (tryStatement g)
  | "throw" => some (throwStatement g)
  | "return" => some (returnStatement g)
  | "break" => some (jumpStatement "break" "break_statement")
  | "continue" => some (jumpStatement "continue" "continue_statement")
  | "with" => some (withStatement g)
  | "debugger" => some debuggerStatement
  | "export" => some (exportStatement g)
  | "import" => some (importStatement g <|> expressionStatement g)
  | _ => none

def statement : Parser Node := do
  match (← peek).token with
  | .symbol "\x7b" => g.rule .block
  | .symbol ";" => emptyStatement
  | .symbol "@" => exportStatement g <|> classDeclaration g <|> expressionStatement g
  | .word w =>
    match keywordStatement? g w with
    | some p => p
    | none =>
      labeledStatement g <|> ambientDeclaration g <|> declaration g <|> expressionStatement g
  | .stop => failure
  | _ => expressionStatement g

def skipped : Parser Node := do
  let _ ← blanks
  let c ← cursor
  guardThat (!c.rest.isEmpty)
  match tokenAt? c.rest with
  | some (token, size) =>
    guardThat (token ≠ .symbol "\x7d")
    take (max size 1)
  | none => take 1
  node "ERROR" c.offset []

def block : Parser Node := do
  let start ← symbol "\x7b"
  let statements ← many (g.rule .statement <|> skipped)
  let _ ← symbol "\x7d"
  node "statement_block" start statements

end ComplexityHints.Syntax.Script
