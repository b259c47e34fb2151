import ComplexityHints.Syntax.Script.Context

namespace ComplexityHints.Syntax.Script

open ComplexityHints.Syntax.Parser

variable (g : Context)

def propertyName : Parser Node := do
  let l ← next
  match l.token with
  | .word _ => node "property_identifier" l.start []
  | .privateName => node "private_property_identifier" l.start []
  | .string => node "string" l.start []
  | .number => node "number" l.start []
  | .symbol "[" =>
    let inner ← g.rule (.expression .enclosed)
    let _ ← symbol "]"
    node "computed_property_name" l.start [inner]
  | _ => failure

def startsMember : Token → Bool
  | .word _ | .privateName | .string | .number | .symbol "[" | .symbol "*" => true
  | _ => false

/-- Words in front of a member's name, as long as a name still follows. -/
def modifiers (words : List String) (m : Mode) : Parser (List String) := many do
  match (← next).token with
  | .word w =>
    guardThat (words.contains w)
    let after ← peek
    guardThat (m.allows after && startsMember after.token)
    return w
  | _ => failure

def decorator : Parser Node := do
  let start ← symbol "@"
  let dotted (object : Node) : Parser Node := do
    let _ ← symbol "."
    let key ← propertyName g
    around "member_expression" (object.withField "object") [key.withField "property"]
  let called (callee : Node) : Parser Node := do
    let types ← ifTyped g ((typeArguments g).map ([·]))
    let args ← arguments g
    around "call_expression" (callee.withField "function") (types ++ [args.withField "arguments"])
  let path ← parenthesized g <|> anyWord "identifier"
  let value ← extendAll (fun n => dotted n <|> called n) path
  node "decorator" start [value]

def decorators : Parser (List Node) := many (decorator g)

def defaulted (kind : String) (pattern : Node) : Parser Node := do
  let withDefault : Parser Node := do
    let value ← initializer g .enclosed
    around kind (pattern.withField "left") [value.withField "right"]
  withDefault <|> pure pattern

def restPattern : Parser Node := do
  let start ← symbol "..."
  let inner ← g.rule .pattern
  node "rest_pattern" start [inner]

def patternElement : Parser Node := do
  restPattern g <|> (do
    let inner ← g.rule .pattern
    defaulted g "assignment_pattern" inner)

def elements (element : Parser Node) : Parser (List Node) := do
  let items ← many ((symbol "," *> pure []) <|> element.map ([·]))
  let _ ← symbol "]"
  return items.flatten

def arrayPattern : Parser Node := do
  let start ← symbol "["
  let items ← elements (patternElement g)
  node "array_pattern" start items

def patternProperty : Parser Node := do
  let keyed : Parser Node := do
    let key ← propertyName g
    let _ ← symbol ":"
    let value ← patternElement g
    around "pair_pattern" (key.withField "key") [value.withField "value"]
  let shorthand : Parser Node := do
    let name ← anyWord "shorthand_property_identifier_pattern"
    defaulted g "object_assignment_pattern" name
  restPattern g <|> keyed <|> shorthand

def objectPattern : Parser Node := do
  let start ← symbol "\x7b"
  let items ← commaList (patternProperty g)
  let _ ← symbol "\x7d"
  node "object_pattern" start items

def pattern : Parser Node := do
  match (← peek).token with
  | .symbol "\x7b" => objectPattern g
  | .symbol "[" => arrayPattern g
  | _ => identifier

def isParameterModifier : Token → Bool
  | .word w => ["public", "private", "protected", "override", "readonly"].contains w
  | _ => false

def thisParameter : Parser Node := do
  let start ← word "this"
  node "this" start []

def typedParameter : Parser Node := do
  let start := (← peek).start
  let marks ← decorators g
  let _ ← many (satisfying (isParameterModifier ·.token) <* ahead (g.rule .pattern))
  let target ← restPattern g <|> thisParameter <|> g.rule .pattern
  let isOptional ← accept (symbol "?")
  let type ← orNil (typeClause g)
  let value ← orNil ((initializer g .enclosed).map ([·.withField "value"]))
  node (if isOptional then "optional_parameter" else "required_parameter") start
    (marks ++ target.withField "pattern" :: type ++ value)

def parameter : Parser Node := if g.dialect.typed then typedParameter g else patternElement g

def parameters : Parser Node := do
  let start ← symbol "("
  let items ← commaList (parameter g)
  let _ ← symbol ")"
  node "formal_parameters" start items

end ComplexityHints.Syntax.Script
