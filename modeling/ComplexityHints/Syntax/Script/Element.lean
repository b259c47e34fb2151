import ComplexityHints.Syntax.Script.Context

namespace ComplexityHints.Syntax.Script

open ComplexityHints.Syntax.Parser

variable (g : Context)

def tagWord : Parser Unit := do
  let _ ← blanks
  let name := (← cursor).rest.takeWhile fun c => isNameRest c || c = '-'
  guardThat (!name.isEmpty)
  take name.length

def tagName : Parser Node := do
  let _ ← blanks
  let start := (← cursor).offset
  tagWord
  let _ ← many ((char ':' <|> char '.') *> tagWord)
  node "identifier" start []

def elementExpression : Parser Node := do
  let start ← symbol "\x7b"
  let inner ← orNil ((spread g <|> sequence g .enclosed).map ([·]))
  let _ ← symbol "\x7d"
  node "jsx_expression" start inner

def elementString : Parser Node := do
  let _ ← blanks
  let c ← cursor
  match c.rest with
  | quote :: rest =>
    guardThat (quote = '\x22' || quote = '\x27')
    let inner := rest.takeWhile (· ≠ quote)
    guardThat (inner.length < rest.length)
    take (inner.length + 2)
    node "string" c.offset []
  | [] => failure

def tagAttribute : Parser Node := do
  let named : Parser Node := do
    let name ← tagName
    let value ← orNil (char '=' *>
      (elementString <|> elementExpression g <|> g.rule .element).map ([·]))
    around "jsx_attribute" name value
  elementExpression g <|> named

def elementText : Parser Node := do
  let c ← cursor
  let text := c.rest.takeWhile fun c => c ≠ '<' && c ≠ '\x7b'
  guardThat (!text.isEmpty)
  take text.length
  node "jsx_text" c.offset []

def closingStart : Parser Nat := char '<' <* char '/'

def elementChild : Parser Node := do
  elementText <|> elementExpression g <|> (notAhead closingStart *> g.rule .element)

def elementRest : Parser (List Node) := do
  let children ← many (elementChild g)
  let start ← closingStart
  let _ ← optional? tagName
  let _ ← char '>'
  return children ++ [← node "jsx_closing_element" start []]

def element : Parser Node := do
  let start ← char '<'
  let fragment : Parser Node := do
    let _ ← char '>'
    let inner ← elementRest g
    node "jsx_element" start inner
  let tagged : Parser Node := do
    let name ← tagName
    let generics ← ifTyped g ((typeArguments g).map ([·]))
    let attributes ← many (tagAttribute g)
    let opening := name.withField "name" :: generics ++ attributes
    let closed : Parser Node := do
      let _ ← char '/'
      let _ ← char '>'
      node "jsx_self_closing_element" start opening
    let paired : Parser Node := do
      let _ ← char '>'
      let inner ← elementRest g
      node "jsx_element" start (opening ++ inner)
    closed <|> paired
  fragment <|> tagged

end ComplexityHints.Syntax.Script
