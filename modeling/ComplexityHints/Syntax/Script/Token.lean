import ComplexityHints.Syntax.Parser

namespace ComplexityHints.Syntax.Script

inductive Token where
  | word (s : String)
  | privateName
  | number
  | string
  | template
  | symbol (s : String)
  | stop
deriving DecidableEq, Repr

/-- A token with its place: its offset, whether a line ends before it, and the text from it on. -/
structure Lexeme where
  token : Token
  start : Nat
  lineBefore : Bool
  source : List Char

def endsLine (c : Char) : Bool := c = '\n' || c = '\u2028' || c = '\u2029'

def isBlank (c : Char) : Bool :=
  c = ' ' || ('\t' ≤ c && c ≤ '\r') || c = '\u00A0' || c = '\uFEFF' || c = '\u200B' ||
    c = '\u2060' || c = '\u1680' || c = '\u202F' || c = '\u205F' || c = '\u3000' ||
    c = '\u2028' || c = '\u2029' || ('\u2000' ≤ c && c ≤ '\u200A') || c = '\u0085'

def isMark (c : Char) : Bool :=
  c.toNat < 32 || isBlank c || ":;`\x22'@#.,|^&<=>+-*/\\%?!~()[]\x7b\x7d".toList.contains c

def isNameStart (c : Char) : Bool := !isMark c && !c.isDigit

def isNameRest (c : Char) : Bool := !isMark c

def blockLength : List Char → Nat
  | [] => 0
  | '*' :: '/' :: _ => 2
  | _ :: rest => blockLength rest + 1

def lineLength (s : List Char) : Nat := (s.takeWhile (!endsLine ·)).length

def commentLength (s : List Char) : Nat :=
  (s.takeWhile fun c => !endsLine c && c ≠ '\r').length

/-- The length of the blank or comment that a text starts with, if any. An arrow of three characters
is a comment only at the start of a line. -/
def triviumLength? (lineStart : Bool) : List Char → Option Nat
  | '/' :: '/' :: rest => some (commentLength rest + 2)
  | '/' :: '*' :: rest => some (blockLength rest + 2)
  | '<' :: '!' :: '-' :: '-' :: rest => some (lineLength rest + 4)
  | '-' :: '-' :: '>' :: rest => if lineStart then some (lineLength rest + 3) else none
  | c :: _ => if isBlank c then some 1 else none
  | [] => none

/-- Skips blanks and comments, at most `n` of them, and tells whether a line ended among them. -/
def skipTrivia (lineBefore : Bool) : Nat → Parser Bool
  | 0 => pure lineBefore
  | n + 1 => do
    let c ← Parser.cursor
    match triviumLength? (lineBefore || c.offset = 0) c.rest with
    | none => pure lineBefore
    | some size =>
      Parser.take size
      skipTrivia (lineBefore || (c.rest.take size).any endsLine) n

def blanks : Parser Bool := do skipTrivia false (← Parser.cursor).limit

/-- The length of a string behind its opening quote, the closing quote included. A backslash takes
the next character along, a line break too. -/
def stringLength? (quote : Char) : List Char → Option Nat
  | [] => none
  | '\\' :: '\r' :: '\n' :: rest => (stringLength? quote rest).map (· + 3)
  | '\\' :: _ :: rest => (stringLength? quote rest).map (· + 2)
  | c :: rest =>
    if c = quote then some 1
    else if c = '\n' then none
    else (stringLength? quote rest).map (· + 1)

/-- The length of a name; an escaped code point counts as part of it. `escaped` tells whether the
braces of one are open. -/
def nameLength (escaped : Bool) : List Char → Nat
  | [] => 0
  | '\\' :: 'u' :: '\x7b' :: rest => nameLength true rest + 3
  | '\\' :: 'u' :: rest => nameLength false rest + 2
  | c :: rest =>
    if escaped then nameLength (c ≠ '\x7d') rest + 1
    else if isNameRest c then nameLength false rest + 1
    else 0

def startsName : List Char → Bool
  | '\\' :: 'u' :: _ => true
  | c :: _ => isNameStart c
  | [] => false

def digitsLength (s : List Char) : Nat := (s.takeWhile fun c => c.isDigit || c = '_').length

def exponentLength : List Char → Nat
  | mark :: '+' :: d :: rest | mark :: '-' :: d :: rest =>
    if (mark = 'e' || mark = 'E') && d.isDigit then digitsLength rest + 3 else 0
  | mark :: d :: rest =>
    if (mark = 'e' || mark = 'E') && d.isDigit then digitsLength rest + 2 else 0
  | _ => 0

/-- The length of a number: of another base, or with fraction, exponent or the mark of a big
integer. -/
def numberLength (s : List Char) : Nat :=
  let isBase : Bool := match s with
    | '0' :: c :: _ => "xXoObB".contains c
    | _ => false
  if isBase then (s.takeWhile fun c => c.isAlphanum || c = '_').length
  else
    let whole := digitsLength s
    let afterWhole := s.drop whole
    match afterWhole with
    | 'n' :: _ => whole + 1
    | '.' :: rest =>
      let fraction := digitsLength rest
      whole + 1 + fraction + exponentLength (rest.drop fraction)
    | rest => whole + exponentLength rest

def symbols : List String := [
  ">>>=", "...", "===", "!==", "**=", "<<=", ">>=", ">>>", "&&=", "||=", "??=",
  "=>", "==", "!=", "<=", ">=", "&&", "||", "??", "?.", "++", "--", "+=", "-=", "*=", "/=", "%=",
  "&=", "|=", "^=", "<<", ">>", "**",
  "\x7b", "\x7d", "(", ")", "[", "]", ";", ",", "<", ">", "+", "-", "*", "/", "%", "&", "|", "^",
  "!", "~", "?", ":", "=", ".", "@"]

def spelled : List (String × List Char) := symbols.map fun s => (s, s.toList)

/-- The symbol at the start of a text. A question mark, a dot and a digit are a conditional. -/
def symbolAt? (s : List Char) : Option String :=
  let longest := (spelled.find? (·.2.isPrefixOf s)).map (·.1)
  match s with
  | '?' :: '.' :: d :: _ => if d.isDigit then some "?" else longest
  | _ => longest

def tokenAt? (s : List Char) : Option (Token × Nat) :=
  match s with
  | [] => some (.stop, 0)
  | c :: rest =>
    if startsName s then
      let size := nameLength false s
      some (.word (String.ofList (s.take size)), size)
    else if c.isDigit || (c = '.' && rest.head?.any Char.isDigit) then
      some (.number, numberLength s)
    else if c = '\x22' || c = '\x27' then (stringLength? c rest).map fun n => (.string, n + 1)
    else if c = '\x60' then some (.template, 1)
    else if c = '#' && startsName rest then some (.privateName, nameLength false rest + 1)
    else (symbolAt? s).map fun symbol => (.symbol symbol, symbol.length)

def next : Parser Lexeme := do
  let lineBefore ← blanks
  let c ← Parser.cursor
  match tokenAt? c.rest with
  | some (token, size) =>
    Parser.take size
    return ⟨token, c.offset, lineBefore, c.rest⟩
  | none => failure

def peek : Parser Lexeme := fun c => (next c).map fun (lexeme, _) => (lexeme, c)

def satisfying (p : Lexeme → Bool) : Parser Lexeme := do
  let lexeme ← next
  Parser.guardThat (p lexeme)
  return lexeme

def symbol (s : String) : Parser Nat := do return (← satisfying (·.token = .symbol s)).start

def word (s : String) : Parser Nat := do return (← satisfying (·.token = .word s)).start

def wordHere (s : String) : Parser Nat := do
  return (← satisfying fun l => l.token = .word s && !l.lineBefore).start

def char (c : Char) : Parser Nat := do
  let _ ← blanks
  let here ← Parser.cursor
  Parser.guardThat (here.rest.head? = some c)
  Parser.take 1
  return here.offset

def atSymbol (s : String) : Parser Bool := do return (← peek).token = .symbol s

def reserved : List String := [
  "break", "case", "catch", "class", "const", "continue", "debugger", "default", "delete", "do",
  "else", "extends", "false", "finally", "for", "function", "if", "import", "in",
  "instanceof", "new", "null", "return", "super", "switch", "this", "throw", "true", "try",
  "typeof", "var", "void", "while", "with", "yield", "await", "enum"]

def isIdentifier : Token → Bool
  | .word s => !reserved.contains s
  | _ => false

def identifier : Parser Node := do
  let l ← satisfying (isIdentifier ·.token)
  Parser.node "identifier" l.start []

def anyWord (kind : String) : Parser Node := do
  let l ← satisfying fun l => match l.token with
    | .word _ => true
    | _ => false
  Parser.node kind l.start []

def tokenNode (kind : String) (start : Nat) (field : Option String) : Parser Node := do
  return .mk kind start (← Parser.cursor).offset field false []

end ComplexityHints.Syntax.Script
