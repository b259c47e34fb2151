import ComplexityHints.Syntax.Parser

namespace ComplexityHints.Syntax.Lua

inductive Token where
  | word (s : String)
  | number
  | string
  | symbol (s : String)
  | stop
deriving DecidableEq, Repr

def isBlank (c : Char) : Bool :=
  c = ' ' || ('\t' ≤ c && c ≤ '\r') || c = '\u00A0' || c = '\uFEFF' || c = '\u200B' ||
    c = '\u2060' || c = '\u1680' || c = '\u202F' || c = '\u205F' || c = '\u3000' ||
    c = '\u2028' || c = '\u2029' || ('\u2000' ≤ c && c ≤ '\u200A') || c = '\u0085'

def isMark (c : Char) : Bool :=
  c.toNat < 32 || c.toNat = 127 || isBlank c ||
    "+-*/%^#&~|<>=()\x7b\x7d[];:,.\\'\x22".toList.contains c

def isNameStart (c : Char) : Bool := !isMark c && !c.isDigit

def isNameRest (c : Char) : Bool := !isMark c

def longBracket? : List Char → Option (Nat × List Char)
  | '[' :: rest =>
    match rest.dropWhile (· = '=') with
    | '[' :: after => some ((rest.takeWhile (· = '=')).length, after)
    | _ => none
  | _ => none

def longBody? (level : Nat) : List Char → Option Nat
  | [] => none
  | c :: rest =>
    if (']' :: List.replicate level '=' ++ [']']).isPrefixOf (c :: rest) then some (level + 2)
    else (longBody? level rest).map (· + 1)

def longLength? (s : List Char) : Option Nat := do
  let (level, after) ← longBracket? s
  let body ← longBody? level after
  return level + 2 + body

/-- The length of the comment that a text starts with. An unclosed long comment is a line comment. -/
def commentLength? : List Char → Option Nat
  | '-' :: '-' :: rest =>
    match longLength? rest with
    | some n => some (n + 2)
    | none => some ((rest.takeWhile (· ≠ '\n')).length + 2)
  | _ => none

def trivium : Parser Unit := do
  match (← Parser.cursor).rest with
  | [] => failure
  | c :: rest =>
    if isBlank c then Parser.take 1
    else match commentLength? (c :: rest) with
      | some n => Parser.take n
      | none => failure

/-- The length of a short string behind its opening quote, the closing quote included. `skipping`
tells that an escaped `z` has just been read, which takes the blanks behind it along. -/
def shortBody? (quote : Char) (skipping : Bool) : List Char → Option Nat
  | [] => none
  | '\\' :: c :: rest => (shortBody? quote (c = 'z') rest).map (· + 2)
  | c :: rest =>
    if c = quote then some 1
    else if skipping && isBlank c then (shortBody? quote true rest).map (· + 1)
    else if c = '\n' then none
    else (shortBody? quote false rest).map (· + 1)

/-- The length of a numeral: digits, letters, dots, and a sign right behind an exponent mark. -/
def numberLength (hex : Bool) : List Char → Nat
  | [] => 0
  | c :: sign :: rest =>
    let mark := if hex then c = 'p' ∨ c = 'P' else c = 'e' ∨ c = 'E'
    if mark ∧ (sign = '+' ∨ sign = '-') then numberLength hex rest + 2
    else if c.isAlphanum ∨ c = '.' ∨ c = '_' then numberLength hex (sign :: rest) + 1
    else 0
  | [c] => if c.isAlphanum ∨ c = '.' then 1 else 0

/-- Operators and punctuation, longer ones before their beginnings. -/
def symbols : List String := [
  "...", "..", "==", "~=", "<=", ">=", "<<", ">>", "//", "::", "+", "-", "*", "/", "%", "^", "#",
  "&", "~", "|", "<", ">", "=", "(", ")", "\x7b", "\x7d", "[", "]", ";", ":", ",", "."]

def tokenAt? : List Char → Option (Token × Nat)
  | [] => some (.stop, 0)
  | c :: rest =>
    if isNameStart c then
      let name := c :: rest.takeWhile isNameRest
      some (.word (String.ofList name), name.length)
    else if c.isDigit || (c = '.' && rest.head?.any Char.isDigit) then
      let hex := c = '0' && (rest.head? = some 'x' || rest.head? = some 'X')
      some (.number, numberLength hex (c :: rest))
    else if c = '\x22' || c = '\x27' then
      (shortBody? c false rest).map fun n => (.string, n + 1)
    else
      match longLength? (c :: rest) with
      | some n => some (.string, n)
      | none =>
        (symbols.find? fun s => s.toList.isPrefixOf (c :: rest)).map fun s => (.symbol s, s.length)

def next : Parser (Token × Nat) := do
  let _ ← Parser.many trivium
  let c ← Parser.cursor
  match tokenAt? c.rest with
  | some (token, size) =>
    Parser.take size
    return (token, c.offset)
  | none => failure

def token (t : Token) : Parser Nat := do
  let (found, start) ← next
  Parser.guardThat (found = t)
  return start

def symbol (s : String) : Parser Nat := token (.symbol s)

def keyword (s : String) : Parser Nat := token (.word s)

def reserved : List String := [
  "and", "break", "do", "else", "elseif", "end", "false", "for", "function", "goto", "if", "in",
  "local", "nil", "not", "or", "repeat", "return", "then", "true", "until", "while"]

def name : Parser Node := do
  match ← next with
  | (.word s, start) =>
    Parser.guardThat (!reserved.contains s)
    Parser.node "identifier" start []
  | _ => failure

def tokenNode (kind : String) (start : Nat) (field : Option String) : Parser Node := do
  return .mk kind start (← Parser.cursor).offset field false []

end ComplexityHints.Syntax.Lua
