import ComplexityHints.Syntax.Script.Binding

namespace ComplexityHints.Syntax.Script

open ComplexityHints.Syntax.Parser

def templateTextLength : List Char → Nat
  | [] => 0
  | '\\' :: _ :: rest => templateTextLength rest + 2
  | '$' :: '\x7b' :: _ => 0
  | c :: rest => if c = '\x60' then 0 else templateTextLength rest + 1

def templateText : Parser Unit := do take (templateTextLength (← cursor).rest)

def substitution (inner : Parser Node) : Parser Node := do
  let c ← cursor
  guardThat (c.rest.take 2 = ['$', '\x7b'])
  take 2
  let value ← inner
  let _ ← symbol "\x7d"
  let n ← node "template_substitution" c.offset [value]
  templateText
  return n

def template (inner : Parser Node) : Parser Node := do
  let l ← satisfying (·.token = .template)
  templateText
  let parts ← many (substitution inner)
  guardThat ((← cursor).rest.head? = some '\x60')
  take 1
  node "template_string" l.start parts

/-- The length of a regular expression behind its opening slash, with its flags. A slash in a
character class does not close it. -/
def regexLength? (inClass : Bool) : List Char → Option Nat
  | [] => none
  | '\\' :: c :: rest => if c = '\n' then none else (regexLength? inClass rest).map (· + 2)
  | c :: rest =>
    if c = '\n' then none
    else if c = '/' ∧ !inClass then some ((rest.takeWhile Char.isLower).length + 1)
    else (regexLength? (c = '[' || (inClass && c ≠ ']')) rest).map (· + 1)

def regex : Parser Node := do
  let start ← char '/'
  match regexLength? false (← cursor).rest with
  | some size =>
    take size
    node "regex" start []
  | none => failure

end ComplexityHints.Syntax.Script
