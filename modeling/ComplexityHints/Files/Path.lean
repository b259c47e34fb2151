import ComplexityHints.Glob.Pattern
import ComplexityHints.Language
import ComplexityHints.Text.Utf8

namespace ComplexityHints

structure Path where
  absolute : Bool
  components : List String
deriving DecidableEq, Repr

namespace Path

def ofString (s : String) : Path :=
  let parts := (Glob.segments s.toList).map String.ofList
  ⟨s.toList.head? = some '/', parts.filter fun part => part ≠ "" ∧ part ≠ "."⟩

def text (p : Path) : String :=
  let joined := "/".intercalate p.components
  if p.absolute then "/" ++ joined
  else if p.components.isEmpty then "." else joined

def append (p : Path) (components : List String) : Path :=
  { p with components := p.components ++ components }

def name (p : Path) : String := p.components.getLast?.getD ""

/-- The extension: from the last dot of the name on, if the dot is neither first nor last. -/
def suffix (p : Path) : String :=
  let chars := p.name.toList
  let tail := (chars.reverse.takeWhile (· ≠ '.')).reverse
  if tail.length + 1 < chars.length ∧ tail ≠ [] then String.ofList ('.' :: tail) else ""

def language? (p : Path) : Option Language :=
  Language.ofExtension? (String.ofList (p.suffix.toList.map Char.toLower))

/-- The absolute components of a path read in a directory, every `..` carried out. -/
def resolve (directory : List String) (p : Path) : List String :=
  p.components.foldl (fun done part => if part = ".." then done.dropLast else done ++ [part])
    (if p.absolute then [] else directory)

end Path

def isUriByte (b : UInt8) : Bool :=
  let c := Char.ofNat b.toNat
  (b.toNat < 128 && c.isAlphanum) || c = '_' || c = '.' || c = '-' || c = '~' || c = '/'

def hexUpper (n : Nat) : Char :=
  if n < 10 then Char.ofNat (n + 48) else Char.ofNat (n + 55)

/-- The URI of a file: bytes outside the unreserved characters are written in hexadecimal. -/
def fileUri (components : List String) : String :=
  let path := "/" ++ "/".intercalate components
  let escaped := (Utf8.encode path.toList).flatMap fun b =>
    if isUriByte b then [Char.ofNat b.toNat]
    else ['%', hexUpper (b.toNat / 16), hexUpper (b.toNat % 16)]
  "file://" ++ String.ofList escaped

end ComplexityHints
