import ComplexityHints.Report.Basic
import ComplexityHints.Text.Lines

namespace ComplexityHints

inductive Json where
  | int (n : Int)
  | str (s : String)
  | arr (items : List Json)
  | obj (members : List (String × Json))

namespace Json

def unitEscape (n : Nat) : List Char := '\\' :: 'u' :: Quoted.hex 4 n

/-- A character inside a string. Beyond the basic plane it is a pair of surrogates. -/
def escapeChar (c : Char) : List Char :=
  let n := c.toNat
  if c = '\x22' then ['\\', '\x22']
  else if c = '\\' then ['\\', '\\']
  else if c = '\n' then ['\\', 'n']
  else if c = '\r' then ['\\', 'r']
  else if c = '\t' then ['\\', 't']
  else if n = 8 then ['\\', 'b']
  else if n = 12 then ['\\', 'f']
  else if 32 ≤ n ∧ n < 127 then [c]
  else if n < 0x10000 then unitEscape n
  else unitEscape (0xD800 + (n - 0x10000) / 1024) ++ unitEscape (0xDC00 + (n - 0x10000) % 1024)

def quote (s : String) : String :=
  String.ofList ('\x22' :: s.toList.flatMap escapeChar ++ ['\x22'])

def indentation (level : Nat) : String := String.ofList (List.replicate (2 * level) ' ')

/-- Items on lines of their own between brackets; empty brackets stay on one line. -/
def bracketed (openMark closeMark : String) (level : Nat) (items : List String) : String :=
  if items.isEmpty then openMark ++ closeMark
  else
    openMark ++ "\n" ++
      ",\n".intercalate (items.map fun item => indentation (level + 1) ++ item) ++
      "\n" ++ indentation level ++ closeMark

mutual

def write (level : Nat) : Json → String
  | int n => decimal n
  | str s => quote s
  | arr items => bracketed "[" "]" level (writeItems (level + 1) items)
  | obj members => bracketed "\x7b" "\x7d" level (writeMembers (level + 1) members)

def writeItems (level : Nat) : List Json → List String
  | [] => []
  | item :: items => write level item :: writeItems level items

def writeMembers (level : Nat) : List (String × Json) → List String
  | [] => []
  | (key, value) :: members =>
    (quote key ++ ": " ++ write level value) :: writeMembers level members

end

def ofPosition (p : Position) : Json :=
  obj [("line", int p.line), ("character", int p.character)]

def ofUnit (s : Settings) (d : Document) (u : MetricUnit) : Except Fault Json := do
  let message ← u.message s
  return obj [
    ("name", str u.label),
    ("complexity", int u.collected),
    ("message", str message),
    ("start", ofPosition (d.positionAt u.start)),
    ("end", ofPosition (d.positionAt u.stop)),
    ("explanation", arr ((splitLines u.explanation.toList).map fun line =>
      str (String.ofList line)))]

def ofDiagnostic (d : Diagnostic) : Json :=
  obj [
    ("message", str d.message),
    ("severity", int Diagnostic.severity),
    ("source", str Diagnostic.source),
    ("code", str Diagnostic.code),
    ("range", obj [("start", ofPosition d.start), ("end", ofPosition d.stop)])]

def ofReport (s : Settings) (r : FileReport) : Except Fault Json := do
  let head := [("uri", str r.document.uri), ("language", str r.document.languageId)]
  match r.error with
  | some error => return obj (head ++ [("error", str error)])
  | none =>
    let units ← r.units.mapM (ofUnit s r.document)
    return obj (head ++
      [("metrics", arr units), ("diagnostics", arr (r.diagnostics.map ofDiagnostic))])

def report (s : Settings) (reports : List FileReport) : Except Fault String :=
  return write 0 (arr (← reports.mapM (ofReport s)))

end Json

end ComplexityHints
