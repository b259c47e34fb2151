import ComplexityHints.Report.Basic
import ComplexityHints.Text.Cells
import ComplexityHints.Text.Lines

namespace ComplexityHints

inductive Align where
  | left
  | right
  | center
deriving DecidableEq, Repr

structure Column where
  header : String
  align : Align := .left

structure Table where
  title : String
  titleAlign : Align
  columns : List Column
  rows : List (List String)

namespace Table

def spaces (n : Nat) : String := String.ofList (List.replicate n ' ')

/-- Controls that would move the cursor; they are never shown. -/
def isCursorControl (c : Char) : Bool :=
  c = '\x07' || c = '\x08' || c = '\x0b' || c = '\x0c' || c = '\r'

def cellLines (s : String) : List String :=
  (String.ofList (s.toList.filter (!isCursorControl ·))).splitOn "\n"

/-- A line on a given width; what is left over when it is centered goes to the right. -/
def pad (align : Align) (width : Nat) (s : String) : String :=
  let free := width - lineCells s.toList
  match align with
  | .left => s ++ spaces free
  | .right => spaces free ++ s
  | .center => spaces (free / 2) ++ s ++ spaces (free - free / 2)

def cellWidth (s : String) : Nat :=
  (cellLines s).foldl (fun w line => max w (lineCells line.toList)) 0

def widths (t : Table) : List Nat :=
  t.columns.mapIdx fun i column =>
    t.rows.foldl (fun w row => max w (cellWidth (row[i]?.getD ""))) (cellWidth column.header)

structure Rule where
  left : String
  fill : Char
  cross : String
  right : String

def top : Rule := ⟨"┏", '━', "┳", "┓"⟩

def middle : Rule := ⟨"┡", '━', "╇", "┩"⟩

def bottom : Rule := ⟨"└", '─', "┴", "┘"⟩

def Rule.line (r : Rule) (widths : List Nat) : String :=
  r.left ++
    r.cross.intercalate (widths.map fun w => String.ofList (List.replicate (w + 2) r.fill)) ++
    r.right

def rowLine (bar : String) (columns : List Column) (widths : List Nat) (cells : List String) :
    String :=
  bar ++ bar.intercalate ((columns.zip widths).mapIdx fun i (column, w) =>
    " " ++ pad column.align w (cells[i]?.getD "") ++ " ") ++ bar

def rowLines (bar : String) (columns : List Column) (widths : List Nat) (cells : List String) :
    List String :=
  let parts := cells.map cellLines
  let height := parts.foldl (fun h part => max h part.length) 1
  (List.range height).map fun k =>
    rowLine bar columns widths (parts.map fun part => part[k]?.getD "")

def lines (t : Table) : List String :=
  let widths := t.widths
  let width := widths.foldl (· + ·) 0 + 3 * widths.length + 1
  [pad t.titleAlign width t.title, top.line widths,
    rowLine "┃" t.columns widths (t.columns.map (·.header)), middle.line widths] ++
    t.rows.flatMap (rowLines "│" t.columns widths) ++ [bottom.line widths]

end Table

def Level.style : Level → String
  | .low => "green"
  | .normal => "yellow"
  | .high => "red"
  | .extreme => "red bold"

def Level.styled (l : Level) (complexity : Int) : String :=
  "[" ++ l.style ++ "]" ++ decimal complexity ++ "[/" ++ l.style ++ "]"

def styledComplexity (s : Settings) (complexity : Int) : Except Fault String :=
  return (← s.level complexity).styled complexity

namespace FileReport

def columns : List Column :=
  [⟨"Line", .right⟩, ⟨"Name", .left⟩, ⟨"Complexity", .right⟩, ⟨"Message", .left⟩]

/-- The rows of a unit: one for itself, and with `verbose` one per line of its explanation. The
complexity is styled before the message is written; the style does not show in plain text. -/
def unitRows (s : Settings) (verbose : Bool) (d : Document) (u : MetricUnit) :
    Except Fault (List (List String)) := do
  let _ ← styledComplexity s u.collected
  let message ← u.message s
  let row := [decimal ((d.positionAt u.start).line + 1), u.label, decimal u.collected, message]
  let details := if verbose then splitLines u.explanation.toList else []
  return row :: details.map fun line => ["", "", "", String.ofList line]

/-- The lines of a report. A file without units shows only with `verbose`. -/
def lines (s : Settings) (verbose : Bool) (r : FileReport) : Except Fault (List String) :=
  match r.error with
  | some error => .ok ["✗ " ++ r.document.uri ++ ": " ++ error]
  | none =>
    if r.units.isEmpty then
      .ok (if verbose then [r.document.uri ++ ": nothing above threshold"] else [])
    else do
      let rows ← r.units.mapM (unitRows s verbose r.document)
      return Table.lines ⟨r.document.uri, .left, columns, rows.flatten⟩

def summary (reports : List FileReport) : String :=
  let units := reports.foldl (fun n report => n + report.units.length) 0
  let failed := reports.countP (·.error.isSome)
  s!"{reports.length} file(s), {units} complex unit(s)" ++
    (if failed = 0 then "" else s!", {failed} failed")

/-- The lines of a run up to the first fault, and the fault if there is one. -/
def allLines (s : Settings) (verbose : Bool) (all : List FileReport) :
    List FileReport → List String × Option Fault
  | [] => ([summary all], none)
  | r :: rs =>
    match r.lines s verbose with
    | .error fault => ([], some fault)
    | .ok first =>
      let (others, fault) := allLines s verbose all rs
      (first ++ others, fault)

end FileReport

end ComplexityHints
