import ComplexityHints.Files.Path

namespace ComplexityHints

inductive AccessError where
  | missing
  | notDirectory
  | isDirectory
  /-- An error of the system under its number: no permission, too long a name, a failing disk. -/
  | refused (number : Nat) (reason : String)
deriving DecidableEq, Repr

namespace AccessError

def message : AccessError → String
  | missing => "[Errno 2] No such file or directory"
  | notDirectory => "[Errno 20] Not a directory"
  | isDirectory => "[Errno 21] Is a directory"
  | refused number reason => s!"[Errno {number}] {reason}"

/-- Whether an error tells that nothing lies at a path; a closed handle and links in a circle count. -/
def isAbsence : AccessError → Bool
  | missing | notDirectory => true
  | isDirectory => false
  | refused number _ => number = 9 || number = 40

end AccessError

inductive EntryKind where
  | file
  | directory
deriving DecidableEq, Repr

/-- What the system answers about paths. Links are followed by it, so a path may lead anywhere. -/
structure FileTree where
  directory : List String
  home : List String
  find : Path → Except AccessError EntryKind
  read : Path → Except AccessError Utf8.Bytes
  /-- The files below a directory in order, spelled from the directory on. -/
  filesBelow : Path → List Path
  /-- The absolute components of a path without links and dots. -/
  place : Path → List String
  /-- Why the text of a settings file is too much for its parser: digits, or nesting. -/
  overflow : Utf8.Bytes → Option String

namespace FileTree

def exists_ (t : FileTree) (p : Path) : Bool := (t.find p).toOption.isSome

def presence (t : FileTree) (p : Path) : Except AccessError Bool :=
  match t.find p with
  | .ok _ => .ok true
  | .error e => if e.isAbsence then .ok false else .error e

def isFile (t : FileTree) (p : Path) : Bool :=
  match t.find p with
  | .ok .file => true
  | _ => false

def uri (t : FileTree) (p : Path) : String := fileUri (t.place p)

end FileTree

end ComplexityHints
