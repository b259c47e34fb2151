import ComplexityHints.Files.Tree

namespace ComplexityHints

/-- A snapshot of files with their bytes and of directories, by absolute components. It has no links. -/
structure Snapshot where
  directory : List String
  home : List String
  files : List (List String × Utf8.Bytes)
  directories : List (List String)

namespace Snapshot

inductive Entry where
  | file (bytes : Utf8.Bytes)
  | directory

def Entry.kind : Entry → EntryKind
  | file _ => .file
  | directory => .directory

/-- What lies at resolved components. Everything above a file or directory is a directory. -/
def entry? (s : Snapshot) (components : List String) : Option Entry :=
  match s.files.lookup components with
  | some bytes => some (.file bytes)
  | none =>
    if components.isEmpty || components.isPrefixOf s.directory ||
        s.directories.any (components.isPrefixOf ·) ||
        s.files.any (fun (path, _) => components.isPrefixOf path) then
      some .directory
    else none

def follow (s : Snapshot) (from_ : List String) : List String → Except AccessError Entry
  | [] =>
    match s.entry? from_ with
    | some e => .ok e
    | none => .error .missing
  | part :: parts =>
    match s.entry? from_ with
    | none => .error .missing
    | some (.file _) => .error .notDirectory
    | some .directory =>
      follow s (if part = ".." then from_.dropLast else from_ ++ [part]) parts

def lookup (s : Snapshot) (p : Path) : Except AccessError Entry :=
  s.follow (if p.absolute then [] else s.directory) p.components

def read (s : Snapshot) (p : Path) : Except AccessError Utf8.Bytes :=
  match s.lookup p with
  | .ok (.file bytes) => .ok bytes
  | .ok .directory => .error .isDirectory
  | .error e => .error e

def componentsLe : List String → List String → Bool
  | [], _ => true
  | _ :: _, [] => false
  | a :: as, b :: bs => if a = b then componentsLe as bs else a < b

def filesBelow (s : Snapshot) (p : Path) : List Path :=
  match s.lookup p with
  | .ok .directory =>
    let top := p.resolve s.directory
    let found := s.files.filterMap fun (path, _) =>
      if top.isPrefixOf path then some (path.drop top.length) else none
    (found.mergeSort componentsLe).map p.append
  | _ => []

/-- The files of a snapshot as the system shows them: without links a path leads where its components
say. -/
def tree (s : Snapshot) : FileTree where
  directory := s.directory
  home := s.home
  find p := (s.lookup p).map Entry.kind
  read := s.read
  filesBelow := s.filesBelow
  place p := p.resolve s.directory
  overflow _ := none

end Snapshot

end ComplexityHints
