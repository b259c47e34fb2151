import ComplexityHints.Files.Tree
import ComplexityHints.Settings.Environment
import ComplexityHints.Settings.Toml.Document

namespace ComplexityHints.Load

open Keyed (put putAll)

abbrev Merged := Keyed Setting

def isSection (key : String) : Bool := key = "script" || key = "lua"

def itemsOf? : Value → Option (List Value)
  | .list items => some items
  | .str s => some (s.toList.map fun c => .str (String.ofList [c]))
  | .table entries => some (entries.map fun (key, _) => .str key)
  | _ => none

/-- A table in the making: entries with string keys, and whether there are other keys too. -/
structure Pairs where
  entries : Toml.Entries
  mixed : Bool

/-- Takes in one pair of a list that is used as a table. -/
def Pairs.add (p : Pairs) (index : Nat) (item : Value) : Except Fault Pairs :=
  match itemsOf? item with
  | none => .error (.notTable (decimal index))
  | some [.str key, v] => .ok { p with entries := put key v p.entries }
  | some [.list _, _] => .error (.notHashable "list")
  | some [.table _, _] => .error (.notHashable "dict")
  | some [_, _] => .ok { p with mixed := true }
  | some items => .error (.notPair index items.length)

def pairs (p : Pairs) (index : Nat) : List Value → Except Fault Pairs
  | [] => .ok p
  | item :: items => do pairs (← p.add index item) (index + 1) items

/-- The table that an earlier section value gives to a later table; what counts as false gives an
empty one. -/
def earlierSection : Option Setting → Except Fault Pairs
  | none => .ok ⟨[], false⟩
  | some .mixedTable => .ok ⟨[], true⟩
  | some (.plain v) =>
    if !v.isTrue then .ok ⟨[], false⟩
    else match v with
      | .table entries => .ok ⟨entries, false⟩
      | v =>
        match itemsOf? v with
        | some items => pairs ⟨[], false⟩ 0 items
        | none => .error (.notIterable v.kind)
  | some _ => .ok ⟨[], false⟩

/-- What a file makes of a key that it gives a value to, beside what earlier files gave it. The table
of a section goes on top of the earlier one; any other value stands alone. -/
def mergeValue (key : String) (earlier : Option Setting) (v : Value) : Except Fault Setting :=
  match isSection key, v with
  | true, .table entries => do
    let earlier ← earlierSection earlier
    return if earlier.mixed then .mixedTable else .plain (.table (putAll earlier.entries entries))
  | _, _ => .ok (.plain v)

def mergeFile (merged : Merged) : Toml.Entries → Except Fault Merged
  | [] => .ok merged
  | (key, v) :: rest => do
    let s ← mergeValue key (merged.lookup key) v
    mergeFile (put key s merged) rest

def readFile (t : FileTree) (p : Path) : Except Failure Toml.Entries :=
  let invalid := Failure.problem (.configuration s!"Invalid config file '{p.text}'" [])
  match t.read p with
  | .error _ => .error invalid
  | .ok bytes =>
    match Utf8.decode bytes with
    | .error malformed => .error (.undecodable malformed)
    | .ok text =>
      match t.overflow bytes, Toml.parse text with
      | some why, _ => .error (.exhausted why)
      | none, some entries => .ok entries
      | none, none => .error invalid

def withFile (t : FileTree) (p : Path) (merged : Merged) : Except Failure Merged := do
  (mergeFile merged (← readFile t p)).mapError .fault

def isThere (t : FileTree) (p : Path) : Except Failure Bool :=
  (t.presence p).mapError fun e => .unreachable e p.text

def withOptionalFile (t : FileTree) (p : Path) (merged : Merged) : Except Failure Merged := do
  if ← isThere t p then withFile t p merged else return merged

def withExplicitFile (t : FileTree) (p : Option Path) (merged : Merged) : Except Failure Merged :=
  match p with
  | none => .ok merged
  | some p => do
    if ← isThere t p then withFile t p merged
    else throw (.problem (.configuration s!"Config file not found: {p.text}" []))

def sectionOf (κ : Type) [Construct κ] (v : Value) : Except Failure (CostTable κ) :=
  match v with
  | .table entries =>
    match CostTable.build entries with
    | .ok costs => .ok costs
    | .error (.invalid reason) =>
      .error (.problem (.invalidSetting (Construct.table κ) (.one (.plain v)) reason))
    | .error fault =>
      .error (.problem (.configuration s!"Invalid [{Construct.table κ}] config: {fault.message}" []))
  | v =>
    .error (.problem (.invalidSetting (Construct.table κ) (.one (.plain v)) "expected a table"))

/-- Takes the section of a family out of the merged settings and puts it back, built, at the end.
`built?` tells a section of the family that is already built from other settings. -/
def buildSection (κ : Type) [Construct κ] (wrap : CostTable κ → Setting)
    (built? : Setting → Option (CostTable κ)) (merged : Merged) : Except Failure Merged :=
  let key := Construct.table κ
  let others := merged.filter (·.1 ≠ key)
  match merged.lookup key with
  | none | some (.plain .null) => .ok others
  | some .mixedTable =>
    .error (.problem (.configuration s!"Invalid [{key}] config: keywords must be strings" []))
  | some (.plain v) => return others ++ [(key, wrap (← sectionOf κ v))]
  | some s =>
    match built? s with
    | some costs => .ok (others ++ [(key, wrap costs)])
    | none => .error (.problem (.invalidSetting key (.one s) "expected a table"))

def build (merged : Merged) : Except Failure Settings := do
  let merged ← buildSection ScriptConstruct .script Setting.script? merged
  let merged ← buildSection LuaConstruct .lua Setting.lua? merged
  match Settings.build merged with
  | .ok s => return s
  | .error (.invalid reason) =>
    throw (.problem (.invalidSetting "configuration" (.all merged) reason))
  | .error fault =>
    throw (.problem (.configuration s!"Invalid configuration: {fault.message}" []))

def given (overrides : Merged) : Merged :=
  overrides.filter fun
    | (_, .plain .null) => false
    | _ => true

def homeFile (t : FileTree) : Path := ⟨true, t.home ++ [".codemetrics.toml"]⟩

def projectFile (t : FileTree) : Path := ⟨true, t.directory ++ ["codemetrics.toml"]⟩

def mergeFiles (t : FileTree) (explicit : Option Path) : Except Failure Merged := do
  let merged ← withOptionalFile t (homeFile t) []
  let merged ← withOptionalFile t (projectFile t) merged
  withExplicitFile t explicit merged

def settings (t : FileTree) (environment : List (String × String)) (explicit : Option Path)
    (overrides : Merged) : Except Failure Settings := do
  let merged ← mergeFiles t explicit
  let ambient ← Environment.settings environment Settings.fields
  let merged := putAll merged (ambient.map fun (key, v) => (key, .plain v))
  build (putAll merged (given overrides))

end ComplexityHints.Load
