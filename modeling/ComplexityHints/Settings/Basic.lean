import ComplexityHints.Language
import ComplexityHints.Settings.Costs

namespace ComplexityHints

inductive Level where
  | low
  | normal
  | high
  | extreme
deriving DecidableEq, Repr

def Level.name : Level → String
  | .low => "low"
  | .normal => "normal"
  | .high => "high"
  | .extreme => "extreme"

/-- A cost section: a table that passed its checks, or some other value. -/
inductive CostSection (κ : Type) where
  | costs (table : CostTable κ)
  | unchecked (value : Value)

/-- The cost that a section gives a construct. A value that is no cost table has none. -/
def CostSection.cost {κ : Type} [Construct κ] : CostSection κ → κ → Except Fault Amount
  | costs table, k => .ok (table k)
  | unchecked v, k => .error (.noAttribute v.kind (Construct.name k))

/-- A value handed over for a setting: plain, or an already built section. A table with keys other
than strings can come out of merging and is of no use to any setting. -/
inductive Setting where
  | plain (value : Value)
  | mixedTable
  | script (costs : CostTable ScriptConstruct)
  | lua (costs : CostTable LuaConstruct)

namespace Setting

def plain? : Setting → Option Value
  | plain v => some v
  | _ => none

def script? : Setting → Option (CostTable ScriptConstruct)
  | script costs => some costs
  | _ => none

def lua? : Setting → Option (CostTable LuaConstruct)
  | lua costs => some costs
  | _ => none

end Setting

structure Settings where
  exclude : List String := ["**/.git/**", "**/node_modules/**", "**/bower_components/**"]
  /-- The longest document in units of 1024 * 1024 code points; negative for no limit. -/
  fileSizeLimit : Value := .float 0.5
  enabled : Language → Value := fun _ => .bool true
  minimumVisible : Amount := .number 5
  diagnosticsEnabled : Value := .bool false
  /-- The message of a unit; `{0}` stands for its complexity and `{1}` for its level. -/
  template : Value := .str "Complexity is \x7b0\x7d \x7b1\x7d"
  bound : Level → Value := fun
    | .low => .int 0
    | .normal => .int 5
    | .high => .int 10
    | .extreme => .int 25
  description : Level → Value := fun
    | .low => .str "Everything is cool!"
    | .normal => .str "It's time to do something..."
    | .high => .str "You must be kidding"
    | .extreme => .str "Bloody hell..."
  script : CostSection ScriptConstruct := .costs .default
  lua : CostSection LuaConstruct := .costs .default

namespace Settings

inductive FieldKind where
  | bool
  | int
  | float
  | str
  | other
deriving DecidableEq, Repr

def fields : List (String × FieldKind) := [
  ("exclude", .other), ("file_size_limit_mb", .float),
  ("enabled_for_ts", .bool), ("enabled_for_tsx", .bool), ("enabled_for_js", .bool),
  ("enabled_for_jsx", .bool), ("enabled_for_lua", .bool), ("enabled_for_vue", .bool),
  ("enabled_for_html", .bool),
  ("minimum_visible_complexity", .int), ("diagnostics_enabled", .bool),
  ("complexity_template", .str),
  ("complexity_level_extreme", .int), ("complexity_level_high", .int),
  ("complexity_level_normal", .int), ("complexity_level_low", .int),
  ("complexity_level_extreme_description", .str), ("complexity_level_high_description", .str),
  ("complexity_level_normal_description", .str), ("complexity_level_low_description", .str),
  ("script", .other), ("lua", .other)]

def owner : String := "MetricsConfiguration"

/-- The patterns of an exclusion list; a table stands for its keys. -/
def patterns : Value → Except Fault (List String)
  | .table entries => .ok (entries.map (·.1))
  | .list items =>
    match items.mapM fun | .str s => some s | _ => none with
    | some ss => .ok ss
    | none => .error (.invalid "exclude must be a list of glob patterns")
  | .str _ => .error (.invalid "exclude must be a list of glob patterns")
  | v => .error (.notIterable v.kind)

/-- Where a value belongs among sorted ones, by halving `[lo, hi)`. `fuel` bounds the halvings. -/
def insertionPoint (sorted : Array Value) (v : Value) : Nat → Nat → Nat → Except Fault Nat
  | 0, lo, _ => .ok lo
  | fuel + 1, lo, hi =>
    if lo < hi then do
      let mid := lo + (hi - lo) / 2
      if ← v.less (sorted.getD mid .null) then insertionPoint sorted v fuel lo mid
      else insertionPoint sorted v fuel (mid + 1) hi
    else .ok lo

/-- Inserts the rest of a list into a sorted beginning, which shows whether all of it compares. -/
def insertAll (sorted : Array Value) : List Value → Except Fault Unit
  | [] => .ok ()
  | v :: vs => do
    let i ← insertionPoint sorted v (sorted.size + 1) 0 sorted.size
    insertAll (sorted.insertIdxIfInBounds i v) vs

/-- How far a list rises from its start, or falls strictly if it does not rise; the flag tells
which. -/
def run (falling : Bool) (last : Value) : List Value → Except Fault (List Value × List Value)
  | [] => .ok ([], [])
  | v :: vs => do
    if (← v.less last) = falling then
      let (ahead, rest) ← run falling v vs
      return (v :: ahead, rest)
    else return ([], v :: vs)

/-- Whether a list of values is in ascending order. Values that do not compare are a fault, also
behind a place that is out of order. -/
def ascending : List Value → Except Fault Bool
  | a :: b :: vs => do
    let falling ← b.less a
    let (ahead, rest) ← run falling b vs
    let start := a :: b :: ahead
    insertAll (if falling then start.reverse else start).toArray rest
    return !falling && rest.isEmpty
  | _ => .ok true

def scriptSection : Setting → CostSection ScriptConstruct
  | .script costs => .costs costs
  | .plain v => .unchecked v
  | _ => .unchecked .null

def luaSection : Setting → CostSection LuaConstruct
  | .lua costs => .costs costs
  | .plain v => .unchecked v
  | _ => .unchecked .null

def plainOr (given : List (String × Setting)) (key : String) (default : Value) : Value :=
  match given.lookup key with
  | some (.plain v) => v
  | _ => default

def threshold (v : Value) : Except Fault Amount :=
  match v.amount? with
  | some a => .ok a
  | none => .error (.invalid "minimum_visible_complexity must be an integer")

/-- Settings with the given values and defaults for the rest, around an exclusion list and a
threshold that are already read. -/
def assemble (given : List (String × Setting)) (exclude : List String) (minimumVisible : Amount) :
    Settings :=
  let base : Settings := {}
  { exclude, minimumVisible
    fileSizeLimit := plainOr given "file_size_limit_mb" base.fileSizeLimit
    enabled := fun language => plainOr given language.flag (base.enabled language)
    diagnosticsEnabled := plainOr given "diagnostics_enabled" base.diagnosticsEnabled
    template := plainOr given "complexity_template" base.template
    bound := fun level => plainOr given s!"complexity_level_{level.name}" (base.bound level)
    description := fun level =>
      plainOr given s!"complexity_level_{level.name}_description" (base.description level)
    script := (given.lookup "script").elim base.script scriptSection
    lua := (given.lookup "lua").elim base.lua luaSection }

/-- Builds settings from named values. Unknown names are refused first; then the exclusion list, the
threshold and the level bounds are checked in turn. -/
def build (given : List (String × Setting)) : Except Fault Settings :=
  match given.find? fun (key, _) => !(fields.map (·.1)).contains key with
  | some (key, _) => .error (.unknownKey owner key)
  | none => do
    let base : Settings := {}
    let exclude ← patterns (plainOr given "exclude" (.list (base.exclude.map .str)))
    let minimumVisible ←
      threshold (plainOr given "minimum_visible_complexity" (.ofAmount base.minimumVisible))
    let s := assemble given exclude minimumVisible
    if ← ascending [s.bound .low, s.bound .normal, s.bound .high, s.bound .extreme] then return s
    else throw (.invalid "complexity levels must be ordered: low <= normal <= high <= extreme")

def level (s : Settings) (complexity : Int) : Except Fault Level := do
  if ← (s.bound .extreme).reachedBy complexity then return .extreme
  if ← (s.bound .high).reachedBy complexity then return .high
  if ← (s.bound .normal).reachedBy complexity then return .normal
  return .low

def levelDescription (s : Settings) (complexity : Int) : Except Fault Value :=
  return s.description (← s.level complexity)

end Settings

end ComplexityHints
