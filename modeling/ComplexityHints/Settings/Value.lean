import ComplexityHints.Number.Shortest
import ComplexityHints.Settings.Calendar
import ComplexityHints.Text.Quoted

namespace ComplexityHints

/-- A whole number; a switch written where a number is expected keeps its spelling. -/
inductive Amount where
  | number (n : Int)
  | switch (on : Bool)
deriving DecidableEq, Repr, Inhabited

namespace Amount

def toInt : Amount → Int
  | number n => n
  | switch on => if on then 1 else 0

def text : Amount → String
  | number n => decimal n
  | switch on => if on then "True" else "False"

end Amount

/-- A value of a setting. Tables keep their keys in the order they were written. -/
inductive Value where
  | null
  | bool (on : Bool)
  | int (n : Int)
  | float (x : Float)
  | str (s : String)
  | list (items : List Value)
  | table (entries : List (String × Value))
  | stamp (at_ : Stamp)
deriving Repr, Inhabited

/-- A value used in a way its kind does not allow, or a setting that fails its check. -/
inductive Fault where
  | unknownKey (owner key : String)
  | notIterable (kind : String)
  | noOrder (sign left right : String)
  /-- A day is compared with a moment. -/
  | noDayOrder
  /-- A moment with an offset is compared with one without. -/
  | noOffsetOrder
  | noAttribute (kind name : String)
  | notReplacement (kind : String)
  /-- A text is given where part of a date or time is to be replaced by a number. -/
  | notNumber
  | notTable (kind : String)
  | notPair (index size : Nat)
  | notHashable (kind : String)
  | invalid (reason : String)
deriving DecidableEq, Repr

namespace Fault

def message : Fault → String
  | unknownKey owner key => s!"{owner}.__init__() got an unexpected keyword argument '{key}'"
  | notIterable kind => s!"'{kind}' object is not iterable"
  | noOrder sign left right =>
    s!"'{sign}' not supported between instances of '{left}' and '{right}'"
  | noDayOrder => "can't compare datetime.datetime to datetime.date"
  | noOffsetOrder => "can't compare offset-naive and offset-aware datetimes"
  | noAttribute kind name => s!"'{kind}' object has no attribute '{name}'"
  | notReplacement kind => s!"replace() argument 2 must be str, not {kind}"
  | notNumber => "'str' object cannot be interpreted as an integer"
  | notTable kind => s!"cannot convert dictionary update sequence element #{kind} to a sequence"
  | notPair index size =>
    s!"dictionary update sequence element #{index} has length {size}; 2 is required"
  | notHashable kind => s!"unhashable type: '{kind}'"
  | invalid reason => reason

end Fault

def Stamp.less : Stamp → Stamp → Except Fault Bool
  | date a, date b => .ok (a.number < b.number)
  | clock a, clock b => .ok (a.micros < b.micros)
  | moment d c o, moment d' c' o' =>
    if o.isSome = o'.isSome then .ok (instant d c o < instant d' c' o') else .error .noOffsetOrder
  | date _, moment .. | moment .., date _ => .error .noDayOrder
  | a, b => .error (.noOrder "<" a.kind b.kind)

namespace Value

def kind : Value → String
  | null => "NoneType"
  | bool _ => "bool"
  | int _ => "int"
  | float _ => "float"
  | str _ => "str"
  | list _ => "list"
  | table _ => "dict"
  | stamp at_ => at_.kind

def ofAmount : Amount → Value
  | .number n => int n
  | .switch on => bool on

def amount? : Value → Option Amount
  | int n => some (.number n)
  | bool on => some (.switch on)
  | _ => none

/-- Nothing, false, zero and whatever is empty count as false; no date or time does. -/
def isTrue : Value → Bool
  | null => false
  | bool on => on
  | int n => n ≠ 0
  | float x => !(Binary.ofFloat x).eq (.ofInt 0)
  | str s => s ≠ ""
  | list items => !items.isEmpty
  | table entries => !entries.isEmpty
  | stamp _ => true

def binary? : Value → Option Binary
  | bool on => some (.ofInt (if on then 1 else 0))
  | int n => some (.ofInt n)
  | float x => some (.ofFloat x)
  | _ => none

mutual

/-- Equality across kinds: numbers by value, tables without regard to order. -/
def equal : Value → Value → Bool
  | null, null => true
  | str a, str b => a = b
  | stamp a, stamp b => a.equal b
  | list as, list bs => equalLists as bs
  | table as, table bs => as.length = bs.length && equalTables as bs
  | a, b =>
    match a.binary?, b.binary? with
    | some x, some y => x.eq y
    | _, _ => false

def equalLists : List Value → List Value → Bool
  | [], [] => true
  | a :: as, b :: bs => equal a b && equalLists as bs
  | _, _ => false

def equalTables : List (String × Value) → List (String × Value) → Bool
  | [], _ => true
  | (key, a) :: as, bs =>
    (match bs.lookup key with
      | some b => equal a b
      | none => false) && equalTables as bs

end

mutual

def less : Value → Value → Except Fault Bool
  | str a, str b => .ok (a < b)
  | stamp a, stamp b => a.less b
  | list as, list bs => lessLists as bs
  | a, b =>
    match a.binary?, b.binary? with
    | some x, some y => .ok (x.lt y)
    | _, _ => .error (.noOrder "<" a.kind b.kind)

/-- Lists are compared at their first difference. -/
def lessLists : List Value → List Value → Except Fault Bool
  | a :: as, b :: bs => if equal a b then lessLists as bs else less a b
  | [], _ :: _ => .ok true
  | _, [] => .ok false

end

def reachedBy (bound : Value) (n : Int) : Except Fault Bool :=
  match bound.binary? with
  | some x => .ok ((Binary.ofInt n).ge x)
  | none => .error (.noOrder ">=" "int" bound.kind)

mutual

def quotedText : Value → String
  | null => "None"
  | bool on => if on then "True" else "False"
  | int n => decimal n
  | float x => FloatFormat.settings.write x
  | str s => quoted s
  | list items => "[" ++ ", ".intercalate (quotedItems items) ++ "]"
  | table entries => "\x7b" ++ ", ".intercalate (quotedEntries entries) ++ "\x7d"
  | stamp at_ => at_.quotedText

def quotedItems : List Value → List String
  | [] => []
  | v :: vs => quotedText v :: quotedItems vs

def quotedEntries : List (String × Value) → List String
  | [] => []
  | (key, v) :: rest => (quoted key ++ ": " ++ quotedText v) :: quotedEntries rest

end

def text : Value → String
  | str s => s
  | stamp at_ => at_.text
  | v => v.quotedText

end Value

end ComplexityHints
