import ComplexityHints.Keyed
import ComplexityHints.Settings.Toml.Lexeme

namespace ComplexityHints.Toml

open Keyed (put)

abbrev Entries := Keyed Value

/-- Changes the table at a path, creating tables on the way. With `lists`, a list stands for its last
table. Fails at anything that is no table. -/
def update (lists : Bool) (f : Entries → Option Entries) : List String → Entries → Option Entries
  | [], entries => f entries
  | key :: path, entries =>
    match entries.lookup key with
    | none => do return put key (.table (← update lists f path [])) entries
    | some (.table inner) => do return put key (.table (← update lists f path inner)) entries
    | some (.list items) =>
      match lists, items.getLast? with
      | true, some (.table inner) => do
        return put key (.list (items.dropLast ++ [.table (← update lists f path inner)])) entries
      | _, _ => none
    | some _ => none

def addNew (key : String) (v : Value) (entries : Entries) : Option Entries :=
  if (entries.lookup key).isSome then none else some (put key v entries)

def addTable (key : String) (entries : Entries) : Option Entries :=
  match entries.lookup key with
  | none => some (put key (.list [.table []]) entries)
  | some (.list items) => some (put key (.list (items ++ [.table []])) entries)
  | some _ => none

def isContainer : Value → Bool
  | .list _ | .table _ => true
  | _ => false

def covered (frozen : List (List String)) (path : List String) : Bool :=
  frozen.any (·.isPrefixOf path)

/-- The value of an inline table so far, and the paths in it that are closed. -/
structure Inline where
  entries : Entries
  frozen : List (List String)

def Inline.add (t : Inline) (path : List String) (v : Value) : Option Inline :=
  if covered t.frozen path then none
  else do
    let key ← path.getLast?
    let entries ← update false (addNew key v) path.dropLast t.entries
    return ⟨entries, if isContainer v then path :: t.frozen else t.frozen⟩

mutual

/-- A value. `fuel` bounds the nesting together with the length. -/
def value : Nat → Reader Value
  | 0, _ => none
  | fuel + 1, s =>
    match s with
    | '[' :: rest => items fuel rest
    | '\x7b' :: rest =>
      match skipBlanks rest with
      | '\x7d' :: rest => some (.table [], rest)
      | rest => members fuel ⟨[], []⟩ rest
    | 't' :: 'r' :: 'u' :: 'e' :: rest => some (.bool true, rest)
    | 'f' :: 'a' :: 'l' :: 's' :: 'e' :: rest => some (.bool false, rest)
    | '\x22' :: _ | '\x27' :: _ => (string s).map fun (str, rest) => (.str str, rest)
    | _ => stampOrNumber s

def items : Nat → Reader Value
  | 0, _ => none
  | fuel + 1, s => do
    match ← skipLines (s.length + 1) s with
    | ']' :: rest => return (.list [], rest)
    | s =>
      let (v, rest) ← value fuel s
      match ← skipLines (rest.length + 1) rest with
      | ']' :: rest => return (.list [v], rest)
      | ',' :: rest =>
        match ← items fuel rest with
        | (.list vs, rest) => return (.list (v :: vs), rest)
        | _ => none
      | _ => none

def members : Nat → Inline → Reader Value
  | 0, _, _ => none
  | fuel + 1, t, s => do
    let (path, rest) ← key (s.length + 1) (skipBlanks s)
    match rest with
    | '=' :: rest =>
      let (v, rest) ← value fuel (skipBlanks rest)
      let t ← t.add path v
      match skipBlanks rest with
      | '\x7d' :: rest => return (.table t.entries, rest)
      | ',' :: rest => members fuel t rest
      | _ => none
    | _ => none

end

structure State where
  entries : Entries
  header : List String
  /-- Tables that may not be declared again. -/
  declared : List (List String)
  /-- Tables opened by dotted keys, closed from the next header on. -/
  pending : List (List String)
  /-- Values that may not be extended. -/
  frozen : List (List String)

/-- The proper beginnings of a dotted key, shortest first. -/
def beginnings (path : List String) : List (List String) :=
  (List.range (path.length - 1)).map fun n => path.take (n + 1)

def State.assign (st : State) (path : List String) (v : Value) : Option State := do
  let opened := (beginnings path).map (st.header ++ ·)
  if opened.any st.declared.contains then none
  let parent := st.header ++ path.dropLast
  if covered st.frozen parent then none
  let last ← path.getLast?
  let entries ← update true (addNew last v) parent st.entries
  return { st with
    entries
    pending := opened ++ st.pending
    frozen := if isContainer v then (st.header ++ path) :: st.frozen else st.frozen }

/-- Closes the tables that dotted keys opened. -/
def State.close (st : State) : State :=
  { st with declared := st.pending ++ st.declared, pending := [] }

def State.openTable (st : State) (path : List String) : Option State :=
  if st.declared.contains path || covered st.frozen path then none
  else do
    let entries ← update true some path st.entries
    return { st with entries, header := path, declared := path :: st.declared }

def State.openListed (st : State) (path : List String) : Option State :=
  if covered st.frozen path then none
  else do
    let last ← path.getLast?
    let entries ← update true (addTable last) path.dropLast st.entries
    let outside := fun (other : List String) => !path.isPrefixOf other
    return { st with
      entries
      header := path
      declared := path :: st.declared.filter outside
      frozen := st.frozen.filter outside }

def statement (st : State) (s : List Char) : Option (State × List Char) :=
  match s with
  | '[' :: '[' :: rest => do
    let (path, rest) ← key (rest.length + 1) (skipBlanks rest)
    match rest with
    | ']' :: ']' :: rest => return (← st.close.openListed path, rest)
    | _ => none
  | '[' :: rest => do
    let (path, rest) ← key (rest.length + 1) (skipBlanks rest)
    match rest with
    | ']' :: rest => return (← st.close.openTable path, rest)
    | _ => none
  | _ => do
    let (path, rest) ← key (s.length + 1) s
    match rest with
    | '=' :: rest =>
      let (v, rest) ← value (2 * rest.length + 2) (skipBlanks rest)
      return (← st.assign path v, rest)
    | _ => none

def endOfLine (s : List Char) : Option (List Char) := do
  match ← skipComment (skipBlanks s) with
  | [] => return []
  | '\n' :: rest => return rest
  | _ => none

def lines : Nat → State → List Char → Option State
  | 0, st, _ => some st
  | fuel + 1, st, s =>
    match skipBlanks s with
    | [] => some st
    | '\n' :: rest => lines fuel st rest
    | '#' :: rest => do lines fuel st (← endOfLine ('#' :: rest))
    | s => do
      let (st, rest) ← statement st s
      lines fuel st (← endOfLine rest)

def unifyBreaks : List Char → List Char
  | '\r' :: '\n' :: rest => '\n' :: unifyBreaks rest
  | c :: rest => c :: unifyBreaks rest
  | [] => []

def parse (text : List Char) : Option Entries :=
  let s := unifyBreaks text
  (lines (s.length + 1) ⟨[], [], [], [], []⟩ s).map (·.entries)

end ComplexityHints.Toml
