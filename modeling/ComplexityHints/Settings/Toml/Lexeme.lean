import ComplexityHints.Settings.Value
import ComplexityHints.Number.Read

namespace ComplexityHints.Toml

abbrev Reader (α : Type) := List Char → Option (α × List Char)

def isBlank (c : Char) : Bool := c = ' ' || c = '\t'

def skipBlanks (s : List Char) : List Char := s.dropWhile isBlank

def isControl (c : Char) : Bool := (c.toNat < 32 && c ≠ '\t') || c.toNat = 127

def skipComment : List Char → Option (List Char)
  | '#' :: rest =>
    if (rest.takeWhile (· ≠ '\n')).any isControl then none else some (rest.dropWhile (· ≠ '\n'))
  | s => some s

def skipLines : Nat → List Char → Option (List Char)
  | 0, s => some s
  | fuel + 1, s =>
    match s.dropWhile fun c => isBlank c || c = '\n' with
    | '#' :: rest => do skipLines fuel (← skipComment ('#' :: rest))
    | rest => some rest

def isBareKeyChar (c : Char) : Bool := c.isAlphanum || c = '-' || c = '_'

def hexValue? (c : Char) : Option Nat :=
  if c.isDigit then some (c.toNat - 48)
  else if 'a' ≤ c ∧ c ≤ 'f' then some (c.toNat - 87)
  else if 'A' ≤ c ∧ c ≤ 'F' then some (c.toNat - 55)
  else none

def scalar? (digits : List Char) : Option Char := do
  let values ← digits.mapM hexValue?
  let n := values.foldl (fun n d => 16 * n + d) 0
  if n < 0xD800 ∨ (0xE000 ≤ n ∧ n < 0x110000) then some (Char.ofNat n) else none

def escape : Reader Char
  | 'b' :: rest => some ('\x08', rest)
  | 't' :: rest => some ('\t', rest)
  | 'n' :: rest => some ('\n', rest)
  | 'f' :: rest => some ('\x0c', rest)
  | 'r' :: rest => some ('\r', rest)
  | '\x22' :: rest => some ('\x22', rest)
  | '\\' :: rest => some ('\\', rest)
  | 'u' :: rest =>
    if rest.length < 4 then none else (scalar? (rest.take 4)).map fun c => (c, rest.drop 4)
  | 'U' :: rest =>
    if rest.length < 8 then none else (scalar? (rest.take 8)).map fun c => (c, rest.drop 8)
  | _ => none

def basicBody : Nat → Reader (List Char)
  | 0, _ => none
  | _, [] => none
  | fuel + 1, c :: rest =>
    if c = '\x22' then some ([], rest)
    else if c = '\\' then do
      let (ch, rest) ← escape rest
      let (body, rest) ← basicBody fuel rest
      return (ch :: body, rest)
    else if isControl c then none
    else do
      let (body, rest) ← basicBody fuel rest
      return (c :: body, rest)

def literalBody : Reader (List Char)
  | [] => none
  | c :: rest =>
    if c = '\x27' then some ([], rest)
    else if isControl c then none
    else do
      let (body, rest) ← literalBody rest
      return (c :: body, rest)

/-- Closing quotes of a string over several lines; up to two more belong to the string. -/
def closing? (quote : Char) (s : List Char) : Option (List Char × List Char) :=
  let count := min (s.takeWhile (· = quote)).length 5
  if count < 3 then none else some (List.replicate (count - 3) quote, s.drop count)

/-- What a backslash at the end of a line swallows: blanks and line feeds up to the next text. -/
def lineContinuation? (s : List Char) : Option (List Char) :=
  match skipBlanks s with
  | '\n' :: rest => some (rest.dropWhile fun c => isBlank c || c = '\n')
  | _ => none

def basicLines : Nat → Reader (List Char)
  | 0, _ => none
  | _, [] => none
  | fuel + 1, c :: rest =>
    match closing? '\x22' (c :: rest) with
    | some done => some done
    | none =>
      if c = '\\' then
        match lineContinuation? rest with
        | some rest => basicLines fuel rest
        | none => do
          let (ch, rest) ← escape rest
          let (body, rest) ← basicLines fuel rest
          return (ch :: body, rest)
      else if isControl c && c ≠ '\n' then none
      else do
        let (body, rest) ← basicLines fuel rest
        return (c :: body, rest)

def literalLines : Reader (List Char)
  | [] => none
  | c :: rest =>
    match closing? '\x27' (c :: rest) with
    | some done => some done
    | none =>
      if isControl c && c ≠ '\n' then none
      else do
        let (body, rest) ← literalLines rest
        return (c :: body, rest)

/-- A line feed right behind the opening quotes does not count. -/
def dropFirstLine : List Char → List Char
  | '\n' :: rest => rest
  | s => s

def string : Reader String
  | '\x22' :: '\x22' :: '\x22' :: rest =>
    (basicLines (rest.length + 1) (dropFirstLine rest)).map fun (cs, s) => (String.ofList cs, s)
  | '\x27' :: '\x27' :: '\x27' :: rest =>
    (literalLines (dropFirstLine rest)).map fun (cs, s) => (String.ofList cs, s)
  | '\x22' :: rest => (basicBody (rest.length + 1) rest).map fun (cs, s) => (String.ofList cs, s)
  | '\x27' :: rest => (literalBody rest).map fun (cs, s) => (String.ofList cs, s)
  | _ => none

def keyPart : Reader String
  | '\x22' :: rest => (basicBody (rest.length + 1) rest).map fun (cs, s) => (String.ofList cs, s)
  | '\x27' :: rest => (literalBody rest).map fun (cs, s) => (String.ofList cs, s)
  | s =>
    let bare := s.takeWhile isBareKeyChar
    if bare.isEmpty then none else some (String.ofList bare, s.dropWhile isBareKeyChar)

def key : Nat → Reader (List String)
  | 0, _ => none
  | fuel + 1, s => do
    let (part, rest) ← keyPart s
    match skipBlanks rest with
    | '.' :: rest =>
      let (parts, rest) ← key fuel (skipBlanks rest)
      return (part :: parts, rest)
    | rest => return ([part], rest)

def basedInt (base : Nat) (isDigit : Char → Bool) : Reader Value := fun s =>
  match Number.digitRun isDigit false s with
  | ([], _) => none
  | (ds, rest) =>
    some (.int (ds.foldl (fun n d => base * n + (hexValue? d).getD 0) 0 : Nat), rest)

/-- The integer part of a decimal number: a zero, or digits that start with no zero. -/
def wholePart : Reader (List Char)
  | '0' :: rest => some (['0'], rest)
  | s =>
    match Number.digitRun Char.isDigit false s with
    | ([], _) => none
    | found => some found

def fractionPart : List Char → List Char × List Char
  | '.' :: rest =>
    match Number.digitRun Char.isDigit false rest with
    | ([], _) => ([], '.' :: rest)
    | found => found
  | s => ([], s)

def decimalNumber : Reader Value := fun s => do
  let (negative, body) := Number.sign s
  let (whole, rest) ← wholePart body
  let (fraction, rest) := fractionPart rest
  let (exponent, after) := Number.exponentPart Char.isDigit rest
  let hasExponent := after.length < rest.length
  if fraction.isEmpty && !hasExponent then
    let n : Int := numeral whole
    some (.int (if negative then -n else n), rest)
  else
    let x := Number.scientific (numeral (whole ++ fraction)) (exponent - fraction.length)
    some (.float (if negative then -x else x), after)

def number : Reader Value
  | '0' :: 'x' :: rest => basedInt 16 (fun c => (hexValue? c).isSome) rest
  | '0' :: 'o' :: rest => basedInt 8 (fun c => '0' ≤ c ∧ c ≤ '7') rest
  | '0' :: 'b' :: rest => basedInt 2 (fun c => c = '0' ∨ c = '1') rest
  | s =>
    let (negative, body) := Number.sign s
    match body with
    | 'i' :: 'n' :: 'f' :: rest =>
      some (.float (if negative then -(1.0 / 0.0) else 1.0 / 0.0), rest)
    | 'n' :: 'a' :: 'n' :: rest => some (.float (0.0 / 0.0), rest)
    | _ => decimalNumber s

def pair (bound : Nat) : Reader (Fin bound)
  | a :: b :: rest =>
    if a.isDigit && b.isDigit then
      let n := numeral [a, b]
      if h : n < bound then some (⟨n, h⟩, rest) else none
    else none
  | _ => none

/-- Microseconds behind a point. Digits after the sixth do not count. -/
def microseconds (s : List Char) : Fin 1000000 × List Char :=
  match s with
  | '.' :: rest =>
    let digits := rest.takeWhile Char.isDigit
    if digits.isEmpty then (0, s)
    else (Fin.ofNat _ (numeral ((digits ++ List.replicate 6 '0').take 6)), rest.dropWhile Char.isDigit)
  | _ => (0, s)

def clock : Reader Clock := fun s => do
  match ← pair 24 s with
  | (hour, ':' :: rest) =>
    match ← pair 60 rest with
    | (minute, ':' :: rest) =>
      let (second, rest) ← pair 60 rest
      let (micro, rest) := microseconds rest
      return (⟨hour, minute, second, micro⟩, rest)
    | _ => none
  | _ => none

def offset (s : List Char) : Option Offset × List Char :=
  let ahead (rest : List Char) : Option (Int × List Char) := do
    match ← pair 24 rest with
    | (hours, ':' :: rest) =>
      let (minutes, rest) ← pair 60 rest
      return ((hours.val * 60 + minutes.val : Nat), rest)
    | _ => none
  let found : Option (Int × List Char) :=
    match s with
    | 'Z' :: rest | 'z' :: rest => some (0, rest)
    | '+' :: rest => ahead rest
    | '-' :: rest => (ahead rest).map fun (minutes, rest) => (-minutes, rest)
    | _ => none
  match found with
  | some (minutes, rest) =>
    if h : minutes.natAbs < 24 * 60 then (some ⟨minutes, h⟩, rest) else (none, s)
  | none => (none, s)

def moment (d : Date) (s : List Char) : Stamp × List Char :=
  match s with
  | separator :: rest =>
    if separator = 'T' ∨ separator = 't' ∨ separator = ' ' then
      match clock rest with
      | some (c, rest) =>
        let (offset, rest) := offset rest
        (.moment d c offset, rest)
      | none => (.date d, s)
    else (.date d, s)
  | [] => (.date d, s)

/-- The year, month and day of a date, which need not be in the calendar. -/
def day : Reader (Nat × Nat × Nat) := fun s => do
  let (century, rest) ← pair 100 s
  match ← pair 100 rest with
  | (year, '-' :: rest) =>
    match ← pair 13 rest with
    | (month, '-' :: rest) =>
      let (day, rest) ← pair 32 rest
      if month.val = 0 ∨ day.val = 0 then none
      else return ((century.val * 100 + year.val, month.val, day.val), rest)
    | _ => none
  | _ => none

/-- A date, a time or a number. What looks like a date has to be one. -/
def stampOrNumber : Reader Value := fun s =>
  match day s with
  | some ((year, month, day), rest) => do
    let d ← Date.ofParts? year month day
    let (at_, rest) := moment d rest
    return (.stamp at_, rest)
  | none =>
    match clock s with
    | some (c, rest) => some (.stamp (.clock c), rest)
    | none => number s

end ComplexityHints.Toml
