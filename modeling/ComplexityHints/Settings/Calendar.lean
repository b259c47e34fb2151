import ComplexityHints.Text.Digit

namespace ComplexityHints

def isLeap (year : Nat) : Bool := year % 4 = 0 && (year % 100 ≠ 0 || year % 400 = 0)

def monthLength (year month : Nat) : Nat :=
  match month with
  | 2 => if isLeap year then 29 else 28
  | 4 | 6 | 9 | 11 => 30
  | _ => 31

structure Date where
  year : Nat
  month : Nat
  day : Nat
  year_mem : 1 ≤ year ∧ year ≤ 9999
  month_mem : 1 ≤ month ∧ month ≤ 12
  day_mem : 1 ≤ day ∧ day ≤ monthLength year month
deriving DecidableEq, Repr

structure Clock where
  hour : Fin 24
  minute : Fin 60
  second : Fin 60
  micro : Fin 1000000
deriving DecidableEq, Repr

abbrev Offset := { minutes : Int // minutes.natAbs < 24 * 60 }

/-- A day, a time of day, or both. A moment without an offset is in local time. -/
inductive Stamp where
  | date (d : Date)
  | clock (c : Clock)
  | moment (d : Date) (c : Clock) (offset : Option Offset)
deriving DecidableEq, Repr

def Date.ofParts? (year month day : Nat) : Option Date :=
  if h : (1 ≤ year ∧ year ≤ 9999) ∧ (1 ≤ month ∧ month ≤ 12) ∧
      (1 ≤ day ∧ day ≤ monthLength year month) then
    some ⟨year, month, day, h.1, h.2.1, h.2.2⟩
  else none

def Date.number (d : Date) : Nat :=
  let past := d.year - 1
  let months := (List.range (d.month - 1)).foldl (fun n m => n + monthLength d.year (m + 1)) 0
  365 * past + past / 4 - past / 100 + past / 400 + months + d.day

def Clock.micros (c : Clock) : Nat :=
  ((c.hour.val * 60 + c.minute.val) * 60 + c.second.val) * 1000000 + c.micro.val

def instant (d : Date) (c : Clock) (offset : Option Offset) : Int :=
  (d.number * 86400000000 + c.micros : Nat) - (offset.elim 0 (·.val)) * 60000000

def padded (width n : Nat) : List Char :=
  let digits := Nat.toDigits 10 n
  List.replicate (width - digits.length) '0' ++ digits

def Date.text (d : Date) : List Char :=
  padded 4 d.year ++ '-' :: padded 2 d.month ++ '-' :: padded 2 d.day

def Clock.text (c : Clock) : List Char :=
  padded 2 c.hour.val ++ ':' :: padded 2 c.minute.val ++ ':' :: padded 2 c.second.val ++
    if c.micro.val = 0 then [] else '.' :: padded 6 c.micro.val

def Offset.text (offset : Offset) : List Char :=
  let minutes := offset.val.natAbs
  (if offset.val < 0 then '-' else '+') :: padded 2 (minutes / 60) ++ ':' :: padded 2 (minutes % 60)

/-- An offset as it is written in code: in seconds, a negative one as a day less. -/
def Offset.quotedText (offset : Offset) : String :=
  if offset.val = 0 then "datetime.timezone.utc"
  else
    let days := if offset.val < 0 then "days=-1, " else ""
    let seconds := decimal (offset.val % 1440 * 60)
    s!"datetime.timezone(datetime.timedelta({days}seconds={seconds}))"

def Date.parts (d : Date) : List String := [d.year, d.month, d.day].map fun n : Nat => decimal n

/-- The parts of a time of day as they are written in code, without seconds where there are none. -/
def Clock.parts (c : Clock) : List String :=
  let parts :=
    if c.micro.val ≠ 0 then [c.hour.val, c.minute.val, c.second.val, c.micro.val]
    else if c.second.val ≠ 0 then [c.hour.val, c.minute.val, c.second.val]
    else [c.hour.val, c.minute.val]
  parts.map fun n : Nat => decimal n

namespace Stamp

def kind : Stamp → String
  | date _ => "datetime.date"
  | clock _ => "datetime.time"
  | moment .. => "datetime.datetime"

def text : Stamp → String
  | date d => String.ofList d.text
  | clock c => String.ofList c.text
  | moment d c offset =>
    String.ofList (d.text ++ ' ' :: c.text ++ (offset.map Offset.text).getD [])

def quotedText (s : Stamp) : String :=
  let parts := match s with
    | date d => d.parts
    | clock c => c.parts
    | moment d c offset =>
      d.parts ++ c.parts ++ (offset.map fun o => "tzinfo=" ++ o.quotedText).toList
  s.kind ++ "(" ++ ", ".intercalate parts ++ ")"

/-- Equality of stamps. Moments with offsets are equal at the same time everywhere, and never equal
to one without. -/
def equal : Stamp → Stamp → Bool
  | date a, date b => a = b
  | clock a, clock b => a = b
  | moment d c o, moment d' c' o' => o.isSome = o'.isSome && instant d c o = instant d' c' o'
  | _, _ => false

end Stamp

end ComplexityHints
