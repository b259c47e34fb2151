import ComplexityHints.Number.Binary
import ComplexityHints.Text.Digit

namespace ComplexityHints

namespace Shortest

structure Decimal where
  digits : Nat
  exponent : Int
deriving DecidableEq, Repr

/-- The rationals that round to `mantissa * 2 ^ exponent`, all over one denominator. -/
structure Interval where
  low : Nat
  value : Nat
  high : Nat
  denominator : Nat
  closed : Bool

/-- Half a unit to both sides, or a quarter below a power of two. The ends belong to the interval
when the mantissa is even. -/
def interval (mantissa : Nat) (exponent : Int) : Interval :=
  let scale := Nat.pow 2 (exponent - 2).toNat
  let below := if mantissa = Nat.pow 2 52 ∧ exponent > -1074 then 1 else 2
  { low := (4 * mantissa - below) * scale
    value := 4 * mantissa * scale
    high := (4 * mantissa + 2) * scale
    denominator := Nat.pow 2 (2 - exponent).toNat
    closed := mantissa % 2 = 0 }

def Interval.contains (i : Interval) (d : Decimal) : Bool :=
  let n := d.digits * Nat.pow 10 d.exponent.toNat * i.denominator
  let scale := Nat.pow 10 (-d.exponent).toNat
  if i.closed then i.low * scale ≤ n ∧ n ≤ i.high * scale
  else i.low * scale < n ∧ n < i.high * scale

def Interval.floor (i : Interval) (exponent : Int) : Decimal :=
  ⟨i.value * Nat.pow 10 (-exponent).toNat / (i.denominator * Nat.pow 10 exponent.toNat), exponent⟩

/-- Twice the distance from the floor exceeds the grid, or equals it at an odd floor. -/
def Interval.roundsUp (i : Interval) (d : Decimal) : Bool :=
  let scale := i.denominator * Nat.pow 10 d.exponent.toNat
  let rest := i.value * Nat.pow 10 (-d.exponent).toNat - d.digits * scale
  2 * rest > scale || (2 * rest = scale && d.digits % 2 = 1)

/-- The neighbour of the value on the grid of `10 ^ exponent` that reads back, if one does. -/
def Interval.hit? (i : Interval) (exponent : Int) : Option Decimal :=
  let down := i.floor exponent
  let up : Decimal := { down with digits := down.digits + 1 }
  match i.contains down, i.contains up with
  | true, true => some (if i.roundsUp down then up else down)
  | true, false => some down
  | false, true => some up
  | false, false => none

def Interval.magnitude (i : Interval) : Int :=
  let quotient := i.value / i.denominator
  if quotient = 0 then
    -- below one: count the tenfold steps up to one
    let steps := (List.range 400).find? fun k => i.denominator ≤ i.value * Nat.pow 10 (k + 1)
    Int.negSucc (steps.getD 0)
  else Int.ofNat (Nat.toDigits 10 quotient).length - 1

def Decimal.strip : Nat → Decimal → Decimal
  | 0, d => d
  | fuel + 1, d =>
    if d.digits ≠ 0 ∧ d.digits % 10 = 0 then strip fuel ⟨d.digits / 10, d.exponent + 1⟩ else d

/-- The shortest decimal of a positive double; seventeen digits always suffice. -/
def shortest (mantissa : Nat) (exponent : Int) : Decimal :=
  let i := interval mantissa exponent
  let k := i.magnitude
  let grids : List Int := (List.range 17).map fun (n : Nat) => k - n
  ((grids.findSome? i.hit?).getD (i.floor (k - 16))).strip 20

end Shortest

/-- How a double is written: positionally while the exponent of its leading digit is at least
`lowest` and below `highest`, else with an exponent of two digits or more. -/
structure FloatFormat where
  lowest : Int
  highest : Int

namespace FloatFormat

def settings : FloatFormat := ⟨-4, 16⟩

def exponentText (k : Int) : List Char :=
  let digits := Nat.toDigits 10 k.natAbs
  (if k < 0 then '-' else '+') :: List.replicate (2 - digits.length) '0' ++ digits

def decimalText (format : FloatFormat) (d : Shortest.Decimal) : List Char :=
  let digits := Nat.toDigits 10 d.digits
  let k := d.exponent + digits.length - 1
  if format.lowest ≤ k ∧ k < format.highest then
    if 0 ≤ d.exponent then digits ++ List.replicate d.exponent.toNat '0' ++ ['.', '0']
    else if 0 ≤ k then
      digits.take (k.toNat + 1) ++ '.' :: digits.drop (k.toNat + 1)
    else '0' :: '.' :: List.replicate (-k - 1).toNat '0' ++ digits
  else
    let fraction := digits.drop 1
    digits.take 1 ++ (if fraction.isEmpty then [] else '.' :: fraction) ++ 'e' :: exponentText k

def write (format : FloatFormat) (x : Float) : String :=
  match Binary.ofFloat x with
  | .nan => "nan"
  | .infinite negative => if negative then "-inf" else "inf"
  | .finite negative 0 _ => if negative then "-0.0" else "0.0"
  | .finite negative mantissa exponent =>
    let text := format.decimalText (Shortest.shortest mantissa exponent)
    String.ofList (if negative then '-' :: text else text)

end FloatFormat

end ComplexityHints
