import ComplexityHints.Text.Digit
import ComplexityHints.Text.Space

namespace ComplexityHints

namespace Number

def sign : List Char → Bool × List Char
  | '-' :: rest => (true, rest)
  | '+' :: rest => (false, rest)
  | s => (false, s)

/-- Digits of a class with single underscores between them, and the rest. There may be none; an
underscore is never first, last or doubled. -/
def digitRun (isDigit : Char → Bool) (afterDigit : Bool) : List Char → List Char × List Char
  | [] => ([], [])
  | '_' :: d :: rest =>
    if afterDigit && isDigit d then
      let (ds, after) := digitRun isDigit true rest
      (d :: ds, after)
    else ([], '_' :: d :: rest)
  | c :: rest =>
    if isDigit c then
      let (ds, after) := digitRun isDigit true rest
      (c :: ds, after)
    else ([], c :: rest)

/-- White space around a number. The information separators are white space elsewhere. -/
def isMargin (c : Char) : Bool := isSpace c && !(28 ≤ c.toNat && c.toNat ≤ 31)

def trimMargins (s : List Char) : List Char :=
  ((s.dropWhile isMargin).reverse.dropWhile isMargin).reverse

def int? (s : List Char) : Option Int :=
  let (negative, body) := sign (trimMargins s)
  match digitRun isDigit false body with
  | ([], _) | (_, _ :: _) => none
  | (ds, []) =>
    let n : Int := numeral ds
    some (if negative then -n else n)

/-- The double nearest to `mantissa * 10 ^ exponent`. Exponents beyond the range of doubles are
cut off first. -/
def scientific (mantissa : Nat) (exponent : Int) : Float :=
  let size : Int := (Nat.toDigits 10 mantissa).length
  if mantissa = 0 ∨ exponent + size < -400 then 0.0
  else if exponent + size > 400 then 1.0 / 0.0
  else Float.ofScientific mantissa (exponent < 0) exponent.natAbs

def exponentPart (isDigit : Char → Bool) (s : List Char) : Int × List Char :=
  match s with
  | c :: rest =>
    if c = 'e' ∨ c = 'E' then
      let (negative, body) := sign rest
      match digitRun isDigit false body with
      | ([], _) => (0, s)
      | (ds, after) =>
        let n : Int := numeral ds
        (if negative then -n else n, after)
    else (0, s)
  | [] => (0, s)

def unsigned? (s : List Char) : Option Float :=
  let (whole, rest) := digitRun isDigit false s
  let (fraction, rest) := match rest with
    | '.' :: rest => digitRun isDigit false rest
    | _ => ([], rest)
  if whole.isEmpty && fraction.isEmpty then none
  else
    let (exponent, rest) := exponentPart isDigit rest
    if rest.isEmpty then some (scientific (numeral (whole ++ fraction)) (exponent - fraction.length))
    else none

def float? (s : List Char) : Option Float :=
  let (negative, body) := sign (trimMargins s)
  let word := String.ofList (body.map Char.toLower)
  let magnitude :=
    if word = "inf" ∨ word = "infinity" then some (1.0 / 0.0)
    else if word = "nan" then some (0.0 / 0.0)
    else unsigned? body
  magnitude.map fun x => if negative then -x else x

end Number

end ComplexityHints
