namespace ComplexityHints

/-- What a double stands for: `mantissa * 2 ^ exponent` with a sign, or no number. -/
inductive Binary where
  | nan
  | infinite (negative : Bool)
  | finite (negative : Bool) (mantissa : Nat) (exponent : Int)
deriving DecidableEq, Repr

namespace Binary

def ofInt (n : Int) : Binary := finite (n < 0) n.natAbs 0

def ofFloat (x : Float) : Binary :=
  let bits := x.toBits.toNat
  let negative : Bool := Nat.pow 2 63 ≤ bits
  let field : Nat := bits / Nat.pow 2 52 % 2048
  let fraction := bits % Nat.pow 2 52
  if field = 2047 then (if fraction = 0 then infinite negative else nan)
  else if field = 0 then finite negative fraction (-1074)
  else finite negative (Nat.pow 2 52 + fraction) ((field : Int) - 1075)

/-- The signed value on the grid of `2 ^ grid`, for a grid no coarser than the number's own. -/
def onGrid (grid : Int) (negative : Bool) (mantissa : Nat) (exponent : Int) : Int :=
  let magnitude : Int := (mantissa * Nat.pow 2 (exponent - grid).toNat : Nat)
  if negative then -magnitude else magnitude

def compare? : Binary → Binary → Option Ordering
  | nan, _ | _, nan => none
  | infinite a, infinite b => some (compare (!a) (!b))
  | infinite negative, finite .. => some (if negative then .lt else .gt)
  | finite .., infinite negative => some (if negative then .gt else .lt)
  | finite s m e, finite s' m' e' =>
    let grid := min e e'
    some (compare (onGrid grid s m e) (onGrid grid s' m' e'))

def lt (a b : Binary) : Bool := compare? a b = some .lt

def eq (a b : Binary) : Bool := compare? a b = some .eq

def ge (a b : Binary) : Bool := compare? a b = some .gt || compare? a b = some .eq

end Binary

end ComplexityHints
