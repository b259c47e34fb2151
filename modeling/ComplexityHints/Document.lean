import ComplexityHints.Text.Lines

namespace ComplexityHints

/-- A zero-based line and the distance from its start. -/
structure Position where
  line : Nat
  character : Nat
deriving DecidableEq, Repr

structure Document where
  uri : String
  languageId : String
  text : Text
  version : Int := 0

namespace Text

def clamp (t : Text) (offset : Int) : Nat := min offset.toNat t.length

/-- The position of an offset: one line per break that ends at or before it. An offset between the
two characters of one break stays on the earlier line. -/
def positionAt (t : Text) (offset : Int) : Position :=
  let o := t.clamp offset
  let passed := (t.breakEnds 0).takeWhile (· ≤ o)
  ⟨passed.length, o - passed.getLast?.getD 0⟩

end Text

namespace Document

def positionAt (d : Document) (offset : Int) : Position := d.text.positionAt offset

end Document

end ComplexityHints
