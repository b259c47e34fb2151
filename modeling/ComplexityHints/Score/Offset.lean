namespace ComplexityHints.Score

def byteStarts (from_ : Nat) : List Char → List Nat
  | [] => [from_]
  | c :: cs => from_ :: byteStarts (from_ + c.utf8Size) cs

def byteLength : List Char → Nat
  | [] => 0
  | c :: cs => c.utf8Size + byteLength cs

structure OffsetIndex where
  starts : Array Nat
  singleByte : Bool
deriving DecidableEq, Repr

namespace OffsetIndex

def ofText (cs : List Char) : OffsetIndex := ⟨(byteStarts 0 cs).toArray, byteLength cs = cs.length⟩

/-- The first place from `lo` up to `hi` where no character starts before the offset, found by
halving: the starts are in order. -/
def firstFrom (index : OffsetIndex) (offset : Int) (lo hi : Nat) : Nat :=
  if lo < hi then
    let middle := (lo + hi) / 2
    if (index.starts.getD middle 0 : Int) < offset then firstFrom index offset (middle + 1) hi
    else firstFrom index offset lo middle
  else lo
termination_by hi - lo

/-- The character offset of a byte offset: how many characters start before it. Where every
character takes one byte the two are the same, outside the text too. -/
def charOffset (index : OffsetIndex) (offset : Int) : Int :=
  if index.singleByte then offset else index.firstFrom offset 0 index.starts.size

end OffsetIndex

def charOffset (cs : List Char) (offset : Int) : Int := (OffsetIndex.ofText cs).charOffset offset

end ComplexityHints.Score
