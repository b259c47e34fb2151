import ComplexityHints.Host.Bodies

namespace ComplexityHints.Host

def blank (t : Text) : Text := t.map fun c => if c.isTerminator then c else .scalar ' '

/-- Breaks every `*/`, so that it cannot end the comment around it. -/
def neutralize : Text → Text
  | .scalar '*' :: .scalar '/' :: rest => .scalar '*' :: .scalar ' ' :: neutralize rest
  | c :: rest => c :: neutralize rest
  | [] => []

def nextLine : Text → Nat
  | [] => 0
  | c :: rest => if c.isTerminator then 1 else nextLine rest + 1

/-- The indexes of all pairs of neighbours that are not line terminators, in order. -/
def pairs (from_ : Nat) : Text → List Nat
  | a :: b :: rest =>
    if a.isTerminator || b.isTerminator then pairs (from_ + 1) (b :: rest)
    else from_ :: pairs (from_ + 1) (b :: rest)
  | _ => []

/-- One region of markup as a single comment from its first pair to its last, or blanked when the
two overlap or touch. Behind a script the search starts on the next line. -/
def maskMarkup (afterScript : Bool) (t : Text) : Text :=
  let start := if afterScript then nextLine t else 0
  let candidates := pairs start (t.drop start)
  match candidates.head?, candidates.getLast? with
  | some first, some last =>
    if last < first + 2 then blank t
    else
      blank (t.take first) ++ [.scalar '/', .scalar '*'] ++
        ((neutralize t).take last).drop (first + 2) ++
        [.scalar '*', .scalar '/'] ++ blank (t.drop (last + 2))
  | _, _ => blank t

/-- Masks the text from offset `from_` on, where `bodies` are the script bodies that follow. -/
def maskFrom (t : Text) (from_ : Nat) (afterScript : Bool) : List Span → Text
  | [] => maskMarkup afterScript (t.drop from_)
  | body :: rest =>
    maskMarkup afterScript ((t.take body.start).drop from_) ++
      (t.take body.stop).drop body.start ++ maskFrom t body.stop true rest

def mask (t : Text) : Text := maskFrom t 0 false (bodies t)

end ComplexityHints.Host
