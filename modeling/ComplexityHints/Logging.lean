namespace ComplexityHints.Logging

def root : String := "codemetrics"

def fullName (name : Option String) : String :=
  match name with
  | none | some "" => root
  | some name =>
    if name = root || (root ++ ".").toList.isPrefixOf name.toList then name
    else root ++ "." ++ name

inductive Handler where
  | terminal
  | file
deriving DecidableEq, Repr

def threshold (verbose quiet : Bool) : Nat :=
  if quiet then 40 else if verbose then 10 else 30

def handlers (logFile : Option String) : List Handler :=
  match logFile with
  | none | some "" => [.terminal]
  | some _ => [.terminal, .file]

end ComplexityHints.Logging
