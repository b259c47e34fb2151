import ComplexityHints.Number.Read
import ComplexityHints.Problem

namespace ComplexityHints.Environment

open Settings (FieldKind)

/-- Reads the text of a variable as a setting of a kind; none if the kind has no text form. -/
def read (kind : FieldKind) (s : String) : Except Fault (Option Value) :=
  match kind with
  | .bool =>
    let word := String.ofList (s.toList.map Char.toLower)
    if ["true", "1", "yes", "on"].contains word then .ok (some (.bool true))
    else if ["false", "0", "no", "off"].contains word then .ok (some (.bool false))
    else .error (.invalid s!"expected true/false, got '{s}'")
  | .int =>
    match Number.int? s.toList with
    | some n => .ok (some (.int n))
    | none => .error (.invalid s!"invalid literal for int() with base 10: {quoted s}")
  | .float =>
    match Number.float? s.toList with
    | some x => .ok (some (.float x))
    | none => .error (.invalid s!"could not convert string to float: {quoted s}")
  | .str => .ok (some (.str s))
  | .other => .ok none

def variableName (field : String) : String :=
  "CODEMETRICS_" ++ String.ofList (field.toList.map Char.toUpper)

def settings (environment : List (String × String)) :
    List (String × FieldKind) → Except Failure (List (String × Value))
  | [] => .ok []
  | (field, kind) :: rest =>
    let key := variableName field
    match environment.lookup key with
    | none => settings environment rest
    | some s =>
      match read kind s with
      | .error fault =>
        .error (.problem (.invalidSetting key (.one (.plain (.str s))) fault.message))
      | .ok none => settings environment rest
      | .ok (some v) => return (field, v) :: (← settings environment rest)

end ComplexityHints.Environment
