import ComplexityHints.Files.Tree
import ComplexityHints.Settings.Basic

namespace ComplexityHints

/-- A rejected setting as it was given: one value, or all merged settings. -/
inductive Rejected where
  | one (setting : Setting)
  | all (settings : List (String × Setting))

def CostTable.text {κ : Type} [Construct κ] (costs : CostTable κ) : String :=
  Construct.owner κ ++ "(" ++
    ", ".intercalate (costs.entries.map fun (name, cost) => name ++ "=" ++ cost.text) ++ ")"

namespace Setting

def quotedText : Setting → String
  | plain v => v.quotedText
  | mixedTable => "\x7b\x7d"
  | script costs => costs.text
  | lua costs => costs.text

def text : Setting → String
  | plain v => v.text
  | s => s.quotedText

end Setting

def Rejected.text : Rejected → String
  | one s => s.text
  | all settings =>
    "\x7b" ++ ", ".intercalate (settings.map fun (key, s) => quoted key ++ ": " ++ s.quotedText) ++
      "\x7d"

inductive Problem where
  | general (message : String) (details : List (String × String))
  | analysis (message : String) (details : List (String × String))
  | configuration (message : String) (details : List (String × String))
  | fileAccess (path reason : String)
  | parsing (uri language reason : String)
  | unsupportedLanguage (language : String) (supported : List String)
  | invalidSetting (key : String) (value : Rejected) (reason : String)

namespace Problem

def message : Problem → String
  | general message _ | analysis message _ | configuration message _ => message
  | fileAccess path _ => s!"Cannot access file: {path}"
  | parsing uri language _ => s!"Failed to parse {language} document: {uri}"
  | unsupportedLanguage language _ => s!"Unsupported language: {language}"
  | invalidSetting key value _ => s!"Invalid configuration for {key}: {value.text}"

def details : Problem → List (String × String)
  | general _ details | analysis _ details | configuration _ details => details
  | fileAccess path reason => [("filepath", path), ("reason", reason)]
  | parsing uri language reason => [("uri", uri), ("language", language), ("reason", reason)]
  | unsupportedLanguage language supported =>
    [("language", language), ("supported", ", ".intercalate supported)]
  | invalidSetting key value reason => [("key", key), ("value", value.text), ("reason", reason)]

def text (p : Problem) : String :=
  match p.details with
  | [] => p.message
  | details =>
    let shown := details.map fun (key, value) => key ++ "=" ++ value
    p.message ++ " (" ++ ", ".intercalate shown ++ ")"

end Problem

namespace Utf8

def SurrogateRun.message (r : SurrogateRun) : String :=
  if r.first = r.last then
    let code := String.ofList (Quoted.hex 4 (0xD800 + r.lead.val))
    s!"'utf-8' codec can't encode character '\\u{code}' in position {r.first}: " ++
      "surrogates not allowed"
  else
    s!"'utf-8' codec can't encode characters in position {r.first}-{r.last}: surrogates not allowed"

def Flaw.message : Flaw → String
  | startByte => "invalid start byte"
  | continuation => "invalid continuation byte"
  | truncated => "unexpected end of data"

def Malformed.message (m : Malformed) : String :=
  if m.size = 1 then
    let code := String.ofList (Quoted.hex 2 m.byte.toNat)
    s!"'utf-8' codec can't decode byte 0x{code} in position {m.offset}: {m.flaw.message}"
  else
    let last := m.offset + m.size - 1
    s!"'utf-8' codec can't decode bytes in position {m.offset}-{last}: {m.flaw.message}"

end Utf8

/-- Anything that ends an operation early. -/
inductive Failure where
  | problem (p : Problem)
  | fault (f : Fault)
  | undecodable (m : Utf8.Malformed)
  | badPattern
  | unknownEncoding (name : String)
  /-- The system does not tell whether something lies at a path. -/
  | unreachable (why : AccessError) (path : String)
  /-- A text is beyond the limits of its parser. -/
  | exhausted (why : String)

namespace Failure

def message : Failure → String
  | problem p => p.text
  | fault f => f.message
  | undecodable m => m.message
  | badPattern => "bad character range"
  | unknownEncoding name => "unknown encoding: " ++ name
  | unreachable why path => why.message ++ ": " ++ quoted path
  | exhausted why => why

end Failure

end ComplexityHints
