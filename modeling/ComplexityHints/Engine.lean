import ComplexityHints.Host.Mask
import ComplexityHints.Problem
import ComplexityHints.Score.Lua
import ComplexityHints.Score.Script
import ComplexityHints.Syntax.Parse

namespace ComplexityHints

open Syntax

/-- What scores a document. The grammar of an engine is kept by name, known or not. -/
inductive Engine where
  | script (grammar : String)
  | host (grammar : String)
  | lua
deriving DecidableEq, Repr

inductive TreeSource where
  | parsed
  | given (tree : Option Node)

namespace Engine

def ofLanguage (languageId : String) : Engine :=
  match categoryOf languageId with
  | .script => .script (grammarOf languageId).name
  | .hostTemplate => .host (grammarOf languageId).name
  | .statement => .lua

def grammar : Engine → String
  | script grammar | host grammar => grammar
  | lua => Grammar.lua.name

def parsedText (engine : Engine) (t : Text) : Text :=
  match engine with
  | host _ => Host.mask t
  | _ => t

def tree (engine : Engine) (uri : String) (source : TreeSource) (cs : List Char) :
    Except Failure Node :=
  match source with
  | .given (some tree) => .ok tree
  | .given none => .error (.problem (.parsing uri engine.grammar "parser returned no tree"))
  | .parsed =>
    match Grammar.ofName? engine.grammar with
    | some grammar => .ok (parse grammar cs)
    | none =>
      .error (.problem (.unsupportedLanguage engine.grammar (Grammar.all.map Grammar.name)))

def score (engine : Engine) (s : Settings) (cs : List Char) (tree : Node) :
    Except Fault MetricUnit :=
  let bytes := Utf8.encode cs
  match engine with
  | lua => Score.metricTree (Score.Lua.rules bytes) s.lua cs tree
  | _ => Score.metricTree (Score.Script.rules bytes) s.script cs tree

def compute (engine : Engine) (uri : String) (t : Text) (s : Settings)
    (source : TreeSource := .parsed) : Except Failure MetricUnit := do
  let cs ← (Utf8.scalars (engine.parsedText t)).mapError fun run =>
    Failure.problem (.parsing uri engine.grammar ("Encoding error: " ++ run.message))
  let tree ← engine.tree uri source cs
  (engine.score s cs tree).mapError .fault

end Engine

end ComplexityHints
