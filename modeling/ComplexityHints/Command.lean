import ComplexityHints.Files.Read
import ComplexityHints.Files.Select
import ComplexityHints.Report.Json
import ComplexityHints.Report.Table
import ComplexityHints.Settings.Load

namespace ComplexityHints.Command

def version : String := "0.1.0"

/-- A printed line. The text of a problem is printed as markup: what looks like a tag in it is taken for
one. -/
inductive Line where
  | plain (text : String)
  | problem (text : String)
deriving DecidableEq, Repr

structure Output where
  exit : Nat
  lines : List Line
deriving DecidableEq, Repr

def usageError : Output := ⟨2, []⟩

def help : Output := ⟨0, [.plain "Usage:"]⟩

structure OptionSpec where
  key : String
  names : List String
  takesValue : Bool

/-- What the words of a command line say: values of options in order, and arguments. -/
structure Words where
  options : List (String × String)
  arguments : List String

namespace Words

def last? (w : Words) (key : String) : Option String :=
  (w.options.reverse.find? (·.1 = key)).map (·.2)

def has (w : Words) (key : String) : Bool := (w.last? key).isSome

end Words

def findOption (specs : List OptionSpec) (name : String) : Option OptionSpec :=
  specs.find? (·.names.contains name)

/-- The flags of a group of short options, and the last one with a value, which is the rest of the
group or else the next word. The flag tells whether the next word is used up. -/
def shortGroup (specs : List OptionSpec) (next : Option String) :
    List Char → Option (List (String × String) × Bool)
  | [] => some ([], false)
  | c :: cs =>
    match findOption specs (String.ofList ['-', c]) with
    | none => none
    | some spec =>
      if spec.takesValue then
        match cs, next with
        | [], none => none
        | [], some word => some ([(spec.key, word)], true)
        | cs, _ => some ([(spec.key, String.ofList cs)], false)
      else do
        let (others, used) ← shortGroup specs next cs
        return ((spec.key, "") :: others, used)

/-- A long option, with its value behind an equals sign or in the next word. -/
def longOption (specs : List OptionSpec) (word : String) (next : Option String) :
    Option (List (String × String) × Bool) :=
  let name := String.ofList (word.toList.takeWhile (· ≠ '='))
  let attached := (word.toList.dropWhile (· ≠ '=')).drop 1
  let hasAttached := word.toList.contains '='
  match findOption specs name with
  | none => none
  | some spec =>
    if spec.takesValue then
      if hasAttached then some ([(spec.key, String.ofList attached)], false)
      else next.map fun value => ([(spec.key, value)], true)
    else if hasAttached then none else some ([(spec.key, "")], false)

/-- Sorts words into options and arguments; `used` tells that the first word is a value already
taken. Without `interspersed`, everything behind the first argument is an argument. None is wrong
usage. -/
def sortWords (specs : List OptionSpec) (interspersed used : Bool) : List String → Option Words
  | [] => some ⟨[], []⟩
  | word :: rest =>
    if used then sortWords specs interspersed false rest
    else if word = "--" then some ⟨[], rest⟩
    else
      match word.toList with
      | '-' :: '-' :: _ => do
        let (found, used) ← longOption specs word rest.head?
        let others ← sortWords specs interspersed used rest
        return ⟨found ++ others.options, others.arguments⟩
      | '-' :: c :: cs => do
        let (found, used) ← shortGroup specs rest.head? (c :: cs)
        let others ← sortWords specs interspersed used rest
        return ⟨found ++ others.options, others.arguments⟩
      | _ =>
        if interspersed then do
          let others ← sortWords specs interspersed false rest
          return { others with arguments := word :: others.arguments }
        else some ⟨[], word :: rest⟩

structure World where
  tree : FileTree
  environment : List (String × String)

def configOption : OptionSpec := ⟨"config", ["-c", "--config"], true⟩

def helpOption : OptionSpec := ⟨"help", ["--help"], false⟩

def analyzeOptions : List OptionSpec := [
  ⟨"language", ["-l", "--language"], true⟩, configOption, ⟨"json", ["--json"], false⟩,
  ⟨"threshold", ["-t", "--threshold"], true⟩, ⟨"diagnostics", ["--diagnostics"], false⟩,
  ⟨"no-diagnostics", ["--no-diagnostics"], false⟩, ⟨"fail-on", ["--fail-on"], true⟩,
  ⟨"verbose", ["-v", "--verbose"], false⟩, ⟨"quiet", ["-q", "--quiet"], false⟩, helpOption]

structure Request where
  paths : List Path
  language : Option String
  config : Option Path
  json : Bool
  threshold : Option Int
  diagnostics : Option Bool
  failOn : Option FailOn
  verbose : Bool

def configFile (w : World) (words : Words) : Option (Option Path) :=
  match words.last? "config" with
  | none => some none
  | some s => if w.tree.isFile (.ofString s) && s ≠ "" then some (some (.ofString s)) else none

def checked {α : Type} (read : String → Option α) : Option String → Option (Option α)
  | none => some none
  | some s => (read s).map some

def request (w : World) (words : Words) : Option Request := do
  if words.arguments.isEmpty then none
  if words.arguments.any fun s => s = "" || !w.tree.exists_ (.ofString s) then none
  let language ← checked (fun s => (Language.ofId? s).map Language.id) (words.last? "language")
  let threshold ← checked (fun s => (Number.int? s.toList).filter (0 ≤ ·)) (words.last? "threshold")
  let failOn ← checked FailOn.ofName? (words.last? "fail-on")
  let config ← configFile w words
  let switch := words.options.reverse.find? fun (key, _) =>
    key = "diagnostics" || key = "no-diagnostics"
  return {
    paths := words.arguments.map Path.ofString
    language, config, threshold, failOn
    json := words.has "json"
    diagnostics := switch.map fun (key, _) => key = "diagnostics"
    verbose := words.has "verbose" }

def Request.overrides (r : Request) : Load.Merged :=
  (r.threshold.map fun n => ("minimum_visible_complexity", Setting.plain (.int n))).toList ++
    (r.diagnostics.map fun on => ("diagnostics_enabled", Setting.plain (.bool on))).toList

/-- The report of one file, and the board behind it: failures are recorded, never raised. The diagnostics
of an analyzed file are read back from the board. -/
def fileReport (scorer : Scorer) (w : World) (s : Settings) (language : Option String) (b : Board)
    (p : Path) : FileReport × Board :=
  match loadDocument w.tree p language with
  | .error failure =>
    ({ document := { uri := w.tree.uri p, languageId := language.getD "", text := [] }
       error := some failure.message }, b)
  | .ok document =>
    let outcome := analyzeWith scorer s document
    let b := b.publish outcome
    match outcome.result with
    | .error (.problem problem) => ({ document, error := some problem.text }, b)
    | .error failure => ({ document, error := some ("Unexpected error: " ++ failure.message) }, b)
    | .ok units => ({ document, units, diagnostics := (b.get? document.uri).getD [] }, b)

def fileReports (scorer : Scorer) (w : World) (s : Settings) (language : Option String)
    (b : Board) : List Path → List FileReport
  | [] => []
  | p :: ps =>
    let (report, b) := fileReport scorer w s language b p
    report :: fileReports scorer w s language b ps

def failOnLine (f : FailOn) (hits : Nat) : String :=
  s!"--fail-on {f.name}: {hits} file(s) over the limit"

def jsonLines (s : Settings) (reports : List FileReport) : List String × Option Fault :=
  match Json.report s reports with
  | .ok text => ((text.splitOn "\n"), none)
  | .error fault => ([], some fault)

/-- The lines that show reports, and the fault that cuts them short. -/
def Request.shown (r : Request) (s : Settings) (reports : List FileReport) :
    List String × Option Fault :=
  if r.json then jsonLines s reports else FileReport.allLines s r.verbose reports reports

def Request.limitLine (r : Request) (s : Settings) (reports : List FileReport) : List String :=
  match r.failOn with
  | none => []
  | some f =>
    match f.hits s reports with
    | .error _ | .ok 0 => []
    | .ok hits => [failOnLine f hits]

/-- The lines of a run. The limit is looked at when all reports are shown. -/
def Request.printed (r : Request) (s : Settings) (reports : List FileReport) : List Line :=
  match r.shown s reports with
  | (lines, none) => (lines ++ r.limitLine s reports).map .plain
  | (lines, some _) => lines.map .plain

/-- The exit code of a run: one if a report has an error or cannot be written, or if the limit is
passed or does not compare. -/
def exitCode (r : Request) (s : Settings) (reports : List FileReport) : Nat :=
  if reports.any fun report => report.error.isSome || !report.writable s r.json then 1
  else
    match r.failOn with
    | none => 0
    | some f =>
      match f.hits s reports with
      | .ok 0 => 0
      | _ => 1

def finish (r : Request) (s : Settings) (reports : List FileReport) : Output :=
  ⟨exitCode r s reports, r.printed s reports⟩

/-- Settings that cannot be loaded end a command with an error line; other failures end it without
one. -/
def loadFailure : Failure → Output
  | .problem p => ⟨1, [.problem p.text]⟩
  | _ => ⟨1, []⟩

def runAnalyzeWith (scorer : Scorer) (w : World) (r : Request) : Output :=
  match Load.settings w.tree w.environment r.config r.overrides with
  | .error failure => loadFailure failure
  | .ok s =>
    match Files.select w.tree s.exclude r.language.isSome r.paths with
    | .error _ => ⟨1, []⟩
    | .ok files => finish r s (fileReports scorer w s r.language [] files)

def runAnalyze (w : World) (r : Request) : Output := runAnalyzeWith scoreDocument w r

def languageTable (s : Settings) : Table :=
  { title := "Languages"
    titleAlign := .center
    columns := [⟨"Language id", .left⟩, ⟨"Engine", .left⟩, ⟨"Grammar", .left⟩,
      ⟨"Extensions", .left⟩, ⟨"Enabled", .center⟩]
    rows := Language.all.map fun l => [l.id, l.category.name, l.grammar.name,
      " ".intercalate l.extensions, if (s.enabled l).isTrue then "yes" else "no"] }

def runLanguages (w : World) (config : Option Path) : Output :=
  match Load.settings w.tree w.environment config [] with
  | .error failure => loadFailure failure
  | .ok s => ⟨0, (languageTable s).lines.map .plain⟩

def analyzeCommand (w : World) (words : List String) : Output :=
  match sortWords analyzeOptions true false words with
  | none => usageError
  | some words =>
    if words.has "help" then help
    else match request w words with
      | none => usageError
      | some r => runAnalyze w r

def languagesCommand (w : World) (words : List String) : Output :=
  match sortWords [configOption, helpOption] true false words with
  | none => usageError
  | some words =>
    if words.has "help" then help
    else if !words.arguments.isEmpty then usageError
    else match configFile w words with
      | none => usageError
      | some config => runLanguages w config

def versionOutput : Output := ⟨0, [.plain ("codemetrics version " ++ version)]⟩

/-- Runs a command line. The version is printed before the command runs, but only for a command that
exists. -/
def run (w : World) (words : List String) : Output :=
  match sortWords [⟨"version", ["--version"], false⟩, helpOption] false false words with
  | none => usageError
  | some top =>
    if top.has "help" then help
    else match top.arguments with
      | [] => if top.has "version" then versionOutput else help
      | name :: rest =>
        if name ≠ "analyze" ∧ name ≠ "languages" then usageError
        else if top.has "version" then versionOutput
        else if name = "analyze" then analyzeCommand w rest
        else languagesCommand w rest

end ComplexityHints.Command
