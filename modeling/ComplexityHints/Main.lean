import ComplexityHints.Command
import ComplexityHints.Files.Snapshot

namespace ComplexityHints

partial def Snapshot.add (s : Snapshot) (components : List String) : IO Snapshot := do
  let path := (← IO.currentDir) / ("/" ++ "/".intercalate components)
  if ← path.isDir then
    let entries ← path.readDir
    entries.foldlM (fun s entry => add s (components ++ [entry.fileName]))
      { s with directories := components :: s.directories }
  else if ← path.pathExists then
    let bytes ← IO.FS.readBinFile path
    return { s with files := (components, bytes.toList) :: s.files }
  else return s

def Snapshot.ofWords (words : List String) : IO Snapshot := do
  let directory := (Path.ofString (← IO.currentDir).toString).components
  let home := (Path.ofString ((← IO.getEnv "HOME").getD "/")).components
  let named := words.map fun w => (Path.ofString w).resolve directory
  let settings := [home ++ [".codemetrics.toml"], directory ++ ["codemetrics.toml"]]
  (settings ++ named).eraseDups.foldlM add { directory, home, files := [], directories := [] }

def Environment.current : IO (List (String × String)) := do
  let found ← Settings.fields.mapM fun (field, _) => do
    let name := variableName field
    return (← IO.getEnv name).map (name, ·)
  return found.filterMap id

def Command.Line.text : Line → String
  | plain text => text
  | problem text => "Error: " ++ text

end ComplexityHints

open ComplexityHints in
def main (words : List String) : IO UInt32 := do
  let world := ⟨(← Snapshot.ofWords words).tree, ← Environment.current⟩
  let output := Command.run world words
  output.lines.forM fun line => IO.println line.text
  return output.exit.toUInt32
