import CssTrim.Tool

/-!
# The command line

`css-trim TOOL FLAGS` runs a tool on the files of the system.

The plan of a tool depends on a few files and variables only.  They are looked
up first, twice, because a file with variables may name a whitelist.
-/

namespace CssTrim.CommandLine

/-- Looks up variables. -/
def readVariables (names : List Text) : IO Environment := do
  let found ← names.filterMapM fun name => do
    return (← IO.getEnv (String.ofList name)).map fun value => (name, value.toList)
  return ⟨found⟩

/-- What a path leads to in the file system.  What is there and is no file is a directory. -/
def nodeAt (path : String) : IO (Option Folder.Node) := do
  try
    return some (.file (← IO.FS.readBinFile path).toList)
  catch _ =>
    try
      discard (IO.FS.realPath path)
      return some .directory
    catch _ => return none

/-- Adds what the first names of a path lead to. -/
def addNode (f : Folder) (p : Path) : IO Folder := do
  match f.place? p with
  | none => return f
  | some place =>
    match ← nodeAt (String.ofList p.toText) with
    | none => return f
    | some node => return { f with nodes := Folder.put place node f.nodes }

/-- Adds what a path leads to and what is on the way there. -/
def addPath (f : Folder) (p : Path) : IO Folder :=
  (List.range (p.names.length + 1)).foldlM
    (fun g count => addNode g { p with names := p.names.take count }) f

/-- Does one step. -/
def doStep : Tool.Step → IO Unit
  | .print line => IO.println (String.ofList line)
  | .write p t =>
    IO.FS.writeBinFile (String.ofList p.toText) ⟨(Text.Utf8.encode t).toArray⟩

/-- How the command is used. -/
def usage : String :=
  "usage: css-trim (prune | combine-media | extract-critical) --root DIR [FLAGS]"

/-- Ends the command. -/
def finish : Tool.Exit → IO UInt32
  | .done => return 0
  | .stopped message => do
    IO.eprintln (String.ofList message)
    return 1
  | .refused .help => do
    IO.println usage
    return 0
  | .refused .misuse => do
    IO.eprintln usage
    return 2
  | .failed => do
    IO.eprintln "a file cannot be read or written"
    return 1

/-- Runs a tool with flags that are given. -/
def runTool (tool : Tool) (given : Tool.Given) : IO UInt32 := do
  let here := (Path.ofText (← IO.currentDir).toString.toList).names
  let known ← readVariables Settings.variableNames
  let first ← (tool.pathsRead {} known { here } given).foldlM addPath { here }
  let complete ← readVariables
    (Settings.variableNames ++ Settings.namesInFile first given.envFile)
  let folder ← (tool.pathsRead {} complete first given).foldlM addPath first
  let plan := tool.planFor {} complete folder given
  for notice in plan.notices do
    IO.eprintln (String.ofList notice.message)
  try
    plan.steps.forM doStep
    finish plan.exit
  catch _ => finish .failed

end CssTrim.CommandLine

/-- Runs the command. -/
def main (arguments : List String) : IO UInt32 := do
  match arguments with
  | [] => CssTrim.CommandLine.finish (.refused .misuse)
  | name :: rest =>
    match CssTrim.Tool.ofName? name.toList with
    | none => CssTrim.CommandLine.finish (.refused .misuse)
    | some tool =>
      match tool.read (rest.map String.toList) with
      | .ok given => CssTrim.CommandLine.runTool tool given
      | .error r => CssTrim.CommandLine.finish (.refused r)
