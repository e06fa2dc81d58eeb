import CssTrim.Tool.CombineMedia
import CssTrim.Tool.ExtractCritical
import CssTrim.Tool.Prune

/-!
# Tools

The three tools that work on the files of a project.  `Tool.plan` says what a
tool means to do with its arguments, and `Tool.run` does it.
-/

namespace CssTrim

/-- A tool. -/
inductive Tool where
  | prune
  | combineMedia
  | extractCritical
  deriving DecidableEq

namespace Tool

/-- All tools. -/
def all : List Tool := [prune, combineMedia, extractCritical]

/-- The name of a tool as a command. -/
def name : Tool → Text
  | prune => "prune".toList
  | combineMedia => "combine-media".toList
  | extractCritical => "extract-critical".toList

/-- The tool with this name. -/
def ofName? (t : Text) : Option Tool := all.find? (·.name == t)

/-- The flags of a tool. -/
def flags : Tool → List Flag
  | prune => Prune.flags
  | combineMedia => CombineMedia.flags
  | extractCritical => ExtractCritical.flags

/-- Reads the arguments of a tool. -/
def read (t : Tool) (arguments : List Text) : Except Refusal Given :=
  Arguments.read t.flags rootFlag.name arguments

/-- What a tool means to do with flags that are given. -/
def planFor (t : Tool) : Host → Environment → Folder → Given → Plan :=
  match t with
  | prune => Prune.planFor
  | combineMedia => CombineMedia.planFor
  | extractCritical => ExtractCritical.planFor

/-- The paths that a plan depends on, as far as the folder tells. -/
def pathsRead (t : Tool) : Host → Environment → Folder → Given → List Path :=
  match t with
  | prune => Prune.pathsRead
  | combineMedia => CombineMedia.pathsRead
  | extractCritical => ExtractCritical.pathsRead

/-- What a tool means to do with its arguments. -/
def plan (t : Tool) (h : Host) (e : Environment) (f : Folder) (arguments : List Text) : Plan :=
  match t.read arguments with
  | .ok given => t.planFor h e f given
  | .error r => .stop (.refused r) []

/-- Runs a tool. -/
def run (t : Tool) (h : Host) (e : Environment) (f : Folder) (arguments : List Text) : Outcome :=
  (t.plan h e f arguments).carryOut f

end Tool

end CssTrim
