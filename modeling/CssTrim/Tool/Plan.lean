import CssTrim.Markup.Element
import CssTrim.Settings.Load
import CssTrim.Tool.Arguments

/-!
# Plans

A tool looks at files and comes to a plan: files to write and lines to print, in
order, or the reason why it does nothing.  `Plan.carryOut` does what a plan says.
A plan breaks off at a file that cannot be written.

A tool runs on a system, `Host`, that loads settings, reads patterns and reads
pages in some way.
-/

namespace CssTrim.Tool

/-- The system that tools run on. -/
structure Host where
  /-- How settings are loaded. -/
  loader : Settings.Loader := {}
  /-- How the patterns of a policy are read. -/
  patterns : Pattern.Host := {}
  /-- How pages are read. -/
  readPage : Markup.PageReader := Markup.readPage

/-- One thing to do. -/
inductive Step where
  | write (p : Path) (t : Text)
  | print (line : Text)
  deriving DecidableEq

/-- How a tool ends. -/
inductive Exit where
  | done
  /-- The tool does not start, and says why. -/
  | stopped (message : Text)
  | refused (r : Refusal)
  /-- A file cannot be read or written. -/
  | failed
  deriving DecidableEq

/-- What a tool means to do, and what it has to tell about its settings. -/
structure Plan where
  steps : List Step := []
  exit : Exit := .done
  notices : List Settings.Notice := []

/-- What came of a plan. -/
structure Outcome where
  folder : Folder
  printed : List Text := []
  exit : Exit := .done
  notices : List Settings.Notice := []

namespace Plan

/-- The plan of doing nothing for a reason. -/
def stop (exit : Exit) (notices : List Settings.Notice) : Plan := { exit, notices }

/-- The plan with these steps, if there are any. -/
def ofSteps (notices : List Settings.Notice) : Except Exit (List Step) → Plan
  | .ok steps => { steps, notices }
  | .error exit => .stop exit notices

/-- Does one step after another.  The answer has the folder, the lines that were printed, and
whether all was done. -/
def perform (f : Folder) : List Step → Folder × List Text × Bool
  | [] => (f, [], true)
  | .print line :: rest =>
    let (g, lines, complete) := perform f rest
    (g, line :: lines, complete)
  | .write p t :: rest =>
    match f.write? p t with
    | some g => perform g rest
    | none => (f, [], false)

/-- Does what a plan says. -/
def carryOut (p : Plan) (f : Folder) : Outcome :=
  let (folder, printed, complete) := perform f p.steps
  { folder, printed, exit := if complete then p.exit else .failed, notices := p.notices }

end Plan

/-- The text of a file that has to be readable. -/
def readText (f : Folder) (p : Path) : Except Exit Text :=
  match f.text? p with
  | some t => .ok t
  | none => .error .failed

/-- Keeps a text in a backup, unless there is one already. -/
def backUp (f : Folder) (backup : Path) (t : Text) : List Step :=
  if f.exists? backup then [] else [.write backup t]

/-- Replaces a stylesheet, of which a backup is kept. -/
def replaceStylesheet (f : Folder) (p backup : Path) (old new : Text) : List Step :=
  backUp f backup old ++ [.write p (new ++ ['\n'])]

/-- The flag for the directory that paths start from. -/
def rootFlag : Flag := { name := "--root".toList }

/-- The flag for the stylesheet. -/
def cssFlag : Flag := { name := "--css".toList }

/-- The flag for a file with variables. -/
def envFileFlag : Flag := { name := "--env-file".toList }

/-- The flag for changing nothing. -/
def dryRunFlag : Flag := { name := "--dry-run".toList, takesValue := false }

/-- The directory that paths start from. -/
def Given.root (g : Given) : Path := .ofText ((g.value? rootFlag.name).getD [])

/-- The name of the stylesheet. -/
def Given.css (g : Given) : Text := (g.value? cssFlag.name).getD "style.css".toList

/-- The path of the stylesheet. -/
def Given.cssPath (g : Given) : Path := g.root.join (.ofText g.css)

/-- The file with variables. -/
def Given.envFile (g : Given) : Option Text := g.value? envFileFlag.name

end CssTrim.Tool
