import CssTrim.Stylesheet.Report
import CssTrim.Tool.Plan

/-!
# Splitting a stylesheet by a page

The tool writes the rules for what is above the fold of a page to one file, the
rest to another one, and a report.  On demand it also writes the page with the
critical rules inlined.
-/

namespace CssTrim.Tool.ExtractCritical

/-- The flag for the page. -/
def htmlFlag : Flag := { name := "--html".toList }

/-- The flag for writing the page with the critical rules inlined. -/
def inlineFlag : Flag := { name := "--inline".toList, takesValue := false }

/-- The flags of the tool. -/
def flags : List Flag := [rootFlag, htmlFlag, cssFlag, envFileFlag, inlineFlag]

/-- The name of the page. -/
def pageName (g : Given) : Text := (g.value? htmlFlag.name).getD "index.html".toList

/-- The path of the page. -/
def pagePath (g : Given) : Path := g.root.join (.ofText (pageName g))

/-- The path of the page with the critical rules inlined. -/
def inlinedPath (g : Given) : Path :=
  (pagePath g).withName ((pagePath g).stem ++ "-inlined.html".toList)

/-- What is told at the end. -/
def summary (r : Stylesheet.Split) : Text :=
  "[CRITICAL] ".toList ++ Text.ofInt r.stats.retained ++ " critical / ".toList ++
    Text.ofNat r.stats.removed ++ " remaining blocks (".toList ++ Text.ofNat r.selectors.length ++
    " selectors)".toList

/-- What to do about a result. -/
def stepsFor (g : Given) (page : Text) (r : Stylesheet.Split) : List Step :=
  let file (name : String) : Path := g.root.join (.ofText name.toList)
  let inlined :=
    if g.has inlineFlag.name then
      [.write (inlinedPath g) (Critical.inlineStyle page r.critical),
        .print ("[CRITICAL] inlined: ".toList ++ (inlinedPath g).toText)]
    else []
  [.write (file "critical.css") (r.critical ++ ['\n']),
    .write (file "remaining.css") (r.remaining ++ ['\n']),
    .write (file "critical_report.json") (Json.print (.object r.fields)),
    .print (summary r)] ++ inlined

/-- The plan for flags that are given. -/
def planFor (h : Host) (e : Environment) (f : Folder) (g : Given) : Plan :=
  if f.exists? (pagePath g) && f.exists? g.cssPath then
    match readText f (pagePath g), readText f g.cssPath with
    | .ok page, .ok css =>
      let loaded := Settings.load h.loader e f g.envFile none
      .ofSteps loaded.notices do
        let s ← loaded.outcome.mapError fun _ => Exit.failed
        let s ← (s.checked h.patterns).mapError fun _ => Exit.failed
        let r ← (Stylesheet.extractCritical h.readPage s page css).mapError fun _ => Exit.failed
        pure (stepsFor g page r)
    | _, _ => .stop .failed []
  else
    .stop (.stopped ("Missing ".toList ++ pageName g ++ " or ".toList ++ g.css ++
      " in root".toList)) []

/-- The paths that the plan depends on. -/
def pathsRead (h : Host) (e : Environment) (f : Folder) (g : Given) : List Path :=
  [pagePath g, g.cssPath] ++ Settings.pathsRead h.loader e f g.envFile none

end CssTrim.Tool.ExtractCritical
