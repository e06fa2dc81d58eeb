import CssTrim.Stylesheet
import CssTrim.Tool.Plan

/-!
# Merging the media blocks of a stylesheet

The tool merges media blocks with the same query.  Only where blocks were merged
the stylesheet is replaced, and a backup of it is kept.
-/

namespace CssTrim.Tool.CombineMedia

/-- The flags of the tool. -/
def flags : List Flag := [rootFlag, cssFlag, envFileFlag, dryRunFlag]

/-- The ending of a backup. -/
def backupEnding : Text := ".media.bak".toList

/-- What is told at the end. -/
def summary (g : Given) (merged : Nat) : Text :=
  (if g.has dryRunFlag.name then "[MEDIA] would merge " else "[MEDIA] merged ").toList ++
    Text.ofNat merged ++ " duplicate media blocks".toList

/-- What to do about a result. -/
def stepsFor (f : Folder) (g : Given) (css : Text) (r : Stylesheet.Result) : List Step :=
  let changes :=
    if !g.has dryRunFlag.name && r.stats.merged != 0 then
      replaceStylesheet f g.cssPath (g.cssPath.withEnding backupEnding) css r.css
    else []
  changes ++ [.print (summary g r.stats.merged)]

/-- The plan for flags that are given. -/
def planFor (h : Host) (e : Environment) (f : Folder) (g : Given) : Plan :=
  if f.exists? g.cssPath then
    match readText f g.cssPath with
    | .error exit => .stop exit []
    | .ok css =>
      let loaded := Settings.load h.loader e f g.envFile none
      .ofSteps loaded.notices do
        let s ← loaded.outcome.mapError fun _ => Exit.failed
        pure (stepsFor f g css (Stylesheet.combineMedia s css))
  else .stop (.stopped ("Missing ".toList ++ g.css)) []

/-- The paths that the plan depends on. -/
def pathsRead (h : Host) (e : Environment) (f : Folder) (g : Given) : List Path :=
  [g.cssPath, g.cssPath.withEnding backupEnding] ++ Settings.pathsRead h.loader e f g.envFile none

end CssTrim.Tool.CombineMedia
