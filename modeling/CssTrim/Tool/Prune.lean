import CssTrim.Stylesheet.Report
import CssTrim.Tool.Plan

/-!
# Pruning a stylesheet

The tool purges a stylesheet by the documents of a project and writes a report.
Only where something was removed or merged the stylesheet is replaced, and a
backup of it is kept.
-/

namespace CssTrim.Tool.Prune

/-- The flag for a document; it may be given several times. -/
def contentFlag : Flag := { name := "--content".toList }

/-- The flag for the kind of all documents. -/
def kindFlag : Flag :=
  { name := "--kind".toList
    choices := some ("auto".toList :: DocumentKind.all.map (·.name)) }

/-- The flag for a whitelist. -/
def whitelistFlag : Flag := { name := "--whitelist".toList }

/-- The flag for merging media blocks too. -/
def combineFlag : Flag := { name := "--combine-media".toList, takesValue := false }

/-- The flags of the tool. -/
def flags : List Flag :=
  [rootFlag, cssFlag, contentFlag, kindFlag, whitelistFlag, envFileFlag, combineFlag, dryRunFlag]

/-- The ending of a backup. -/
def backupEnding : Text := ".prune.bak".toList

/-- The name of the report. -/
def reportName : Text := "unused_css_report.json".toList

/-- The names of the documents. -/
def contentNames (g : Given) : List Text :=
  let names := g.values contentFlag.name
  if names.isEmpty then ["index.html".toList] else names

/-- Reads a document. -/
def readDocument (f : Folder) (kind : Option DocumentKind) (p : Path) : Except Exit Document :=
  if f.exists? p then (readText f p).map fun t => ⟨p.toText, some t, kind⟩
  else .error (.stopped ("Missing content file: ".toList ++ p.toText))

/-- Reads the documents. -/
def readDocuments (f : Folder) (g : Given) : Except Exit (List Document) :=
  let kind := (g.value? kindFlag.name).bind DocumentKind.ofName?
  (contentNames g).mapM fun name => readDocument f kind (g.root.join (.ofText name))

/-- The stylesheet without what the documents do not use. -/
def resultOf (g : Given) (s : CheckedSettings) (documents : List Document) (css : Text) :
    Stylesheet.Result :=
  if g.has combineFlag.name then Stylesheet.optimize s documents css
  else Stylesheet.purge s (.ofDocuments documents) css

/-- What is told at the end. -/
def summary (g : Given) (stats : Stylesheet.Stats) : Text :=
  if g.has dryRunFlag.name then
    "[PRUNE-CSS] would remove ".toList ++ Text.ofNat stats.removed ++ '/' ::
      Text.ofNat stats.blocksIn ++ " blocks; report: ".toList ++
      (g.root.join (.ofText reportName)).toText
  else
    "[PRUNE-CSS] removed ".toList ++ Text.ofNat stats.removed ++ " blocks, merged ".toList ++
      Text.ofNat stats.merged ++ " media queries; backup: ".toList ++ g.cssPath.name ++
      backupEnding

/-- What to do about a result. -/
def stepsFor (f : Folder) (g : Given) (documents : List Document) (css : Text)
    (r : Stylesheet.Result) : List Step :=
  let report := r.fields g.cssPath.toText (documents.map (·.path)) css
  let changes :=
    if !g.has dryRunFlag.name && (r.stats.removed != 0 || r.stats.merged != 0) then
      replaceStylesheet f g.cssPath (g.cssPath.withEnding backupEnding) css r.css
    else []
  .write (g.root.join (.ofText reportName)) (Json.print (.object report)) ::
    r.stats.warnings.map (fun w => .print ("[PRUNE-CSS] warning: ".toList ++ w)) ++
    changes ++ [.print (summary g r.stats)]

/-- The plan for flags that are given. -/
def planFor (h : Host) (e : Environment) (f : Folder) (g : Given) : Plan :=
  if f.exists? g.cssPath then
    let loaded := Settings.load h.loader e f g.envFile (g.value? whitelistFlag.name)
    .ofSteps loaded.notices do
      let s ← loaded.outcome.mapError fun _ => Exit.failed
      let documents ← readDocuments f g
      let css ← readText f g.cssPath
      let s ← (s.checked h.patterns).mapError fun _ => Exit.failed
      pure (stepsFor f g documents css (resultOf g s documents css))
  else .stop (.stopped ("Missing ".toList ++ g.css)) []

/-- The paths that the plan depends on. -/
def pathsRead (h : Host) (e : Environment) (f : Folder) (g : Given) : List Path :=
  [g.cssPath, g.cssPath.withEnding backupEnding] ++
    (contentNames g).map (fun name => g.root.join (.ofText name)) ++
    Settings.pathsRead h.loader e f g.envFile (g.value? whitelistFlag.name)

end CssTrim.Tool.Prune
