import CssTrim.EnvFile
import CssTrim.Folder
import CssTrim.Settings
import CssTrim.Settings.Notice
import CssTrim.Text.Integer

/-!
# Loading settings

Settings come from the variables of an environment, which a file may add to, and
from a whitelist.  A variable that is not set, or that cannot be used, leaves
the usual setting.

What is passed over is told in notices.  Some faults of the files stop the
loading; the notices up to there are kept.

How far a file can be read depends on the system that settings are loaded on, and
so does the reading of the file with variables.  `Loader` is what loading takes
from it.
-/

namespace CssTrim.Settings

/-- Why settings are not loaded. -/
inductive LoadError where
  /-- The octets of the file with variables are no text. -/
  | undecodableFile
  /-- A variable would hold a zero character. -/
  | zeroInVariable
  /-- The name of a variable would hold an equals sign. -/
  | badVariableName
  /-- The path of the whitelist cannot be looked up. -/
  | refusedPath
  | whitelist (e : Whitelist.Error)
  /-- An entry of a list is a pattern with a fault that is not passed over. -/
  | pattern (e : Pattern.Error)
  deriving DecidableEq

/-- The wording of an error, where it has one. -/
def LoadError.message : LoadError → Option Text
  | undecodableFile => none
  | zeroInVariable => some "embedded null byte".toList
  | badVariableName => some "illegal environment variable name".toList
  | refusedPath => none
  | whitelist (.tooManyDigits count) => some (Text.digitLimitMessage count)
  | whitelist _ => none
  | pattern e => some e.fault.message

/-! ## Variables -/

/-- Checks that an environment can hold a variable. -/
def checkVariable (v : Text × Text) : Except LoadError Unit :=
  if v.1.contains '\x00' || v.2.contains '\x00' then .error .zeroInVariable
  else if v.1.contains '=' then .error .badVariableName
  else .ok ()

/-- The text of a file with variables.  A mark at its front that tells the encoding is no part of
the text. -/
def fileText (bytes : List UInt8) : Except LoadError Text :=
  match Text.Utf8.decode? bytes with
  | none => .error .undecodableFile
  | some ('\ufeff' :: t) => .ok (Text.unifyBreaks t)
  | some t => .ok (Text.unifyBreaks t)

/-- The environment with the variables of a file, if there is such a file. -/
def extend (e : Environment) (f : Folder) (path : Option Text) : Except LoadError Environment :=
  match path.bind fun p => f.bytes? (.ofText p) with
  | none => .ok e
  | some bytes => do
    let added := EnvFile.resolve e (EnvFile.assignments (← fileText bytes))
    added.forM checkVariable
    pure (e.addMissing added)

/-! ## The system -/

/-- The system that settings are loaded on. -/
structure Loader where
  /-- How it reads patterns. -/
  patterns : Pattern.Host := {}
  /-- How many lists and objects may stand inside one another in a text. -/
  depth : Text → Nat := fun _ => 990
  /-- Whether it refuses to look a path up. -/
  refuses : Folder → Path → Bool := Folder.refuses
  /-- How it adds the variables of a file to an environment.  It may look for a file when no path
  is given. -/
  extend : Environment → Folder → Option Text → Except LoadError Environment := Settings.extend

/-! ## Variables that are read -/

/-- The entries of a list with commas between them. -/
def listOf (e : Environment) (name : Text) : List Text :=
  ((Text.splitOn (· == ',') ((e.get? name).getD [])).map Text.trim).filter (!·.isEmpty)

/-- Whether a switch is on.  It is where the variable is not set or blank. -/
def switch (e : Environment) (name : Text) : Bool :=
  let written := Text.trim ((e.get? name).getD [])
  written.isEmpty || Text.lower written == "true".toList

/-- A number, or the usual one with a notice. -/
def numberOf (e : Environment) (name : Text) (usual : Int) : Int × List Notice :=
  match e.get? name with
  | none => (usual, [])
  | some value =>
    match Text.toInt? value with
    | some n => (n, [])
    | none => (usual, [.badNumber name value usual])

/-! ## Lists -/

/-- A path that is given, with an empty text standing for none. -/
def given? (path : Option Text) : Option Text := path.filter (!·.isEmpty)

/-- The entries of the whitelist at a path, and what there is to tell about it. -/
def whitelistEntries (l : Loader) (f : Folder) (path : Path) :
    Except LoadError (List Text × List Notice) :=
  if l.refuses f path then .error .refusedPath
  else
    match f.find? path with
    | none => .ok ([], [])
    | some .directory => .ok ([], [.whitelist path .directory])
    | some (.file bytes) =>
      match Whitelist.read l.depth bytes with
      | .error e => .error (.whitelist e)
      | .ok (.error fault) => .ok ([], [.whitelist path fault])
      | .ok (.ok entries) => .ok (entries, [])

/-- The error in an entry that is written as a pattern and is none. -/
def patternError? (h : Pattern.Host) (entry : Text) : Option Pattern.Error :=
  match (Entry.patternSource? entry).map (Pattern.compile h) with
  | some (.error e) => some e
  | _ => none

/-- Checks the patterns among the entries of lists, each of which comes with the name of its list.
There is a notice about each one that is passed over, up to the first one that is not. -/
def checkPatterns (h : Pattern.Host) :
    List (Text × Text) → Except LoadError Unit × List Notice
  | [] => (.ok (), [])
  | (list, entry) :: rest =>
    match patternError? h entry with
    | none => checkPatterns h rest
    | some e =>
      if e.fault.isFatal then (.error (.pattern e), [])
      else (checkPatterns h rest).map id (.badPattern list entry e :: ·)

/-! ## Loading -/

/-- Settings, if they could be loaded, and what there is to tell about them. -/
structure Loaded where
  outcome : Except LoadError Settings
  notices : List Notice := []

/-- The settings of an environment with further entries of the safelist, and what there is to tell
about them. -/
def ofEnvironment (h : Pattern.Host) (e : Environment) (whitelisted : List Text) : Loaded :=
  let safelist := listOf e "CSS_SAFELIST".toList ++ whitelisted
  let blocklist := listOf e "CSS_BLOCKLIST".toList
  let (checked, told) := checkPatterns h (safelist.map ("safelist".toList, ·) ++
    blocklist.map ("blocklist".toList, ·))
  match checked with
  | .error err => { outcome := .error err, notices := told }
  | .ok () =>
    let seed := listOf e "CSS_CRITICAL_SEED".toList
    let window := numberOf e "CSS_CRITICAL_LINE_WINDOW".toList Critical.defaultWindow
    let limit := numberOf e "CSS_CRITICAL_MAX_SELECTORS".toList Critical.defaultLimit
    let settings :=
      { safelist, blocklist
        keepVariables := switch e "CSS_PRESERVE_VARIABLES".toList
        keepKeyframes := switch e "CSS_PRESERVE_KEYFRAMES".toList
        keepFontFace := switch e "CSS_PRESERVE_FONT_FACE".toList
        keepInteractive := switch e "CSS_PRESERVE_INTERACTIVE".toList
        keepMedia := switch e "CSS_PRESERVE_MEDIA".toList
        keepRoot := switch e "CSS_PRESERVE_ROOT".toList
        keepComments := switch e "CSS_PRESERVE_COMMENTS".toList
        criticalSeed := if seed.isEmpty then Critical.defaultSeed else seed
        criticalWindow := window.1
        criticalLimit := limit.1 }
    { outcome := .ok settings, notices := told ++ window.2 ++ limit.2 }

/-- The path of the whitelist: the one given, or else the one that a variable names. -/
def whitelistPath? (e : Environment) (path : Option Text) : Option Text :=
  (given? path).or (given? (e.get? "CSS_WHITELIST_FILE".toList))

/-- Loads settings from an environment, from a file with variables and from a whitelist. -/
def load (l : Loader) (e : Environment) (f : Folder) (envFile whitelist : Option Text) : Loaded :=
  match l.extend e f envFile with
  | .error err => { outcome := .error err }
  | .ok e =>
    match (whitelistPath? e whitelist).map fun p => whitelistEntries l f (.ofText p) with
    | some (.error err) => { outcome := .error err }
    | some (.ok (entries, notices)) =>
      let loaded := ofEnvironment l.patterns e entries
      { loaded with notices := notices ++ loaded.notices }
    | none => ofEnvironment l.patterns e []

/-! ## What loading looks at -/

/-- The names of the variables that hold settings. -/
def variableNames : List Text :=
  ["CSS_SAFELIST", "CSS_BLOCKLIST", "CSS_WHITELIST_FILE", "CSS_CRITICAL_SEED",
    "CSS_PRESERVE_VARIABLES", "CSS_PRESERVE_KEYFRAMES", "CSS_PRESERVE_FONT_FACE",
    "CSS_PRESERVE_INTERACTIVE", "CSS_PRESERVE_MEDIA", "CSS_PRESERVE_ROOT",
    "CSS_PRESERVE_COMMENTS", "CSS_CRITICAL_LINE_WINDOW", "CSS_CRITICAL_MAX_SELECTORS"].map
      String.toList

/-- The names of the variables that a file depends on. -/
def namesInFile (f : Folder) (path : Option Text) : List Text :=
  match path.bind fun p => f.bytes? (.ofText p) with
  | none => []
  | some bytes =>
    match fileText bytes with
    | .ok t => EnvFile.namesIn (EnvFile.assignments t)
    | .error _ => []

/-- The paths of the files that loading reads. -/
def pathsRead (l : Loader) (e : Environment) (f : Folder) (envFile whitelist : Option Text) :
    List Path :=
  let extended :=
    match l.extend e f envFile with
    | .ok e' => e'
    | .error _ => e
  (envFile.toList ++ (whitelistPath? extended whitelist).toList).map .ofText

end CssTrim.Settings
