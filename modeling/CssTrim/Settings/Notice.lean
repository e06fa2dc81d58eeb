import CssTrim.Folder.Path
import CssTrim.Pattern
import CssTrim.Text.Quoted
import CssTrim.Whitelist

/-!
# Notices about settings

What is told about settings that are passed over: a whitelist that cannot be
used, a pattern that is none, and a number that is none.
-/

namespace CssTrim.Settings

/-- Something about the settings that should be known. -/
inductive Notice where
  | whitelist (path : Path) (fault : Whitelist.Fault)
  /-- An entry of a list that is written as a pattern and is none. -/
  | badPattern (list entry : Text) (e : Pattern.Error)
  /-- A variable that should hold a number. -/
  | badNumber (name value : Text) (usual : Int)

namespace Notice

/-- The wording of a notice. -/
def message : Notice → Text
  | whitelist path .directory =>
    "Could not read whitelist ".toList ++ path.toText ++ ": [Errno 21] Is a directory: ".toList ++
      Text.quoted path.toText
  | whitelist path .malformed => "Could not parse whitelist ".toList ++ path.toText
  | whitelist path .notAnObject =>
    "Whitelist ".toList ++ path.toText ++ " is not a JSON object, ignored".toList
  | badPattern list entry e =>
    "Invalid ".toList ++ list ++ " pattern ".toList ++ Text.quoted entry ++
      " will be skipped: ".toList ++ e.message entry.tail.dropLast
  | badNumber name value usual =>
    "Invalid value '".toList ++ value ++ "' for ".toList ++ name ++ ", using default ".toList ++
      Text.ofInt usual

end Notice

end CssTrim.Settings
