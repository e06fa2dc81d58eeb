import CssTrim.Pattern.Syntax
import CssTrim.Text.Integer
import CssTrim.Text.Quoted

/-!
# Errors in patterns

Why a text is no pattern, and where.  Most errors have a position in the text;
in a text of several lines the message also gives the line and the column.

A few faults are in what the pattern as a whole asks for and not in how it is
written.  These are fatal: a pattern with such a fault is not passed over.
-/

namespace CssTrim.Pattern

/-- What is wrong with a pattern. -/
inductive Fault where
  | unterminatedSet
  | unclosedGroup
  | unbalancedParenthesis
  | nothingToRepeat
  | multipleRepeat
  | repeatBounds
  | hugeRepeat
  /-- A bound of a repetition has too many digits. -/
  | manyDigits (count : Nat)
  | range (low high : Text)
  | optionsNotAtStart
  | escape (source : Text)
  | incompleteEscape (source : Text)
  | octalEscape (source : Text)
  | escapeAtEnd
  | missingBrace
  | characterName (name : Text)
  | extension (source : Text)
  | endOfPattern
  | missingName (what : Text)
  | unterminatedName (terminator : Char)
  | groupNameCharacter (name : Text)
  | unknownGroup (name : Text)
  | redefinedGroup (name : Text) (index former : Nat)
  | openGroup
  | lookbehindGroup
  | groupReference (index : Nat)
  | groupNumber
  | conditionalBranches
  | unclosedComment
  | byteOption
  | exclusiveOptions
  | exclusiveCharsets
  | missingOptionsEnd
  | unknownOption
  | globalOptionOn
  | missingOption
  | charsetOff
  | missingColon
  | globalOptionOff
  | optionOnAndOff
  /-- A repetition where the options forbid them. -/
  | templateRepeat (greed : Greed)
  | longLookbehind
  | openLookbehind
  /-- The pattern takes more room on the stack than there is. -/
  | exhausted
  deriving DecidableEq

/-- The name of a kind of repetition in the wording of a fault. -/
def Greed.name : Greed → Text
  | .greedy => "MAX_REPEAT".toList
  | .lazy => "MIN_REPEAT".toList
  | .possessive => "POSSESSIVE_REPEAT".toList

/-- The wording of a fault. -/
def Fault.message : Fault → Text
  | unterminatedSet => "unterminated character set".toList
  | unclosedGroup => "missing ), unterminated subpattern".toList
  | unbalancedParenthesis => "unbalanced parenthesis".toList
  | nothingToRepeat => "nothing to repeat".toList
  | multipleRepeat => "multiple repeat".toList
  | repeatBounds => "min repeat greater than max repeat".toList
  | hugeRepeat => "the repetition number is too large".toList
  | manyDigits count => Text.digitLimitMessage count
  | range low high => "bad character range ".toList ++ low ++ '-' :: high
  | optionsNotAtStart => "global flags not at the start of the expression".toList
  | escape source => "bad escape ".toList ++ source
  | incompleteEscape source => "incomplete escape ".toList ++ source
  | octalEscape source =>
    "octal escape value ".toList ++ source ++ " outside of range 0-0o377".toList
  | escapeAtEnd => "bad escape (end of pattern)".toList
  | missingBrace => ['m', 'i', 's', 's', 'i', 'n', 'g', ' ', '\x7b']
  | characterName name => "undefined character name ".toList ++ Text.quoted name
  | extension source => "unknown extension ?".toList ++ source
  | endOfPattern => "unexpected end of pattern".toList
  | missingName what => "missing ".toList ++ what
  | unterminatedName terminator =>
    "missing ".toList ++ terminator :: ", unterminated name".toList
  | groupNameCharacter name => "bad character in group name ".toList ++ Text.quoted name
  | unknownGroup name => "unknown group name ".toList ++ Text.quoted name
  | redefinedGroup name index former =>
    "redefinition of group name ".toList ++ Text.quoted name ++ " as group ".toList ++
      Text.ofNat index ++ "; was group ".toList ++ Text.ofNat former
  | openGroup => "cannot refer to an open group".toList
  | lookbehindGroup =>
    "cannot refer to group defined in the same lookbehind subpattern".toList
  | groupReference index => "invalid group reference ".toList ++ Text.ofNat index
  | groupNumber => "bad group number".toList
  | conditionalBranches => "conditional backref with more than two branches".toList
  | unclosedComment => "missing ), unterminated comment".toList
  | byteOption => "bad inline flags: cannot use 'L' flag with a str pattern".toList
  | exclusiveOptions => "bad inline flags: flags 'a', 'u' and 'L' are incompatible".toList
  | exclusiveCharsets => "ASCII and UNICODE flags are incompatible".toList
  | missingOptionsEnd => "missing -, : or )".toList
  | unknownOption => "unknown flag".toList
  | globalOptionOn => "bad inline flags: cannot turn on global flag".toList
  | missingOption => "missing flag".toList
  | charsetOff => "bad inline flags: cannot turn off flags 'a', 'u' and 'L'".toList
  | missingColon => "missing :".toList
  | globalOptionOff => "bad inline flags: cannot turn off global flag".toList
  | optionOnAndOff => "bad inline flags: flag turned on and off".toList
  | templateRepeat greed =>
    "internal: unsupported template operator ".toList ++ greed.name
  | longLookbehind => "looks too much behind".toList
  | openLookbehind => "look-behind requires fixed-width pattern".toList
  | exhausted => "maximum recursion depth exceeded".toList

/-- Whether a pattern with this fault is not passed over. -/
def Fault.isFatal : Fault → Bool
  | hugeRepeat | manyDigits _ | exclusiveCharsets | exhausted => true
  | _ => false

/-- A fault, and its position where it has one. -/
structure Error where
  fault : Fault
  position : Option Nat
  deriving DecidableEq

/-- The line and the column of a position.  Both start at one; behind a line break the column
starts again. -/
def lineAndColumn (source : Text) (position : Nat) : Nat × Nat :=
  let front := source.take position
  (front.count '\n' + 1, (front.reverse.takeWhile (· != '\n')).length + 1)

/-- The message about an error in the pattern `source`. -/
def Error.message (e : Error) (source : Text) : Text :=
  match e.position with
  | none => e.fault.message
  | some p =>
    let line := (lineAndColumn source p).1
    let column := (lineAndColumn source p).2
    e.fault.message ++ " at position ".toList ++ Text.ofNat p ++
      (if source.contains '\n' then
        " (line ".toList ++ Text.ofNat line ++ ", column ".toList ++ Text.ofNat column ++ [')']
      else [])

end CssTrim.Pattern
