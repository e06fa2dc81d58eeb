import CssTrim.Block.Segment
import CssTrim.Critical
import CssTrim.Policy

/-!
# Settings

What a run can be told: the two lists and the switches of the policy, whether
comments are kept, and how critical selectors are gathered.

There is no run with lists that are refused: `CheckedSettings` are settings
together with the policy that was made of them.
-/

namespace CssTrim

/-- The settings of a run. -/
structure Settings where
  safelist : List Text := []
  blocklist : List Text := []
  keepVariables : Bool := true
  keepKeyframes : Bool := true
  keepFontFace : Bool := true
  keepInteractive : Bool := true
  keepMedia : Bool := true
  keepRoot : Bool := true
  /-- Whether comments are kept as blocks.  If not, they are stripped before anything else. -/
  keepComments : Bool := true
  /-- The selectors that the list of critical selectors starts with. -/
  criticalSeed : List Text := Critical.defaultSeed
  /-- The number of lines below the start of the body that are above the fold. -/
  criticalWindow : Int := Critical.defaultWindow
  /-- The largest number of critical selectors. -/
  criticalLimit : Int := Critical.defaultLimit
  deriving DecidableEq

namespace Settings

/-- The policy of these settings, unless an entry of their lists is refused. -/
def readPolicy (h : Pattern.Host) (s : Settings) : Except Pattern.Error Policy :=
  Policy.withLists h
    { keepVariables := s.keepVariables
      keepKeyframes := s.keepKeyframes
      keepFontFace := s.keepFontFace
      keepInteractive := s.keepInteractive
      keepMedia := s.keepMedia
      keepRoot := s.keepRoot }
    (s.safelist.map .text) (s.blocklist.map .text)

/-- The blocks of a stylesheet. -/
def blocksOf (s : Settings) (css : Text) : List Block := Block.segmentWith s.keepComments css

end Settings

/-- Settings with a policy that was made of them. -/
structure CheckedSettings extends Settings where
  policy : Policy := {}
  exists_host : ∃ h, toSettings.readPolicy h = .ok policy := by exact ⟨{}, rfl⟩

/-- The settings with their policy, unless an entry of their lists is refused. -/
def Settings.checked (h : Pattern.Host) (s : Settings) : Except Pattern.Error CheckedSettings :=
  match hpolicy : s.readPolicy h with
  | .error e => .error e
  | .ok policy => .ok { s with policy, exists_host := ⟨h, hpolicy⟩ }

end CssTrim
