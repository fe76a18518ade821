import CratePlan.Error
import CratePlan.Pattern.Reader
import CratePlan.Pattern.Match
import CratePlan.Settings
import CratePlan.Text.Segment

/-!
# Names for path segments

The last segment of an endpoint's path names the endpoint, but not as it stands:
`{ChassisId}` is called `ChassisId` and `ComputerSystem.Reset` is called `Reset`.
Patterns with a group `name` pick the name out of a segment. They are tried in
order, and the first whose group is filled decides.
-/

namespace CratePlan

/-- A pattern that picks the name out of a segment. -/
structure SegmentPattern where
  pattern : Pattern
deriving Repr, DecidableEq, Inhabited

namespace SegmentPattern

/-- The group of a pattern that holds the name. -/
def nameGroup : String := "name"

/-- The pattern that a text writes, if it writes one and that has the group. -/
def ofText (text : String) : Except SettingsFault SegmentPattern :=
  match Pattern.ofText? text with
  | none => .error (.segmentPattern text)
  | some pattern =>
    if nameGroup ∈ pattern.groupNames then .ok ⟨pattern⟩ else .error (.segmentGroup text)

/-- The name that the pattern finds in a segment. -/
def name? (pattern : SegmentPattern) (segment : String) : Option String :=
  pattern.pattern.capture? nameGroup segment

end SegmentPattern

/-- Patterns in the order in which they are tried. -/
structure SegmentNames where
  patterns : List SegmentPattern
deriving Repr, DecidableEq, Inhabited

namespace SegmentNames

/-- The patterns of the settings. -/
def ofSettings (settings : Settings) : Except SettingsFault SegmentNames := do
  return ⟨← settings.segmentPatterns.mapM SegmentPattern.ofText⟩

/-- The name of a segment, by the first pattern that finds one. -/
def name? (names : SegmentNames) (segment : String) : Option String :=
  names.patterns.findSome? (·.name? segment)

/-- The name of an endpoint, which is that of the last segment of its path. -/
def endpointName (names : SegmentNames) (path : String) : Except PlanError String :=
  match names.name? (Text.lastSegment path) with
  | some name => .ok name
  | none => .error (.unnamedSegment (Text.lastSegment path) path)

end SegmentNames

end CratePlan
