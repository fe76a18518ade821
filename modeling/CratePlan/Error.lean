import CratePlan.CaseStyle
import CratePlan.Schema.Name

/-!
# What can go wrong

A plan is made as a whole or not at all. This module lists the reasons why there
may be none, each with what it is about, and words each of them once.
-/

namespace CratePlan

/-- A setting that cannot be used. -/
inductive SettingsFault where
  /-- The pattern of a fixed module is not a pattern. -/
  | modelPattern (pattern : String)
  /-- The pattern of a fixed module has no group `model`. -/
  | modelGroup (pattern : String)
  /-- The pattern for path segments is not a pattern. -/
  | segmentPattern (pattern : String)
  /-- The pattern for path segments has no group `name`. -/
  | segmentGroup (pattern : String)
deriving Repr, DecidableEq

/-- What is wrong with an unusable setting. -/
def SettingsFault.message : SettingsFault → String
  | modelPattern pattern => "invalid model pattern '" ++ pattern ++ "'"
  | modelGroup pattern => "model pattern '" ++ pattern ++ "' has no 'model' capture group"
  | segmentPattern pattern => "invalid path name pattern '" ++ pattern ++ "'"
  | segmentGroup pattern => "path name pattern '" ++ pattern ++ "' has no 'name' capture group"

/-- An endpoint whose place in the tree is not settled. -/
inductive TreeFault where
  /-- There is more than one path to it. -/
  | multiplePaths (endpoint : String)
  /-- There is none. -/
  | unreachable (endpoint : String)
deriving Repr, DecidableEq

/-- The wording of a fault of the endpoint tree. -/
def TreeFault.message : TreeFault → String
  | multiplePaths endpoint =>
    "Normalization failed. Endpoint " ++ endpoint ++ " has multiple paths from root."
  | unreachable endpoint =>
    "Normalization failed. Endpoint " ++ endpoint ++ " is not reachable from root."

/-- Why a file cannot be read. -/
inductive ReadFault where
  | missing
  | directory
  | notText
  /-- Another reason, in the words of the system. -/
  | other (reason : String)
deriving Repr, DecidableEq

/-- The wording of a reason why a file cannot be read. -/
def ReadFault.message : ReadFault → String
  | missing => "No such file or directory (os error 2)"
  | directory => "Is a directory (os error 21)"
  | notText => "stream did not contain valid UTF-8"
  | other reason => reason

/-- Why there is no plan. -/
inductive PlanError where
  /-- A name cannot be written in the style that it is needed in. -/
  | unwritable (fault : CaseError)
  /-- A schema that needs a canonical type has a name of neither shape. -/
  | misshapen (fault : ShapeError)
  | tree (fault : TreeFault)
  /-- No pattern names the segment of a path. -/
  | unnamedSegment (segment : String) (path : String)
  | settings (fault : SettingsFault)
  | unreadable (file : String) (fault : ReadFault)
  /-- The text of a file is not what it should be. -/
  | malformed (file : String)
deriving Repr, DecidableEq

/-- The wording of a name that cannot be written. -/
def CaseError.message (fault : CaseError) : String :=
  "String " ++ fault.text ++ " is not convertible to " ++ fault.style.label

/-- The wording of a name that does not have the expected shape. -/
def ShapeError.message (fault : ShapeError) : String :=
  fault.identifier ++ " is not " ++ fault.shape.label ++ " identifier"

/-- The wording of an error. -/
def PlanError.message : PlanError → String
  | unwritable fault => fault.message
  | misshapen fault => fault.message
  | tree fault => fault.message
  | unnamedSegment segment path =>
    "Path segment '" ++ segment ++ "' of endpoint " ++ path ++ " matches no name pattern"
  | settings fault => "Invalid configuration: " ++ fault.message
  | unreadable file fault => "Failed to read " ++ file ++ ": " ++ fault.message
  | malformed file => "Failed to parse " ++ file

end CratePlan
