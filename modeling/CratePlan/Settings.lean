import CratePlan.Table

/-!
# Settings

What a run can be told: the two modules at the top of the crate, patterns that
name schemas and path segments, and two tables of renames. Every setting has a
default.
-/

namespace CratePlan

/-- Schemas whose names match a pattern are placed in a fixed module. -/
structure FixedModule where
  /-- A pattern with a group `model`. -/
  pattern : String
  module : String
deriving Repr, DecidableEq, Inhabited

/-- The settings of a run. -/
structure Settings where
  /-- The module that all models are in. -/
  modelsModule : String
  /-- The module that all traits are in. -/
  apiModule : String
  /-- Conventions for schemas, tried after the versioned shape and before the
  unversioned one. -/
  fixedModules : List FixedModule
  /-- New names for schemas that were named by the tool that wrote the document. -/
  schemaRenames : Table String String
  /-- New names for traits. -/
  traitRenames : Table String String
  /-- Patterns with a group `name`, tried in order on the last segment of a path. -/
  segmentPatterns : List String
deriving DecidableEq, Inhabited

namespace Settings

/-- The settings of a run that is told nothing. -/
def default : Settings where
  modelsModule := "models"
  apiModule := "api"
  fixedModules := [
    ⟨"^Redfish(?P<model>[A-Za-z0-9]+)$", "redfish"⟩,
    ⟨"^odata-v4_(?P<model>[A-Za-z0-9]+)$", "odata_v4"⟩]
  schemaRenames := Table.ofList [
    ("RedfishError_error", "RedfishRedfishError"),
    ("_redfish_v1_odata_get_200_response", "odata-v4_ServiceDocument"),
    ("_redfish_v1_odata_get_200_response_value_inner", "odata-v4_Service")]
  traitRenames := Table.ofList [("V1", "ServiceRoot")]
  segmentPatterns := [
    "^(?P<name>[A-Za-z0-9]+)$",
    "^\\\x7b(?P<name>[A-Za-z0-9]+)\\\x7d$",
    "\\.(?P<name>[A-Za-z0-9]+)$",
    "^\\$(?P<name>metadata)$"]

end Settings

end CratePlan
