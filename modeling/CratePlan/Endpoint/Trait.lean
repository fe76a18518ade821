import CratePlan.Endpoint.Tree
import CratePlan.Registry

/-!
# Traits for endpoints

An endpoint is served by a trait, in a module of its own. The module lies where the
endpoint lies: the names of the segments on the way from the root lead to it, below
the module that all traits are in. The trait is called like its module, unless the
settings rename it.

Every trait's module is declared, under its own name, in the modules of the
endpoints that it hangs from. The root's is declared at the top.
-/

namespace CratePlan

/-- The trait that serves an endpoint. -/
structure Trait where
  type : TypePath
  /-- The module that the trait is written in. -/
  modulePath : ModulePath
  /-- The path of the endpoint. -/
  endpoint : String
  payload : Json
deriving Repr, Inhabited

/-- How traits are named: the module that all of them are in, the names of path
segments, and the traits that are renamed. -/
structure TraitNames where
  base : Identifier
  names : SegmentNames
  renames : Table Words Identifier
deriving Inhabited

namespace TraitNames

/-- Renames by the words of the names that they replace. -/
def renamesOf (renames : Table String String) : Table Words Identifier :=
  Table.ofList (renames.entries.map fun entry =>
    (Words.ofLabel entry.1, Identifier.ofLabel entry.2))

/-- The naming that the settings describe. -/
def ofSettings (settings : Settings) : Except SettingsFault TraitNames := do
  return {
    base := Identifier.ofLabel settings.apiModule
    names := ← SegmentNames.ofSettings settings
    renames := renamesOf settings.traitRenames }

/-- The path of the module that all traits are in. -/
def basePath (traits : TraitNames) : ModulePath :=
  .ofCrate [traits.base.words]

/-- The name of one of several segments. It must be writable as a module. -/
def segmentName (traits : TraitNames) (segments : List String) (segment : String) :
    Except PlanError Identifier :=
  match traits.names.name? segment with
  | none => .error (.unnamedSegment segment (String.intercalate "/" segments))
  | some name =>
    let identifier := Identifier.ofLabel name
    match identifier.render .snake with
    | .error fault => .error (.unwritable fault)
    | .ok _ => .ok identifier

/-- The names of the segments on the way to an endpoint. -/
def segmentNames (traits : TraitNames) (segments : List String) :
    Except PlanError (List Identifier) :=
  segments.mapM (traits.segmentName segments)

/-- The module that names below the top lead to. -/
def pathOf (traits : TraitNames) (identifiers : List Identifier) : ModulePath :=
  identifiers.foldl (fun path identifier => path.append identifier.words) traits.basePath

/-- The module that the segments on the way to an endpoint lead to. -/
def modulePath (traits : TraitNames) (segments : List String) : Except PlanError ModulePath :=
  (traits.segmentNames segments).map traits.pathOf

/-- What the trait in a module is called, by the name of the module. -/
def traitName (traits : TraitNames) (module : Identifier) : Identifier :=
  (traits.renames.find? module.words).getD module

/-- The trait that the segments on the way to an endpoint lead to. -/
def typePath (traits : TraitNames) (segments : List String) : Except PlanError TypePath := do
  let identifiers ← traits.segmentNames segments
  let module := identifiers.getLast?.getD traits.base
  match TypePath.ofIdentifier (traits.pathOf identifiers) (traits.traitName module) with
  | .error fault => .error (.unwritable fault)
  | .ok type => .ok type

/-- The trait of an endpoint, by the segments on the way to it. -/
def trait (traits : TraitNames) (segments : List String) (endpoint : Endpoint) :
    Except PlanError Trait :=
  (traits.typePath segments).map fun type =>
    ⟨type, type.path, endpoint.path, endpoint.payload⟩

end TraitNames

namespace EndpointGraph

/-- The trait of the endpoint at a node. -/
def traitAt (graph : EndpointGraph) (traits : TraitNames) (node : Nat) : Except PlanError Trait :=
  match graph.pathFromRoot node with
  | .error fault => .error (.tree fault)
  | .ok path =>
    let endpoints := path.filterMap graph.endpoint?
    match graph.endpoint? node with
    | none => .error (.tree (.unreachable (graph.pathOf node)))
    | some endpoint => traits.trait (endpoints.map Endpoint.summary) endpoint

/-- The modules that declare the trait of a node: those of its parents, as far as
they have been laid out, or the top for a node without parents. -/
def declaringModules (graph : EndpointGraph) (traits : TraitNames) (done : List (Nat × Trait))
    (node : Nat) : List ModulePath :=
  if (graph.parents node).isEmpty then [traits.basePath]
  else (graph.parents node).filterMap fun parent => (done.lookup parent).map Trait.modulePath

/-- Declare the trait of a node where it belongs. -/
def declareTrait (graph : EndpointGraph) (traits : TraitNames) (done : List (Nat × Trait))
    (node : Nat) (trait : Trait) (registry : Registry) : Registry :=
  match trait.modulePath.last? with
  | none => registry
  | some name =>
    (graph.declaringModules traits done node).foldl
      (fun registry parent => registry.declare ⟨parent, name, .named⟩) registry

/-- Make the traits of the nodes of a list, one after the other, and declare each
as it is made. `done` has those made before. The first error ends the work; what
has been declared by then stays. -/
def layOut (graph : EndpointGraph) (traits : TraitNames) :
    List Nat → List (Nat × Trait) → Registry → Registry × Except PlanError (List (Nat × Trait))
  | [], done, registry => (registry, .ok done)
  | node :: rest, done, registry =>
    match graph.traitAt traits node with
    | .error error => (registry, .error error)
    | .ok trait =>
      graph.layOut traits rest ((node, trait) :: done)
        (graph.declareTrait traits done node trait registry)

/-- The traits of all endpoints that the root leads to, each parent before its
children and each subtree together, with the registry in which they are declared. -/
def project (graph : EndpointGraph) (traits : TraitNames) (registry : Registry) :
    Registry × Except PlanError (List Trait) :=
  match graph.root with
  | none => (registry, .ok [])
  | some root =>
    match graph.layOut traits (graph.breadthFirst root) [] registry with
    | (registry, .error error) => (registry, .error error)
    | (registry, .ok done) =>
      (registry, .ok ((graph.depthFirst root).filterMap fun node => done.lookup node))

end EndpointGraph

end CratePlan
