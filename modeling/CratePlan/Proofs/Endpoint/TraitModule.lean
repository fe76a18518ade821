import CratePlan.Endpoint.Trait
import CratePlan.Proofs.Declaration
import CratePlan.Proofs.Endpoint.UniqueWalk
import CratePlan.Proofs.Outcome
import CratePlan.Proofs.PathDisplay

/-!
# The modules of traits

Segments on the way to an endpoint are named one by one. Whether a segment has a name,
and which, does not depend on the segments around it: they are only needed to word the
error. So the module of an endpoint continues the module of its parent by one name, and
this is all that is needed to follow the modules along a path.

## Main statements

* `TraitNames.trait_eq_ok_iff`: when there is a trait, and what it holds.
* `TraitNames.modulePath_concat_eq_ok_iff`: one more segment continues a module by one
  name.
* `exists_names`: what names the trait of a node.
* `modulePath_root`, `modulePath_next`: the modules of traits along a path, from the root on.
* `modulePath_of_edge`: the modules at the ends of an edge that closes no cycle.
* `TraitNames.trait_ne_tree`: a trait is never refused for the tree's sake.
-/

namespace CratePlan

open Outcome

namespace TraitNames

variable {traits : TraitNames}

/-- The segment is called by an identifier, which can be written as a module. -/
def Calls (traits : TraitNames) (segment : String) (identifier : Identifier) : Prop :=
  ∃ name, traits.names.name? segment = some name ∧ identifier = Identifier.ofLabel name ∧
    identifier.words.writable = true

/-! ## Names of segments -/

/-- The name of a segment does not depend on the others. -/
theorem segmentName_eq_ok_iff {segments : List String} {segment : String}
    {identifier : Identifier} :
    traits.segmentName segments segment = .ok identifier ↔ traits.Calls segment identifier := by
  unfold segmentName Calls
  cases hName : traits.names.name? segment with
  | none => simp
  | some name =>
      by_cases hWritable : (Identifier.ofLabel name).words.writable = true
      · simp only [Identifier.render, if_pos hWritable, Except.ok.injEq, Option.some.injEq]
        constructor
        · rintro rfl
          exact ⟨name, rfl, rfl, hWritable⟩
        · rintro ⟨-, rfl, rfl, -⟩
          rfl
      · simp only [Identifier.render, if_neg hWritable, Option.some.injEq, reduceCtorEq, false_iff]
        rintro ⟨other, hOther, hIdentifier, hCalls⟩
        rw [hIdentifier, ← hOther] at hCalls
        exact hWritable hCalls

/-- A segment is called by one identifier at most. -/
theorem Calls.unique {segment : String} {identifier other : Identifier}
    (h : traits.Calls segment identifier) (hOther : traits.Calls segment other) :
    identifier = other := by
  have hName : traits.segmentName [] segment = .ok identifier := segmentName_eq_ok_iff.2 h
  have hOtherName : traits.segmentName [] segment = .ok other := segmentName_eq_ok_iff.2 hOther
  exact Except.ok.inj (hName.symm.trans hOtherName)

theorem Calls.namesModule {segment : String} {identifier : Identifier}
    (h : traits.Calls segment identifier) : identifier.words.NamesModule := by
  obtain ⟨name, -, rfl, hWritable⟩ := h
  exact Words.namesModule_ofLabel hWritable

theorem segmentNames_eq_ok_iff {segments : List String} {identifiers : List Identifier} :
    traits.segmentNames segments = .ok identifiers ↔
      List.Forall₂ traits.Calls segments identifiers := by
  rw [segmentNames, mapM_eq_ok_iff]
  simp only [segmentName_eq_ok_iff]

theorem segmentNames_ne_tree (segments : List String) (fault : TreeFault) :
    traits.segmentNames segments ≠ .error (.tree fault) := by
  intro h
  obtain ⟨segment, -, hSegment⟩ := exists_of_mapM_eq_error h
  unfold segmentName at hSegment
  split at hSegment
  case h_1 => cases hSegment
  case h_2 name _ =>
      cases hRender : (Identifier.ofLabel name).render .snake <;> simp [hRender] at hSegment

/-! ## The module that segments lead to -/

theorem pathOf_eq (traits : TraitNames) (identifiers : List Identifier) :
    traits.pathOf identifiers = .ofCrate (traits.base.words :: identifiers.map Identifier.words) :=
  ModulePath.foldl_append Identifier.words identifiers traits.basePath

theorem length_basePath (traits : TraitNames) : traits.basePath.length = 1 := rfl

/-- One more segment continues a module by the name that it is called by. -/
theorem modulePath_concat_eq_ok_iff {segments : List String} {segment : String}
    {path : ModulePath} :
    traits.modulePath (segments ++ [segment]) = .ok path ↔
      ∃ before identifier, traits.modulePath segments = .ok before ∧
        traits.Calls segment identifier ∧ path = before.append identifier.words := by
  simp only [modulePath, map_eq_ok_iff, segmentNames_eq_ok_iff, forall₂_concat_iff]
  constructor
  · rintro ⟨-, ⟨identifiers, last, hBefore, hLast, rfl⟩, rfl⟩
    exact ⟨_, last, ⟨identifiers, hBefore, rfl⟩, hLast, by simp [pathOf]⟩
  · rintro ⟨-, last, ⟨identifiers, hBefore, rfl⟩, hLast, rfl⟩
    exact ⟨_, ⟨identifiers, last, hBefore, hLast, rfl⟩, by simp [pathOf]⟩

/-- Segments lead to a module below the one that all traits are in. -/
theorem liesIn_of_modulePath {segments : List String} {path : ModulePath}
    (h : traits.modulePath segments = .ok path) : path.LiesIn traits.base.words := by
  obtain ⟨identifiers, -, rfl⟩ := map_eq_ok_iff.1 h
  rw [pathOf_eq]
  exact ⟨rfl, rfl⟩

/-- There is a type when all segments are called by something and the name of the last
one, or what replaces it, can be written. -/
theorem typePath_eq_ok_iff {segments : List String} {type : TypePath} :
    traits.typePath segments = .ok type ↔ ∃ identifiers,
      List.Forall₂ traits.Calls segments identifiers ∧
      ∃ name, (traits.traitName (identifiers.getLast?.getD traits.base)).render .pascal = .ok name ∧
        type = ⟨traits.pathOf identifiers, name⟩ := by
  simp only [typePath, bind_eq_ok_iff, segmentNames_eq_ok_iff, TypePath.ofIdentifier]
  refine exists_congr fun identifiers => and_congr_right fun _ => ?_
  cases (traits.traitName (identifiers.getLast?.getD traits.base)).render .pascal with
  | error fault => simp [Except.map]
  | ok name => simp [Except.map, eq_comm]

/-- A trait has the path and the payload of its endpoint, and it is written in the module
of its type. -/
theorem trait_eq_ok_iff {segments : List String} {endpoint : Endpoint} {trait : Trait} :
    traits.trait segments endpoint = .ok trait ↔ traits.typePath segments = .ok trait.type ∧
      trait.modulePath = trait.type.path ∧ trait.endpoint = endpoint.path ∧
      trait.payload = endpoint.payload := by
  obtain ⟨type, modulePath, path, payload⟩ := trait
  rw [TraitNames.trait, map_eq_ok_iff]
  constructor
  · rintro ⟨found, hFound, hTrait⟩
    cases hTrait
    exact ⟨hFound, rfl, rfl, rfl⟩
  · rintro ⟨hType, hPath, hEndpoint, hPayload⟩
    refine ⟨type, hType, ?_⟩
    rw [Trait.mk.injEq]
    exact ⟨rfl, hPath.symm, hEndpoint.symm, hPayload.symm⟩

/-- A trait is written in the module that its segments lead to. -/
theorem modulePath_of_trait {segments : List String} {endpoint : Endpoint} {trait : Trait}
    (h : traits.trait segments endpoint = .ok trait) :
    traits.modulePath segments = .ok trait.modulePath := by
  obtain ⟨hType, hPath, -, -⟩ := trait_eq_ok_iff.1 h
  obtain ⟨identifiers, hCalls, name, -, hFound⟩ := typePath_eq_ok_iff.1 hType
  rw [hFound] at hPath
  exact map_eq_ok_iff.2 ⟨identifiers, segmentNames_eq_ok_iff.2 hCalls, hPath.symm⟩

/-- The names of a trait: its module is named by identifiers of segments, the last of them
that of the endpoint's own segment, and the trait is called as this one says. -/
structure Names (traits : TraitNames) (segment : String) (above : List Identifier)
    (last : Identifier) (trait : Trait) : Prop where
  calledAbove : ∀ identifier ∈ above, ∃ other, traits.Calls other identifier
  called : traits.Calls segment last
  modulePath : trait.modulePath = traits.pathOf (above ++ [last])
  typeName : (traits.traitName last).render .pascal = .ok trait.type.name

/-- The names of a trait's module have been asked about, except the one at the top. -/
theorem Names.nameableBelow {segment : String} {above : List Identifier} {last : Identifier}
    {trait : Trait} (h : traits.Names segment above last trait) :
    trait.modulePath.NameableBelow := by
  intro words hWords
  rw [h.modulePath, pathOf_eq] at hWords
  obtain ⟨identifier, hIdentifier, rfl⟩ := List.mem_map.1 hWords
  rcases List.mem_append.1 hIdentifier with hAbove | hLast
  · obtain ⟨other, hOther⟩ := h.calledAbove identifier hAbove
    exact hOther.namesModule
  · exact List.mem_singleton.1 hLast ▸ h.called.namesModule

/-- The last of the segments on the way to a trait is its own, and the others are above it. -/
theorem exists_names_of_trait {segments : List String} {segment : String} {endpoint : Endpoint}
    {trait : Trait} (h : traits.trait (segments ++ [segment]) endpoint = .ok trait) :
    ∃ above last, traits.Names segment above last trait := by
  obtain ⟨hType, hPath, -, -⟩ := trait_eq_ok_iff.1 h
  obtain ⟨identifiers, hCalls, name, hName, hFound⟩ := typePath_eq_ok_iff.1 hType
  obtain ⟨above, last, hAbove, hLast, rfl⟩ := forall₂_concat_iff.1 hCalls
  rw [List.getLast?_concat, Option.getD_some] at hName
  refine ⟨above, last, fun identifier hMem => ?_, hLast, ?_, ?_⟩
  · obtain ⟨other, -, hOther⟩ := exists_left_of_forall₂ hAbove hMem
    exact ⟨other, hOther⟩
  · rw [hPath, hFound]
  · rw [hName, hFound]

/-- A trait is never refused for the tree's sake. -/
theorem trait_ne_tree (segments : List String) (endpoint : Endpoint) (fault : TreeFault) :
    traits.trait segments endpoint ≠ .error (.tree fault) := by
  intro h
  rw [TraitNames.trait, map_eq_error_iff, typePath, bind_eq_error_iff] at h
  rcases h with hNames | ⟨identifiers, -, hNext⟩
  · exact segmentNames_ne_tree segments fault hNames
  · simp only at hNext
    split at hNext <;> cases hNext

end TraitNames

/-! ## The traits of a graph -/

namespace EndpointGraph

variable {graph : EndpointGraph} {root : Nat} {traits : TraitNames}

/-- The last segment of the endpoint at a node is called by an identifier. -/
def Called (graph : EndpointGraph) (traits : TraitNames) (node : Nat) (identifier : Identifier) :
    Prop :=
  ∃ endpoint, graph.endpoint? node = some endpoint ∧ traits.Calls endpoint.summary identifier

theorem Called.unique {node : Nat} {identifier other : Identifier}
    (h : graph.Called traits node identifier) (hOther : graph.Called traits node other) :
    identifier = other := by
  obtain ⟨endpoint, hEndpoint, hCalls⟩ := h
  obtain ⟨found, hFound, hOtherCalls⟩ := hOther
  rw [hEndpoint, Option.some.injEq] at hFound
  subst hFound
  exact hCalls.unique hOtherCalls

/-- The segments of the endpoints on a walk. -/
def summaries (graph : EndpointGraph) (walk : List Nat) : List String :=
  (walk.filterMap graph.endpoint?).map Endpoint.summary

theorem summaries_concat {walk : List Nat} {node : Nat} {endpoint : Endpoint}
    (hEndpoint : graph.endpoint? node = some endpoint) :
    graph.summaries (walk ++ [node]) = graph.summaries walk ++ [endpoint.summary] := by
  simp [summaries, hEndpoint]

theorem length_summaries {walk : List Nat} :
    (∀ node ∈ walk, node < graph.size) → (graph.summaries walk).length = walk.length := by
  induction walk with
  | nil => exact fun _ => rfl
  | cons first rest ih =>
      intro hWalk
      obtain ⟨hFirst, hRest⟩ := List.forall_mem_cons.1 hWalk
      obtain ⟨endpoint, hEndpoint⟩ := exists_endpoint? hFirst
      have hTail := ih hRest
      simp only [summaries, List.length_map] at hTail ⊢
      rw [List.filterMap_cons_some hEndpoint, List.length_cons, hTail, List.length_cons]

/-- A trait is named by the segments on the path to its node. -/
theorem exists_path_of_traitAt {node : Nat} {trait : Trait}
    (h : graph.traitAt traits node = .ok trait) :
    ∃ path endpoint, graph.pathFromRoot node = .ok path ∧ graph.endpoint? node = some endpoint ∧
      traits.trait (graph.summaries path) endpoint = .ok trait := by
  unfold traitAt at h
  split at h
  case h_1 => cases h
  case h_2 path hPath =>
      simp only at h
      split at h
      case h_1 => cases h
      case h_2 endpoint hEndpoint => exact ⟨path, endpoint, hPath, hEndpoint, h⟩

/-- Without a root there are no traits. -/
theorem exists_root_of_traitAt {node : Nat} {trait : Trait}
    (h : graph.traitAt traits node = .ok trait) : ∃ root, graph.root = some root := by
  obtain ⟨path, -, hPath, -⟩ := exists_path_of_traitAt h
  cases hRoot : graph.root with
  | none => simp [pathFromRoot, hRoot] at hPath
  | some root => exact ⟨root, rfl⟩

/-- Only a node of the graph has a trait. -/
theorem lt_size_of_traitAt {node : Nat} {trait : Trait}
    (h : graph.traitAt traits node = .ok trait) : node < graph.size := by
  obtain ⟨path, endpoint, -, hEndpoint, -⟩ := exists_path_of_traitAt h
  exact (List.getElem?_eq_some_iff.1 hEndpoint).1

/-- The module of a trait is where the segments on the path lead to. -/
theorem modulePath_of_traitAt {path : List Nat} {node : Nat} {trait : Trait}
    (hPath : graph.pathFromRoot node = .ok path) (hTrait : graph.traitAt traits node = .ok trait) :
    traits.modulePath (graph.summaries path) = .ok trait.modulePath := by
  obtain ⟨found, endpoint, hFound, -, hNamed⟩ := exists_path_of_traitAt hTrait
  obtain rfl : path = found := Except.ok.inj (hPath.symm.trans hFound)
  exact TraitNames.modulePath_of_trait hNamed

/-- The module of a trait lies directly in the one that the segments before its own lead to,
under the name of its node. -/
theorem modulePath_concat {path : List Nat} {node : Nat} {trait : Trait}
    (hPath : graph.pathFromRoot node = .ok (path ++ [node]))
    (hTrait : graph.traitAt traits node = .ok trait) :
    ∃ before identifier, traits.modulePath (graph.summaries path) = .ok before ∧
      graph.Called traits node identifier ∧
        trait.modulePath = before.append identifier.words := by
  obtain ⟨endpoint, hEndpoint⟩ := exists_endpoint? (lt_size_of_traitAt hTrait)
  have hModule := modulePath_of_traitAt hPath hTrait
  rw [summaries_concat hEndpoint, TraitNames.modulePath_concat_eq_ok_iff] at hModule
  obtain ⟨before, identifier, hBefore, hCalls, hModule⟩ := hModule
  exact ⟨before, identifier, hBefore, ⟨endpoint, hEndpoint, hCalls⟩, hModule⟩

/-- The module of a node lies directly in that of the node before it on the path, under
the name of the node. -/
theorem modulePath_next {path : List Nat} {node child : Nat} {above trait : Trait}
    (hPath : graph.pathFromRoot node = .ok path)
    (hChild : graph.pathFromRoot child = .ok (path ++ [child]))
    (hAbove : graph.traitAt traits node = .ok above)
    (hTrait : graph.traitAt traits child = .ok trait) :
    ∃ identifier, graph.Called traits child identifier ∧
      trait.modulePath = above.modulePath.append identifier.words := by
  obtain ⟨before, identifier, hBefore, hCalled, hModule⟩ := modulePath_concat hChild hTrait
  obtain rfl := Except.ok.inj (hBefore.symm.trans (modulePath_of_traitAt hPath hAbove))
  exact ⟨identifier, hCalled, hModule⟩

section Root

variable (hGraph : graph.WellFormed) (hRoot : graph.root = some root)
include hGraph hRoot

theorem exists_path_concat {node : Nat} {trait : Trait}
    (h : graph.traitAt traits node = .ok trait) :
    ∃ path, graph.pathFromRoot node = .ok (path ++ [node]) := by
  obtain ⟨path, -, hPath, -⟩ := exists_path_of_traitAt h
  have hWalk := ((pathFromRoot_eq_ok_iff hGraph hRoot).1 hPath).isWalk
  exact ⟨path.dropLast, by rw [List.dropLast_append_getLast? node hWalk.getLast?, hPath]⟩

/-- Only a node that the root leads to has a trait. -/
theorem leads_of_traitAt {node : Nat} {trait : Trait} (h : graph.traitAt traits node = .ok trait) :
    graph.Leads root node := by
  obtain ⟨path, hPath⟩ := exists_path_concat hGraph hRoot h
  exact ((pathFromRoot_eq_ok_iff hGraph hRoot).1 hPath).isWalk.leads

/-- The root's module lies directly in the module that all traits are in, under the name
of the root. -/
theorem modulePath_root {trait : Trait} (hTrait : graph.traitAt traits root = .ok trait) :
    ∃ identifier, graph.Called traits root identifier ∧
      trait.modulePath = traits.basePath.append identifier.words := by
  have hPath : graph.pathFromRoot root = .ok ([] ++ [root]) :=
    (pathFromRoot_eq_ok_iff hGraph hRoot).2 (.here graph root)
  obtain ⟨before, identifier, hBefore, hCalled, hModule⟩ := modulePath_concat hPath hTrait
  cases hBefore
  exact ⟨identifier, hCalled, hModule⟩

/-- Along an edge that closes no cycle, the module of a trait lies directly in that of the
parent. -/
theorem modulePath_of_edge {path : List Nat} {parent child : Nat} {above trait : Trait}
    (hEdge : (parent, child) ∈ graph.edges) (hPath : graph.pathFromRoot parent = .ok path)
    (hNew : child ∉ path) (hAbove : graph.traitAt traits parent = .ok above)
    (hTrait : graph.traitAt traits child = .ok trait) :
    ∃ identifier, graph.Called traits child identifier ∧
      trait.modulePath = above.modulePath.append identifier.words := by
  obtain ⟨other, -, hOther, -⟩ := exists_path_of_traitAt hTrait
  have hOnly := (pathFromRoot_eq_ok_iff hGraph hRoot).1 hPath
  obtain rfl := hOnly.eq_concat ((pathFromRoot_eq_ok_iff hGraph hRoot).1 hOther) hEdge hNew
  exact modulePath_next hPath hOther hAbove hTrait

/-- The module of a trait lies in the one that all traits are in. -/
theorem liesIn_modulePath {node : Nat} {trait : Trait}
    (h : graph.traitAt traits node = .ok trait) : trait.modulePath.LiesIn traits.base.words := by
  obtain ⟨path, hPath⟩ := exists_path_concat hGraph hRoot h
  exact TraitNames.liesIn_of_modulePath (modulePath_of_traitAt hPath h)

/-- The module of a trait has a name for every node on the path, and one above them. -/
theorem length_modulePath {path : List Nat} {node : Nat} {trait : Trait}
    (hPath : graph.pathFromRoot node = .ok path) (hTrait : graph.traitAt traits node = .ok trait) :
    trait.modulePath.length = path.length + 1 := by
  have hWalk := ((pathFromRoot_eq_ok_iff hGraph hRoot).1 hPath).isWalk
  have hInside := hWalk.inside hGraph (hGraph.root_lt root hRoot)
  obtain ⟨identifiers, hNames, hModule⟩ := map_eq_ok_iff.1 (modulePath_of_traitAt hPath hTrait)
  have hLength := (TraitNames.segmentNames_eq_ok_iff.1 hNames).length_eq
  rw [length_summaries hInside] at hLength
  rw [← hModule, TraitNames.pathOf_eq, hLength]
  simp [ModulePath.length, ModulePath.ofCrate]

/-- No trait is written in the module that all traits are in. -/
theorem two_le_length_modulePath {node : Nat} {trait : Trait}
    (h : graph.traitAt traits node = .ok trait) : 2 ≤ trait.modulePath.length := by
  obtain ⟨path, hPath⟩ := exists_path_concat hGraph hRoot h
  rw [length_modulePath hGraph hRoot hPath h, List.length_append, List.length_singleton]
  omega

/-- The trait of a node is named after the segment of its endpoint. -/
theorem exists_names {node : Nat} {trait : Trait} (h : graph.traitAt traits node = .ok trait) :
    ∃ endpoint above last, graph.endpoint? node = some endpoint ∧
      traits.Names endpoint.summary above last trait := by
  obtain ⟨path, hPath⟩ := exists_path_concat hGraph hRoot h
  obtain ⟨found, endpoint, hFound, hEndpoint, hNamed⟩ := exists_path_of_traitAt h
  obtain rfl := Except.ok.inj (hPath.symm.trans hFound)
  rw [summaries_concat hEndpoint] at hNamed
  obtain ⟨above, last, hNames⟩ := TraitNames.exists_names_of_trait hNamed
  exact ⟨endpoint, above, last, hEndpoint, hNames⟩

/-- Below the module that all traits are in, the names of a trait's module can be written. -/
theorem nameableBelow_modulePath {node : Nat} {trait : Trait}
    (h : graph.traitAt traits node = .ok trait) : trait.modulePath.NameableBelow := by
  obtain ⟨endpoint, above, last, -, hNames⟩ := exists_names hGraph hRoot h
  exact hNames.nameableBelow

end Root

namespace IsTree

variable (hGraph : graph.WellFormed) (hTree : graph.IsTree root) (hRoot : graph.root = some root)
include hGraph hTree hRoot

/-- The trait of a node of a tree is named by the segments on the walk to it. -/
theorem traitAt_eq {walk : List Nat} {node : Nat} {endpoint : Endpoint}
    (hWalk : graph.Walk root walk node) (hEndpoint : graph.endpoint? node = some endpoint) :
    graph.traitAt traits node = traits.trait (graph.summaries walk) endpoint := by
  simp [traitAt, hTree.pathFromRoot_eq_ok hGraph hRoot hWalk, hEndpoint, summaries]

/-- A node of a tree is never refused for the tree's sake. -/
theorem traitAt_ne_tree {node : Nat} (hNode : node < graph.size) (fault : TreeFault) :
    graph.traitAt traits node ≠ .error (.tree fault) := by
  obtain ⟨walk, hWalk⟩ := Walk.of_leads (hTree.leads node hNode)
  obtain ⟨endpoint, hEndpoint⟩ := exists_endpoint? hNode
  rw [hTree.traitAt_eq hGraph hRoot hWalk hEndpoint]
  exact TraitNames.trait_ne_tree _ _ fault

/-- The module of a node lies directly in that of its parent, under the name of the
node. -/
theorem modulePath_child {parent child : Nat} {above trait : Trait}
    (hEdge : (parent, child) ∈ graph.edges) (hAbove : graph.traitAt traits parent = .ok above)
    (hTrait : graph.traitAt traits child = .ok trait) :
    ∃ identifier, graph.Called traits child identifier ∧
      trait.modulePath = above.modulePath.append identifier.words := by
  obtain ⟨walk, hWalk⟩ := Walk.of_leads (hTree.leads parent (hGraph.edgesInside _ hEdge).1)
  exact modulePath_next (hTree.pathFromRoot_eq_ok hGraph hRoot hWalk)
    (hTree.pathFromRoot_eq_ok hGraph hRoot (hWalk.step hEdge)) hAbove hTrait

end IsTree

end EndpointGraph

end CratePlan
