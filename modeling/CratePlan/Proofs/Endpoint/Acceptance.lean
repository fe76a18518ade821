import CratePlan.Proofs.Endpoint.Naming
import CratePlan.Proofs.Endpoint.Projection

/-!
# Which endpoints get a trait

The trait of an endpoint is found by naming all segments on the way to it, so that the
segments of an endpoint are named once for each endpoint below it. That adds no reason to
fail. What a segment is called does not depend on the endpoint it is named for, and in the
order in which traits are made the endpoints above have theirs already.

So a projection succeeds when every endpoint's own segment is accepted, and an error of it
is about the endpoint's own segment.

## Main statements

* `TraitNames.exists_typePath_concat_iff`: what one more segment has to meet.
* `IsTree.exists_project_iff`: when all endpoints of a tree get their traits.
* `IsTree.ownFault_of_project`: what an error of a projection is about.
-/

namespace CratePlan

open Outcome

namespace TraitNames

variable {traits : TraitNames} {segments : List String} {segment : String}

/-- A trait can be named after the segment: it is called by something, and if the settings
rename that, the new name can be written. -/
def Accepts (traits : TraitNames) (segment : String) : Prop :=
  ∃ identifier, traits.Calls segment identifier ∧
    ∀ rename, traits.renames.find? identifier.words = some rename → rename.words.writable = true

/-- The name of a segment, or what the settings put in its place, cannot be written. -/
inductive Refuses (traits : TraitNames) (segment : String) : CaseError → Prop where
  | module {name : String} {fault : CaseError} (hName : traits.names.name? segment = some name)
      (hFault : (Identifier.ofLabel name).render .snake = .error fault) :
      Refuses traits segment fault
  | type {identifier : Identifier} {fault : CaseError} (hCalls : traits.Calls segment identifier)
      (hFault : (traits.traitName identifier).render .pascal = .error fault) :
      Refuses traits segment fault

/-- A name that can be written is only lost to one that replaces it. -/
theorem writable_traitName_iff {identifier : Identifier} (h : identifier.words.writable = true) :
    (traits.traitName identifier).words.writable = true ↔
      ∀ rename, traits.renames.find? identifier.words = some rename →
        rename.words.writable = true := by
  unfold traitName
  cases traits.renames.find? identifier.words with
  | none => simp [h]
  | some rename => simp

/-- Segments lead to a trait when those above are called by something and the last is
accepted. -/
theorem exists_typePath_concat_iff :
    (∃ type, traits.typePath (segments ++ [segment]) = .ok type) ↔
      (∀ above ∈ segments, ∃ identifier, traits.Calls above identifier) ∧
        traits.Accepts segment := by
  simp only [typePath_eq_ok_iff, forall₂_concat_iff, Identifier.render_eq_ok_iff]
  constructor
  · rintro ⟨type, -, ⟨before, last, hBefore, hLast, rfl⟩, name, ⟨hWritable, -⟩, -⟩
    rw [List.getLast?_concat, Option.getD_some] at hWritable
    obtain ⟨-, -, -, hModule⟩ := id hLast
    exact ⟨exists_forall₂_iff.1 ⟨before, hBefore⟩, last, hLast,
      (writable_traitName_iff hModule).1 hWritable⟩
  · rintro ⟨hAbove, last, hLast, hRename⟩
    obtain ⟨before, hBefore⟩ := exists_forall₂_iff.2 hAbove
    obtain ⟨-, -, -, hModule⟩ := id hLast
    have hWritable := (writable_traitName_iff hModule).2 hRename
    refine ⟨_, before ++ [last], ⟨before, last, hBefore, hLast, rfl⟩, _, ⟨?_, rfl⟩, rfl⟩
    rw [List.getLast?_concat, Option.getD_some]
    exact hWritable

/-- A segment that has a name is only refused if that cannot be written. -/
theorem segmentName_eq_error {name : String} {error : PlanError}
    (hName : traits.names.name? segment = some name)
    (h : traits.segmentName segments segment = .error error) :
    ∃ fault, error = .unwritable fault ∧
      (Identifier.ofLabel name).render .snake = .error fault := by
  simp only [segmentName, hName] at h
  split at h
  case h_1 fault hFault =>
      cases h
      exact ⟨fault, rfl, hFault⟩
  case h_2 => cases h

/-- An error is about the last segment if it has a name and those above are called by
something. -/
theorem refuses_of_typePath_concat {name : String} {error : PlanError}
    (hAbove : ∀ above ∈ segments, ∃ identifier, traits.Calls above identifier)
    (hName : traits.names.name? segment = some name)
    (h : traits.typePath (segments ++ [segment]) = .error error) :
    ∃ fault, error = .unwritable fault ∧ traits.Refuses segment fault := by
  rcases bind_eq_error_iff.1 h with hSegments | ⟨identifiers, hIdentifiers, hType⟩
  · obtain ⟨other, hOther, hError⟩ := exists_of_mapM_eq_error hSegments
    rcases List.mem_append.1 hOther with hInner | hLast
    · obtain ⟨identifier, hCalls⟩ := hAbove other hInner
      have hOk : traits.segmentName (segments ++ [segment]) other = .ok identifier :=
        segmentName_eq_ok_iff.2 hCalls
      rw [hOk] at hError
      cases hError
    · rw [List.mem_singleton.1 hLast] at hError
      obtain ⟨fault, rfl, hFault⟩ := segmentName_eq_error hName hError
      exact ⟨fault, rfl, .module hName hFault⟩
  · obtain ⟨before, last, -, hCalls, rfl⟩ :=
      forall₂_concat_iff.1 (segmentNames_eq_ok_iff.1 hIdentifiers)
    simp only [List.getLast?_concat, Option.getD_some] at hType
    split at hType
    case h_1 fault hFault =>
        cases hType
        exact ⟨fault, rfl, .type hCalls (map_eq_error_iff.1 hFault)⟩
    case h_2 => cases hType

end TraitNames

namespace EndpointGraph

variable {graph : EndpointGraph} {root : Nat} {traits : TraitNames}

/-- The endpoints on a walk are called by something when their segments are. -/
theorem exists_called_iff {walk : List Nat} (hInside : ∀ node ∈ walk, node < graph.size) :
    (∀ segment ∈ graph.summaries walk, ∃ identifier, traits.Calls segment identifier) ↔
      ∀ node ∈ walk, ∃ identifier, graph.Called traits node identifier := by
  constructor
  · intro hSegments node hNode
    obtain ⟨endpoint, hEndpoint⟩ := exists_endpoint? (hInside node hNode)
    have hMem : endpoint.summary ∈ graph.summaries walk :=
      List.mem_map.2 ⟨endpoint, List.mem_filterMap.2 ⟨node, hNode, hEndpoint⟩, rfl⟩
    obtain ⟨identifier, hCalls⟩ := hSegments _ hMem
    exact ⟨identifier, endpoint, hEndpoint, hCalls⟩
  · intro hNodes segment hSegment
    obtain ⟨endpoint, hMem, rfl⟩ := List.mem_map.1 hSegment
    obtain ⟨node, hNode, hEndpoint⟩ := List.mem_filterMap.1 hMem
    obtain ⟨identifier, found, hFound, hCalls⟩ := hNodes node hNode
    obtain rfl : endpoint = found := Option.some.inj (hEndpoint.symm.trans hFound)
    exact ⟨identifier, hCalls⟩

/-- A walk to a node ends there. -/
theorem exists_walk_concat {node : Nat} (h : graph.Leads root node) :
    ∃ walk, graph.Walk root (walk ++ [node]) node := by
  obtain ⟨walk, hWalk⟩ := Walk.of_leads h
  have hEnd := List.dropLast_append_getLast? node hWalk.getLast?
  exact ⟨walk.dropLast, hEnd.symm ▸ hWalk⟩

/-- The fault is about the last segment of an endpoint, and all endpoints on the way to it
are called by something. -/
def OwnFault (graph : EndpointGraph) (traits : TraitNames) (fault : CaseError) : Prop :=
  ∃ root walk node endpoint, graph.root = some root ∧ graph.Walk root (walk ++ [node]) node ∧
    (∀ above ∈ walk, ∃ identifier, graph.Called traits above identifier) ∧
    graph.endpoint? node = some endpoint ∧ traits.Refuses endpoint.summary fault

namespace IsTree

variable (hGraph : graph.WellFormed) (hTree : graph.IsTree root) (hRoot : graph.root = some root)
include hGraph hTree hRoot

/-- An endpoint has a trait when those above are called by something and its own segment
is accepted. -/
theorem exists_traitAt_iff {walk : List Nat} {node : Nat} {endpoint : Endpoint}
    (hWalk : graph.Walk root (walk ++ [node]) node)
    (hEndpoint : graph.endpoint? node = some endpoint) :
    (∃ trait, graph.traitAt traits node = .ok trait) ↔
      (∀ above ∈ walk, ∃ identifier, graph.Called traits above identifier) ∧
        traits.Accepts endpoint.summary := by
  have hInside : ∀ above ∈ walk, above < graph.size :=
    fun above hAbove => hWalk.inside hGraph (hGraph.root_lt root hRoot) above (by simp [hAbove])
  rw [hTree.traitAt_eq hGraph hRoot hWalk hEndpoint, summaries_concat hEndpoint,
    ← exists_called_iff hInside, ← TraitNames.exists_typePath_concat_iff]
  simp only [TraitNames.trait, map_eq_ok_iff]
  constructor
  · rintro ⟨trait, type, hType, -⟩
    exact ⟨type, hType⟩
  · rintro ⟨type, hType⟩
    exact ⟨_, type, hType, rfl⟩

/-- All endpoints have traits when each of them is accepted by itself. -/
theorem forall_exists_traitAt_iff :
    (∀ node < graph.size, ∃ trait, graph.traitAt traits node = .ok trait) ↔
      ∀ endpoint ∈ graph.endpoints, traits.Accepts endpoint.summary := by
  constructor
  · intro hTraits endpoint hMem
    obtain ⟨node, hEndpoint⟩ := List.mem_iff_getElem?.1 hMem
    have hNode : node < graph.size := (List.getElem?_eq_some_iff.1 hEndpoint).1
    obtain ⟨walk, hWalk⟩ := exists_walk_concat (hTree.leads node hNode)
    exact ((hTree.exists_traitAt_iff hGraph hRoot hWalk hEndpoint).1 (hTraits node hNode)).2
  · intro hAccepts node hNode
    have hCalled : ∀ other < graph.size, ∃ identifier, graph.Called traits other identifier := by
      intro other hOther
      obtain ⟨endpoint, hEndpoint⟩ := exists_endpoint? hOther
      obtain ⟨identifier, hCalls, -⟩ := hAccepts endpoint (List.mem_of_getElem? hEndpoint)
      exact ⟨identifier, endpoint, hEndpoint, hCalls⟩
    obtain ⟨endpoint, hEndpoint⟩ := exists_endpoint? hNode
    obtain ⟨walk, hWalk⟩ := exists_walk_concat (hTree.leads node hNode)
    refine (hTree.exists_traitAt_iff hGraph hRoot hWalk hEndpoint).2 ⟨fun above hAbove => ?_, ?_⟩
    · exact hCalled above
        (hWalk.inside hGraph (hGraph.root_lt root hRoot) above (by simp [hAbove]))
    · exact hAccepts endpoint (List.mem_of_getElem? hEndpoint)

/-- A projection succeeds when each endpoint is accepted by itself. -/
theorem exists_project_iff {registry : Registry} :
    (∃ listed, (graph.project traits registry).2 = .ok listed) ↔
      ∀ endpoint ∈ graph.endpoints, traits.Accepts endpoint.summary := by
  rw [← hTree.forall_exists_traitAt_iff hGraph hRoot]
  have hLayOut : (∃ listed, (graph.project traits registry).2 = .ok listed) ↔
      ∃ final, (graph.layOut traits (graph.breadthFirst root) [] registry).2 = .ok final := by
    simp only [project, hRoot]
    split
    case h_1 next error hRow => simp [hRow]
    case h_2 next final hRow => simp [hRow]
  rw [hLayOut, exists_layOut_iff]
  simp only [hTree.mem_breadthFirst_iff hGraph hRoot]

/-- When the nodes before a node in a walk in breadth have their traits, all endpoints on
the way to it are called by something. -/
theorem exists_walk_of_before {before after : List Nat} {node : Nat}
    (hOrder : graph.breadthFirst root = before ++ node :: after)
    (hBefore : ∀ earlier ∈ before, ∃ trait, graph.traitAt traits earlier = .ok trait) :
    ∃ walk, graph.Walk root (walk ++ [node]) node ∧
      ∀ above ∈ walk, ∃ identifier, graph.Called traits above identifier := by
  by_cases hTop : node = root
  · subst hTop
    exact ⟨[], .here, by simp⟩
  · -- The parent's trait has been made, so that all segments up to it have been named.
    obtain ⟨parent, hParent, hEdge⟩ := breadthFirst_parent_before hOrder hTop
    have hInside : parent < graph.size := (hGraph.edgesInside _ hEdge).1
    obtain ⟨endpoint, hEndpoint⟩ := exists_endpoint? hInside
    obtain ⟨walk, hWalk⟩ := exists_walk_concat (hTree.leads parent hInside)
    obtain ⟨hAbove, identifier, hCalls, -⟩ :=
      (hTree.exists_traitAt_iff hGraph hRoot hWalk hEndpoint).1 (hBefore parent hParent)
    refine ⟨walk ++ [parent], hWalk.step hEdge, fun above hMem => ?_⟩
    rcases List.mem_append.1 hMem with hInner | hLast
    · exact hAbove above hInner
    · rw [List.mem_singleton.1 hLast]
      exact ⟨identifier, endpoint, hEndpoint, hCalls⟩

/-- An error of a projection is about an endpoint's own segment: those above it have their
traits by then. -/
theorem ownFault_of_project (hNamed : graph.Named traits.names) {registry : Registry}
    {error : PlanError} (h : (graph.project traits registry).2 = .error error) :
    ∃ fault, error = .unwritable fault ∧ graph.OwnFault traits fault := by
  simp only [project, hRoot] at h
  split at h
  case h_2 => cases h
  case h_1 next found hRow =>
      cases h
      obtain ⟨before, node, after, hOrder, hBefore, hError⟩ :=
        exists_of_layOut_eq_error (congrArg Prod.snd hRow)
      have hMem : node ∈ graph.breadthFirst root := by simp [hOrder]
      have hNode := (hTree.mem_breadthFirst_iff hGraph hRoot).1 hMem
      obtain ⟨endpoint, hEndpoint⟩ := exists_endpoint? hNode
      obtain ⟨walk, hWalk, hAbove⟩ := hTree.exists_walk_of_before hGraph hRoot hOrder hBefore
      have hName := hNamed endpoint (List.mem_of_getElem? hEndpoint)
      have hInside : ∀ above ∈ walk, above < graph.size :=
        fun above hMem => hWalk.inside hGraph (hGraph.root_lt root hRoot) above (by simp [hMem])
      rw [hTree.traitAt_eq hGraph hRoot hWalk hEndpoint, summaries_concat hEndpoint,
        TraitNames.trait, map_eq_error_iff] at hError
      obtain ⟨fault, rfl, hRefuses⟩ :=
        TraitNames.refuses_of_typePath_concat ((exists_called_iff hInside).2 hAbove) hName hError
      exact ⟨fault, rfl, root, walk, node, endpoint, hRoot, hWalk, hAbove, hEndpoint, hRefuses⟩

end IsTree

end EndpointGraph

end CratePlan
