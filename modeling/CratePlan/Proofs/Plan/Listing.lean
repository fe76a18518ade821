import CratePlan.Proofs.Plan.Traits

/-!
# The listing of traits

The traits of a document are made in the order of a walk in breadth, kept in a table by
their nodes, and taken out in the order of a walk in depth. Nothing is lost between the
two: both walks come to every node of the tree once. So the listing is read as a row of
nodes with a row of traits beside it, and the row of nodes is a preorder of the tree.

What a trait says is then a statement on its node. It names the path of the endpoint
there, and its module continues the module of the trait that the parent has in the same
listing.

## Main statements

* `Grown.exists_order`: the row of nodes that belongs to a listing.
* `IsTree.serves`: what each trait says about its node.
* `listing_in_preorder`: both, for the paths of a document.
-/

namespace CratePlan.EndpointGraph

open Outcome

variable {graph settled : EndpointGraph} {root : Nat} {traits : TraitNames}

/-- A trait serves the endpoint at a node: it has its path and its payload, and its
module continues that of the parent's trait, or the module that all traits are in, by
the name of the last segment. A listing pairs nodes with their traits. -/
structure Serves (graph : EndpointGraph) (traits : TraitNames) (listing : List (Nat × Trait))
    (node : Nat) (trait : Trait) : Prop where
  endpoint : ∃ endpoint, graph.endpoint? node = some endpoint ∧
    trait.endpoint = endpoint.path ∧ trait.payload = endpoint.payload
  typePath : trait.type.path = trait.modulePath
  top : graph.root = some node → ∃ identifier, graph.Called traits node identifier ∧
    trait.modulePath = traits.basePath.append identifier.words
  below : graph.root ≠ some node → ∃ parent above identifier, graph.parents node = [parent] ∧
    (parent, above) ∈ listing ∧ graph.Called traits node identifier ∧
      trait.modulePath = above.modulePath.append identifier.words

namespace IsTree

variable (hGraph : graph.WellFormed) (hTree : graph.IsTree root) (hRoot : graph.root = some root)
include hGraph hTree hRoot

/-- What the trait at a node of a tree holds. -/
theorem traitAt_eq_ok {node : Nat} {trait : Trait} (h : graph.traitAt traits node = .ok trait) :
    trait.type.path = trait.modulePath ∧ ∃ endpoint, graph.endpoint? node = some endpoint ∧
      trait.endpoint = endpoint.path ∧ trait.payload = endpoint.payload := by
  obtain ⟨endpoint, hEndpoint⟩ := exists_endpoint? (lt_size_of_traitAt h)
  obtain ⟨walk, hWalk⟩ := Walk.of_leads (hTree.leads node (lt_size_of_traitAt h))
  rw [hTree.traitAt_eq hGraph hRoot hWalk hEndpoint, TraitNames.trait_eq_ok_iff] at h
  obtain ⟨-, hPath, hSame, hPayload⟩ := h
  exact ⟨hPath.symm, endpoint, hEndpoint, hSame, hPayload⟩

/-- In a listing of the traits of all nodes, each trait serves its node. -/
theorem serves {order : List Nat} {listed : List Trait}
    (hAll : ∀ node < graph.size, node ∈ order)
    (hListed : List.Forall₂ (fun node trait => graph.traitAt traits node = .ok trait) order listed) :
    List.Forall₂ (graph.Serves traits (order.zip listed)) order listed := by
  refine hListed.imp fun node trait hTrait => ?_
  obtain ⟨hType, hEndpoint⟩ := hTree.traitAt_eq_ok hGraph hRoot hTrait
  refine ⟨hEndpoint, hType, fun hTop => ?_, fun hBelow => ?_⟩
  · obtain rfl : root = node := Option.some.inj (hRoot.symm.trans hTop)
    exact modulePath_root hGraph hRoot hTrait
  · have hOther : node ≠ root := fun hSame => hBelow (hSame ▸ hRoot)
    obtain ⟨parent, hParent⟩ := hTree.parents_other node (lt_size_of_traitAt hTrait) hOther
    have hEdge : (parent, node) ∈ graph.edges := mem_parents.1 (by simp [hParent])
    obtain ⟨above, hPair, hAbove⟩ :=
      exists_right_of_forall₂ hListed (hAll parent (hGraph.edgesInside _ hEdge).1)
    obtain ⟨identifier, hCalled, hPath⟩ :=
      hTree.modulePath_child hGraph hRoot hEdge hAbove hTrait
    exact ⟨parent, above, identifier, hParent, hPair, hCalled, hPath⟩

end IsTree

/-- A listing of what additions have built and a normalization has made a tree of is a
row of traits beside a preorder of the nodes. -/
theorem Grown.exists_order (hGrown : graph.Grown) (hNormalize : graph.normalize = (settled, .ok ()))
    {registry next : Registry} {listed : List Trait}
    (hProject : settled.project traits registry = (next, .ok listed)) :
    ∃ order, settled.IsPreorder order ∧
      List.Forall₂ (fun node trait => settled.traitAt traits node = .ok trait) order listed ∧
      List.Forall₂ (settled.Serves traits (order.zip listed)) order listed := by
  obtain ⟨found, hFound, hSame, hSameRoot, hCases⟩ := hGrown.exists_normalize
  obtain rfl : settled = found := congrArg Prod.fst (hNormalize.symm.trans hFound)
  rcases hCases with ⟨hNone, hSize⟩ | ⟨root, hRoot, hGraph, hTree⟩
  · have hNoRoot : settled.root = none := hSameRoot.trans hNone
    have hNoNodes : settled.nodes = [] := by rw [nodes, size, hSame]; simpa [size] using hSize
    have hNoTraits : listed = [] := by
      rw [project, hNoRoot] at hProject
      exact (Except.ok.inj (congrArg Prod.snd hProject)).symm
    subst hNoTraits
    exact ⟨[], ⟨by simp [hNoNodes], by simp [hNoRoot], by simp⟩, .nil, .nil⟩
  · have hRoot : settled.root = some root := hSameRoot.trans hRoot
    have hListed := forall₂_of_project hGraph hRoot hProject
    have hAll : ∀ node < settled.size, node ∈ settled.depthFirst root :=
      fun node hNode => (hTree.mem_depthFirst_iff hGraph hRoot).2 hNode
    exact ⟨_, hTree.isPreorder_depthFirst hGraph hRoot, hListed,
      hTree.serves hGraph hRoot hAll hListed⟩

/-- The traits of a document's paths are listed in a preorder of the tree of endpoints,
one for each endpoint, and each trait serves its endpoint. -/
theorem listing_in_preorder {names : SegmentNames} {paths : Table String Json}
    (hBuild : build names paths = .ok graph) (hNormalize : graph.normalize = (settled, .ok ()))
    {registry next : Registry} {listed : List Trait}
    (hProject : settled.project traits registry = (next, .ok listed)) :
    ∃ order, settled.IsPreorder order ∧
      List.Forall₂ (settled.Serves traits (order.zip listed)) order listed := by
  obtain ⟨order, hOrder, -, hServes⟩ := (Grown.of_build hBuild).exists_order hNormalize hProject
  exact ⟨order, hOrder, hServes⟩

/-- Three endpoints in a tree. The walk in breadth comes to the last one before the
second. -/
def branching : EndpointGraph :=
  ⟨[⟨"/a", "a", .null⟩, ⟨"/a/b", "b", .null⟩, ⟨"/d", "d", .null⟩], [(0, 2), (0, 1)],
    .ofList [("/a", 0), ("/a/b", 1), ("/d", 2)], some 0⟩

/-- Traits below a module `api`, without renames. -/
def plainTraits : TraitNames := ⟨.ofLabel "api", .smallLetters, Table.empty⟩

theorem project_branching :
    (branching.project plainTraits .empty).2.map (List.map Trait.endpoint) =
      .ok ["/a", "/a/b", "/d"] := by
  cbv

theorem branching_listing :
    ∃ graph next listed,
      build .smallLetters (Table.ofList [("/a", .null), ("/a/b", .null), ("/d", .null)]) =
        .ok graph ∧
      graph.normalize = (branching, .ok ()) ∧
      branching.project plainTraits .empty = (next, .ok listed) ∧
      listed.map Trait.endpoint = ["/a", "/a/b", "/d"] ∧
      ∃ order, branching.IsPreorder order ∧
        List.Forall₂ (branching.Serves plainTraits (order.zip listed)) order listed := by
  have hBuild : build .smallLetters (Table.ofList [("/a", .null), ("/a/b", .null), ("/d", .null)]) =
      .ok { branching with edges := [(0, 1)] } := by cbv
  have hNormalize : normalize { branching with edges := [(0, 1)] } = (branching, .ok ()) := by cbv
  obtain ⟨next, listed, hProject, hEndpoints⟩ := exists_of_map_snd_eq_ok project_branching
  exact ⟨_, next, listed, hBuild, hNormalize, hProject, hEndpoints,
    listing_in_preorder hBuild hNormalize hProject⟩

end CratePlan.EndpointGraph
