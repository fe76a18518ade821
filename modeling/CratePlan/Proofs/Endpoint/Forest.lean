import CratePlan.Proofs.Endpoint.UniqueWalk
import CratePlan.Proofs.Outcome

/-!
# Graphs that additions build

Additions alone lead to a forest: every node has one parent at most, and the path of a
parent is the beginning of its child's, so no node lies above itself. It is not known
that the root leads to all nodes. It leads to those whose paths begin with its own,
since each of these was given the longest beginning in the graph, which is the root's
path or begins with it.

A normalization makes a forest a tree: the nodes without a parent are hung from the
root, and whatever hangs from them goes along. It looks for misplaced nodes before, and
only among those that the root leads to. So a misplaced node whose path does not begin
with the root's stays where it is: `settle_placed_iff` says of every node where it ends
up.

## Main statements

* `IsForest.parent_induction`: from the parents of a node to the node.
* `IsForest.leads_iff`: the nodes that the root leads to.
* `IsForest.isTree_settle`: a forest becomes a tree.
* `IsForest.settle_placed_iff`: which nodes end up below the root or an ancestor.
-/

namespace CratePlan.EndpointGraph

variable {graph : EndpointGraph} {root : Nat}

/-- Graphs that additions alone lead to, each with a naming of its own. -/
inductive Grown : EndpointGraph → Prop where
  | empty : Grown empty
  | add {graph next : EndpointGraph} {names : SegmentNames} {path : String} {payload : Json}
      {node : Nat} (hGraph : Grown graph)
      (hAdd : graph.add names path payload = .ok (next, node)) : Grown next

/-- Every node has one parent at most and the root none, paths begin with those of their
parents, and a path that begins with the root's hangs from the root or from another one
that does. -/
structure IsForest (graph : EndpointGraph) : Prop where
  parents_length : ∀ node, (graph.parents node).length ≤ 1
  parents_root : ∀ root, graph.root = some root → graph.parents root = []
  extends_parent : ∀ parent child, (parent, child) ∈ graph.edges →
    Endpoint.extendsPath (graph.pathOf parent) (graph.pathOf child) = true
  below_root : ∀ root child, graph.root = some root → child < graph.size →
    Endpoint.extendsPath (graph.pathOf root) (graph.pathOf child) = true →
      ∃ parent, (parent, child) ∈ graph.edges ∧
        (parent = root ∨ Endpoint.extendsPath (graph.pathOf root) (graph.pathOf parent) = true)

/-! ## Additions keep a forest -/

theorem isForest_empty : empty.IsForest where
  parents_length := by simp [parents, empty]
  parents_root := by simp [parents, empty]
  extends_parent := by simp [empty]
  below_root := by simp [empty]

/-- The root after an addition is the one before, or it is the first node. -/
private theorem root_addNew_cases (hGraph : graph.WellFormed) {endpoint : Endpoint}
    (hRoot : (graph.addNew endpoint).root = some root) :
    graph.root = some root ∨ (graph.size = 0 ∧ root = graph.size ∧
      graph.nearest? endpoint.path = none) := by
  rw [root_addNew, Option.or_eq_some_iff] at hRoot
  rcases hRoot with hOld | ⟨hNone, hFirst⟩
  · exact .inl hOld
  · split at hFirst
    case isTrue hNearest =>
      refine .inr ⟨?_, (Option.some.inj hFirst).symm, hNearest⟩
      by_contra hSize
      have := hGraph.root_isSome (Nat.pos_of_ne_zero hSize)
      simp [hNone] at this
    case isFalse => cases hFirst

theorem IsForest.addNew (hGraph : graph.WellFormed) (hForest : graph.IsForest)
    {endpoint : Endpoint} : (graph.addNew endpoint).IsForest where
  parents_length := by
    intro node
    rw [parents_addNew]
    by_cases hNode : node = graph.size
    · subst hNode
      rw [if_pos rfl, hGraph.parents_size]
      cases graph.nearest? endpoint.path <;> simp
    · simpa [hNode] using hForest.parents_length node
  parents_root := by
    intro root hRoot
    rw [parents_addNew]
    rcases root_addNew_cases hGraph hRoot with hOld | ⟨-, rfl, hNearest⟩
    · have hLt := hGraph.root_lt root hOld
      rw [if_neg (Nat.ne_of_lt hLt), hForest.parents_root root hOld, List.append_nil]
    · simp [hNearest, hGraph.parents_size]
  extends_parent := by
    intro parent child hEdge
    rcases mem_edges_addNew.1 hEdge with ⟨hNearest, hChild⟩ | hOld
    · obtain ⟨hParent, hExtends, -⟩ := nearest?_eq_some hGraph.indexed hNearest
      simp only at hChild hParent hExtends
      rw [hChild, pathOf_addNew_size, pathOf_addNew_of_lt hParent]
      exact hExtends
    · obtain ⟨hParent, hChild⟩ := hGraph.edgesInside _ hOld
      rw [pathOf_addNew_of_lt hParent, pathOf_addNew_of_lt hChild]
      exact hForest.extends_parent parent child hOld
  below_root := by
    intro root child hRoot hChild hExtends
    rw [size_addNew] at hChild
    rcases root_addNew_cases hGraph hRoot with hOld | ⟨hEmpty, hFirst, -⟩
    · have hRootLt := hGraph.root_lt root hOld
      rw [pathOf_addNew_of_lt hRootLt] at hExtends ⊢
      rcases Nat.lt_or_eq_of_le (Nat.le_of_lt_succ hChild) with hLt | rfl
      · rw [pathOf_addNew_of_lt hLt] at hExtends
        obtain ⟨parent, hEdge, hParent⟩ := hForest.below_root root child hOld hLt hExtends
        refine ⟨parent, mem_edges_addNew.2 (.inr hEdge), ?_⟩
        rwa [pathOf_addNew_of_lt (hGraph.edgesInside _ hEdge).1]
      -- The new path begins with the root's, so it has a nearest one, which is no shorter.
      · rw [pathOf_addNew_size] at hExtends
        cases hNearest : graph.nearest? endpoint.path with
        | none => simp [nearest?_eq_none hGraph.indexed hNearest root hRootLt] at hExtends
        | some nearest =>
          obtain ⟨hLt, hNearestExtends, hLongest⟩ := nearest?_eq_some hGraph.indexed hNearest
          refine ⟨nearest, mem_edges_addNew.2 (.inl ⟨hNearest, rfl⟩), ?_⟩
          rw [pathOf_addNew_of_lt hLt]
          rcases Endpoint.extendsPath_or_eq hExtends hNearestExtends
            (hLongest root hRootLt hExtends) with hBelow | hSame
          · exact .inr hBelow
          · exact .inl (hGraph.indexed.pathOf_inj hRootLt hLt hSame).symm
    · have hSame : child = root := by omega
      rw [hSame] at hExtends
      exact absurd (Endpoint.length_lt_of_extendsPath hExtends) (Nat.lt_irrefl _)

namespace Grown

theorem reached (h : graph.Grown) : graph.Reached := by
  induction h with
  | empty => exact .empty
  | add _ hAdd ih => exact ih.add hAdd

theorem isForest (h : graph.Grown) : graph.IsForest := by
  induction h with
  | empty => exact isForest_empty
  | add hGraph hAdd ih =>
      rcases add_eq_ok hAdd with ⟨-, rfl⟩ | ⟨name, -, -, -, rfl⟩
      · exact ih
      · exact ih.addNew hGraph.reached.wellFormed

/-- The paths of a document are added one after the other. -/
theorem of_build {names : SegmentNames} {paths : Table String Json}
    (h : build names paths = .ok graph) : graph.Grown :=
  build_induction (motive := fun _ graph => graph.Grown) .empty
    (fun _ hGraph hAdd => hGraph.add hAdd) h

end Grown

/-! ## The tree that a forest becomes -/

namespace IsForest

variable (hGraph : graph.WellFormed) (hForest : graph.IsForest)
include hGraph hForest

/-- What a node has as soon as its parents have it is true of every node. The path of a parent
is shorter than its child's, so the way up from a node ends. -/
theorem parent_induction {motive : Nat → Prop}
    (hStep : ∀ node < graph.size, (∀ parent, (parent, node) ∈ graph.edges → motive parent) →
      motive node) {node : Nat} (hNode : node < graph.size) : motive node := by
  induction hLength : (graph.pathOf node).toList.length using Nat.strongRecOn
    generalizing node with
  | ind length ih =>
      refine hStep node hNode fun parent hEdge => ?_
      have hShorter :=
        Endpoint.length_lt_of_extendsPath (hForest.extends_parent parent node hEdge)
      exact ih _ (hLength ▸ hShorter) (hGraph.edgesInside _ hEdge).1 rfl

/-- The root leads to itself and to the paths that begin with its own. -/
theorem leads_iff (hRoot : graph.root = some root) {node : Nat} (hNode : node < graph.size) :
    graph.Leads root node ↔
      node = root ∨ Endpoint.extendsPath (graph.pathOf root) (graph.pathOf node) = true := by
  constructor
  · intro h
    induction h with
    | refl => exact .inl rfl
    | @tail parent child _ hEdge ih =>
        have hExtends := hForest.extends_parent parent child hEdge
        rcases ih (hGraph.edgesInside _ hEdge).1 with rfl | hParent
        · exact .inr hExtends
        · exact .inr (Endpoint.extendsPath_trans hParent hExtends)
  · refine hForest.parent_induction hGraph
      (motive := fun node => node = root ∨
        Endpoint.extendsPath (graph.pathOf root) (graph.pathOf node) = true →
          graph.Leads root node) (fun node hNode ih => ?_) hNode
    rintro (rfl | hExtends)
    · exact .refl
    · obtain ⟨parent, hEdge, hParent⟩ := hForest.below_root root node hRoot hNode hExtends
      exact (ih parent hEdge hParent).tail hEdge

/-- A node that is not moved has one parent, and keeps it. -/
theorem parents_settle_eq (hRoot : graph.root = some root) {node : Nat} (hNode : node < graph.size)
    (hOther : node ≠ root) (hStays : node ∉ graph.toHang root) :
    ∃ parent, (parent, node) ∈ graph.edges ∧ graph.parents node = [parent] ∧
      graph.settle.parents node = [parent] := by
  have hSome : graph.parents node ≠ [] :=
    fun hNone => hStays ((mem_toHang hGraph hRoot).2 ⟨hOther, .inr ⟨hNode, hNone⟩⟩)
  have hLength := hForest.parents_length node
  have hPos := List.length_pos_iff.2 hSome
  have hOne : (graph.parents node).length = 1 := by omega
  obtain ⟨parent, hParent⟩ := List.length_eq_one_iff.1 hOne
  refine ⟨parent, mem_parents.1 (by simp [hParent]), hParent, ?_⟩
  rw [parents_settle hRoot, if_neg hStays, hParent]

/-- A normalization makes a forest a tree. -/
theorem isTree_settle (hRoot : graph.root = some root) : graph.settle.IsTree root where
  parents_root := by
    have hStays : root ∉ graph.toHang root := fun h => ((mem_toHang hGraph hRoot).1 h).1 rfl
    rw [parents_settle hRoot, if_neg hStays, hForest.parents_root root hRoot]
  parents_other := by
    intro node hNode hOther
    rw [size_settle] at hNode
    by_cases hMoved : node ∈ graph.toHang root
    · exact ⟨root, by rw [parents_settle hRoot, if_pos hMoved]⟩
    · obtain ⟨parent, -, -, hParent⟩ :=
        hForest.parents_settle_eq hGraph hRoot hNode hOther hMoved
      exact ⟨parent, hParent⟩
  leads := by
    intro node hNode
    rw [size_settle] at hNode
    -- Whoever is not moved keeps the parent that it had before.
    refine hForest.parent_induction hGraph (motive := graph.settle.Leads root)
      (fun node hNode ih => ?_) hNode
    by_cases hSame : node = root
    · subst hSame
      exact .refl
    · by_cases hMoved : node ∈ graph.toHang root
      · refine Relation.ReflTransGen.single (mem_parents.1 ?_)
        rw [parents_settle hRoot, if_pos hMoved]
        exact List.mem_singleton_self root
      · obtain ⟨parent, hEdge, -, hParent⟩ :=
          hForest.parents_settle_eq hGraph hRoot hNode hSame hMoved
        exact (ih parent hEdge).tail (mem_parents.1 (by simp [hParent]))

/-- A normalization of a forest succeeds. -/
theorem normalize_eq_ok : graph.normalize = (graph.settle, .ok ()) := by
  have hCheck : graph.settle.checkTree = .ok () := by
    cases hRoot : graph.root with
    | none => simp [checkTree, hRoot]
    | some root =>
        have hTree := hForest.isTree_settle hGraph hRoot
        exact (checkTree_eq_ok_iff hGraph.settle (by simpa using hRoot)).2 hTree
  simp [normalize, hCheck]

/-- Where a normalization leaves a node. It ends up below the root or an ancestor,
unless its path does not begin with the root's and it was hung from another path that
is no ancestor of it. -/
theorem settle_placed_iff (hRoot : graph.root = some root) {node : Nat} (hNode : node < graph.size)
    (hOther : node ≠ root) :
    ∃ parent, graph.settle.parents node = [parent] ∧
      ((parent = root ∨ Endpoint.liesBelow (graph.pathOf parent) (graph.pathOf node) = true) ↔
        (Endpoint.extendsPath (graph.pathOf root) (graph.pathOf node) = true ∨
          ∀ before ∈ graph.parents node,
            Endpoint.liesBelow (graph.pathOf before) (graph.pathOf node) = true)) := by
  have hReach := hForest.leads_iff hGraph hRoot hNode
  by_cases hMoved : node ∈ graph.toHang root
  · refine ⟨root, by rw [parents_settle hRoot, if_pos hMoved], iff_of_true (.inl rfl) ?_⟩
    rcases ((mem_toHang hGraph hRoot).1 hMoved).2 with ⟨hLeads, -⟩ | ⟨-, hNone⟩
    · exact .inl ((hReach.1 hLeads).resolve_left hOther)
    · simp [hNone]
  · obtain ⟨parent, hEdge, hBefore, hParent⟩ :=
      hForest.parents_settle_eq hGraph hRoot hNode hOther hMoved
    refine ⟨parent, hParent, ?_⟩
    by_cases hExtends : Endpoint.extendsPath (graph.pathOf root) (graph.pathOf node) = true
    · refine iff_of_true ?_ (.inl hExtends)
      by_contra hWrong
      rw [not_or, Bool.not_eq_true] at hWrong
      have hMisplaced := isMisplaced_iff.2 ⟨parent, hEdge, hWrong.1, hWrong.2⟩
      exact hMoved ((mem_toHang hGraph hRoot).2
        ⟨hOther, .inl ⟨hReach.2 (.inr hExtends), hMisplaced⟩⟩)
    · have hNotRoot : parent ≠ root :=
        fun hEq => hExtends (hEq ▸ hForest.extends_parent parent node hEdge)
      simp [hNotRoot, hExtends, hBefore]

end IsForest

/-- Where the endpoints of a document are left. Each but the root has one parent, which
is the root or an ancestor of it exactly when its path begins with the root's or it was
not hung from a path that is no ancestor. -/
theorem build_normalize_placed_iff {names : SegmentNames} {paths : Table String Json}
    (hBuild : build names paths = .ok graph) (hRoot : graph.root = some root) :
    ∃ settled, graph.normalize = (settled, .ok ()) ∧
      ∀ node ∈ graph.nodes, node ≠ root → ∃ parent, settled.parents node = [parent] ∧
        ((parent = root ∨ Endpoint.liesBelow (settled.pathOf parent) (settled.pathOf node) = true) ↔
          (Endpoint.extendsPath (graph.pathOf root) (graph.pathOf node) = true ∨
            ∀ before ∈ graph.parents node,
              Endpoint.liesBelow (graph.pathOf before) (graph.pathOf node) = true)) := by
  have hGrown := Grown.of_build hBuild
  have hGraph := hGrown.reached.wellFormed
  refine ⟨graph.settle, hGrown.isForest.normalize_eq_ok hGraph, fun node hNode hOther => ?_⟩
  simp only [pathOf_settle]
  exact hGrown.isForest.settle_placed_iff hGraph hRoot (mem_nodes.1 hNode) hOther

/-- The graph of three endpoints, of which the last begins with the second and lies
below neither of the others. -/
def threeTops : EndpointGraph :=
  ⟨[⟨"/a", "a", .null⟩, ⟨"/b", "b", .null⟩, ⟨"/bc", "bc", .null⟩], [(1, 2)],
    .ofList [("/a", 0), ("/b", 1), ("/bc", 2)], some 0⟩

theorem build_threeTops :
    build .smallLetters (Table.ofList [("/a", .null), ("/b", .null), ("/bc", .null)]) =
      .ok threeTops := by
  cbv

/-- The second endpoint is hung from the root, and the last stays below the second. -/
theorem threeTops_placed :
    ∃ settled, threeTops.normalize = (settled, .ok ()) ∧
      (∃ parent, settled.parents 1 = [parent] ∧
        (parent = 0 ∨ Endpoint.liesBelow (settled.pathOf parent) (settled.pathOf 1) = true)) ∧
      ∃ parent, settled.parents 2 = [parent] ∧
        ¬(parent = 0 ∨ Endpoint.liesBelow (settled.pathOf parent) (settled.pathOf 2) = true) := by
  obtain ⟨settled, hSettled, hPlaced⟩ := build_normalize_placed_iff build_threeTops rfl
  obtain ⟨second, hSecond, hSecondPlaced⟩ := hPlaced 1 (by decide) (by decide)
  obtain ⟨last, hLast, hLastPlaced⟩ := hPlaced 2 (by decide) (by decide)
  refine ⟨settled, hSettled, ⟨second, hSecond, hSecondPlaced.2 ?_⟩, last, hLast, ?_⟩
  · exact .inr (by decide)
  · rw [hLastPlaced]
    decide

/-- Not every endpoint of a document ends up below the root or below an ancestor. -/
theorem not_all_placed :
    ¬∀ (names : SegmentNames) (paths : Table String Json) (graph settled : EndpointGraph)
      (root : Nat), build names paths = .ok graph → graph.root = some root →
        graph.normalize = (settled, .ok ()) → ∀ node ∈ settled.nodes, node ≠ root →
          ∃ parent, settled.parents node = [parent] ∧
            (parent = root ∨
              Endpoint.liesBelow (settled.pathOf parent) (settled.pathOf node) = true) := by
  intro hAll
  have hNormalize : threeTops.normalize =
      ({ threeTops with edges := [(0, 1), (1, 2)] }, .ok ()) := by cbv
  obtain ⟨parent, hParent, hPlaced⟩ :=
    hAll _ _ _ _ 0 build_threeTops rfl hNormalize 2 (by decide) (by decide)
  obtain rfl : 1 = parent := by simpa [parents] using hParent
  revert hPlaced
  decide

end CratePlan.EndpointGraph
