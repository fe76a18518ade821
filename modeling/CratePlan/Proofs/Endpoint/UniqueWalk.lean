import CratePlan.Proofs.Endpoint.SimplePath

/-!
# Trees and unique walks

Whether a graph is a tree is decided by counting parents and by one walk in breadth.
What it is to mean is said with walks: every node is to be the end of exactly one walk
from the root. Walks are lists of nodes that may come to a node again, so they are not
the paths without repetition that `pathFromRoot` looks for, and in a graph with a cycle
there are walks of every length.

`IsTree` is what the check establishes. From there the two meanings are reached by
induction on a walk: a walk in a tree is determined by its end, it therefore comes to no
node twice, and the search for paths without repetition finds it and nothing else.

A well-formed graph has no edge twice, so a walk is determined by its nodes.

## Main statements

* `checkTree_eq_ok_iff`: what the check establishes.
* `isTree_iff_existsUnique_walk`: a tree is a graph of unique walks.
* `IsTree.pathFromRoot_eq_ok`: in a tree the path to a node is its one walk.
-/

namespace CratePlan.EndpointGraph

open Relation

variable {graph : EndpointGraph} {root : Nat}

/-- The root has no parent, every other node has one, and the root leads to all. -/
structure IsTree (graph : EndpointGraph) (root : Nat) : Prop where
  parents_root : graph.parents root = []
  parents_other : ∀ node < graph.size, node ≠ root → ∃ parent, graph.parents node = [parent]
  leads : ∀ node < graph.size, graph.Leads root node

/-! ## Walks in a tree -/

namespace IsTree

theorem not_edge_root (hTree : graph.IsTree root) {parent : Nat} :
    (parent, root) ∉ graph.edges := by
  intro hEdge
  have hParent := mem_parents.2 hEdge
  simp [hTree.parents_root] at hParent

/-- The parent of a node is its only one. -/
theorem parents_eq (hGraph : graph.WellFormed) (hTree : graph.IsTree root) {parent child : Nat}
    (hEdge : (parent, child) ∈ graph.edges) : graph.parents child = [parent] := by
  have hChild : child ≠ root := fun hEq => hTree.not_edge_root (hEq ▸ hEdge)
  obtain ⟨only, hOnly⟩ := hTree.parents_other child (hGraph.edgesInside _ hEdge).2 hChild
  have hParent := mem_parents.2 hEdge
  rw [hOnly, List.mem_singleton] at hParent
  rw [hOnly, hParent]

/-- A walk from the root is determined by its end. -/
theorem walk_unique (hGraph : graph.WellFormed) (hTree : graph.IsTree root)
    {walk : List Nat} {node : Nat} (h : graph.Walk root walk node) :
    ∀ other, graph.Walk root other node → walk = other := by
  induction h with
  | here =>
      intro other hOther
      cases hOther with
      | here => rfl
      | step _ hEdge => exact absurd hEdge hTree.not_edge_root
  | step _ hEdge ih =>
      intro other hOther
      cases hOther with
      | here => exact absurd hEdge hTree.not_edge_root
      | step hBefore hOtherEdge =>
          have hParents := hTree.parents_eq hGraph hEdge
          rw [hTree.parents_eq hGraph hOtherEdge, List.cons.injEq] at hParents
          rw [hParents.1] at hBefore
          rw [ih _ hBefore]

/-- A walk from the root comes to no node twice: it would have gone there before by
another walk, which is shorter. -/
theorem walk_nodup (hGraph : graph.WellFormed) (hTree : graph.IsTree root)
    {walk : List Nat} {node : Nat} (h : graph.Walk root walk node) : walk.Nodup := by
  induction h with
  | here => simp
  | @step walk parent child hWalk hEdge ih =>
      refine List.Nodup.append ih (by simp) ?_
      rw [List.disjoint_singleton]
      intro hAgain
      obtain ⟨before, after, hSplit, hBefore⟩ := hWalk.upTo hAgain
      have hSame := hTree.walk_unique hGraph hBefore _ (hWalk.step hEdge)
      have hLength := congrArg List.length hSame
      rw [hSplit] at hLength
      simp only [List.length_append, List.length_singleton] at hLength
      omega

/-- Along a walk from the root every node is the one parent of the next. -/
theorem walk_isChain (hGraph : graph.WellFormed) (hTree : graph.IsTree root)
    {walk : List Nat} {node : Nat} (h : graph.Walk root walk node) :
    walk.IsChain fun parent child => graph.parents child = [parent] := by
  induction h with
  | here => simp
  | @step walk parent child hWalk hEdge ih =>
      rw [List.isChain_append]
      refine ⟨ih, by simp, ?_⟩
      intro last hLast first hFirst
      rw [hWalk.getLast?, Option.mem_some_iff] at hLast
      rw [List.head?_singleton, Option.mem_some_iff] at hFirst
      subst hLast hFirst
      exact hTree.parents_eq hGraph hEdge

end IsTree

/-! ## What the check establishes -/

theorem overparented?_eq_none :
    graph.overparented? root = none ↔
      ∀ node < graph.size, (graph.parents node).length ≤ if node = root then 0 else 1 := by
  simp [overparented?]

theorem unreached?_eq_none (hGraph : graph.WellFormed) :
    graph.unreached? root = none ↔ ∀ node < graph.size, graph.Leads root node := by
  simp [unreached?, mem_breadthFirst hGraph.edgesInside]

/-- A node that the root leads to is the root or has a parent. -/
theorem Leads.exists_parent {node : Nat} (h : graph.Leads root node) (hNode : node ≠ root) :
    ∃ parent, (parent, node) ∈ graph.edges := by
  rcases ReflTransGen.cases_tail h with hEq | ⟨parent, -, hEdge⟩
  · exact absurd hEq hNode
  · exact ⟨parent, hEdge⟩

/-- The check succeeds exactly on trees. -/
theorem checkTree_eq_ok_iff (hGraph : graph.WellFormed) (hRoot : graph.root = some root) :
    graph.checkTree = .ok () ↔ graph.IsTree root := by
  have hCheck : graph.checkTree = .ok () ↔
      graph.overparented? root = none ∧ graph.unreached? root = none := by
    unfold checkTree
    simp only [hRoot]
    cases graph.overparented? root <;> cases graph.unreached? root <;> simp
  rw [hCheck, overparented?_eq_none, unreached?_eq_none hGraph]
  constructor
  · rintro ⟨hParents, hLeads⟩
    refine ⟨?_, fun node hNode hOther => ?_, hLeads⟩
    · simpa using hParents root (hGraph.root_lt root hRoot)
    · obtain ⟨parent, hEdge⟩ := (hLeads node hNode).exists_parent hOther
      have hLength := hParents node hNode
      rw [if_neg hOther] at hLength
      have hPos := List.length_pos_of_mem (mem_parents.2 hEdge)
      exact List.length_eq_one_iff.1 (by omega)
  · intro hTree
    refine ⟨fun node hNode => ?_, hTree.leads⟩
    split
    case isTrue hEq => simp [hEq, hTree.parents_root]
    case isFalse hOther =>
      obtain ⟨parent, hParent⟩ := hTree.parents_other node hNode hOther
      simp [hParent]

/-- If walks from the root are determined by their ends, the graph is a tree: a second
parent, or any parent of the root, would be the end of another walk. -/
theorem isTree_of_existsUnique_walk (hGraph : graph.WellFormed) (hRoot : graph.root = some root)
    (h : ∀ node ∈ graph.nodes, ∃! walk, graph.Walk root walk node) : graph.IsTree root := by
  have hInside := hGraph.edgesInside
  have hWalk : ∀ node < graph.size, ∃ walk, graph.Walk root walk node :=
    fun node hNode => (h node (mem_nodes.2 hNode)).exists
  have hUnique : ∀ {node walk other}, node < graph.size → graph.Walk root walk node →
      graph.Walk root other node → walk = other :=
    fun hNode hWalk hOther => (h _ (mem_nodes.2 hNode)).unique hWalk hOther
  refine ⟨?_, fun node hNode hOther => ?_, fun node hNode => ?_⟩
  · refine List.eq_nil_iff_forall_not_mem.2 fun parent hParent => ?_
    have hEdge := mem_parents.1 hParent
    obtain ⟨walk, hParentWalk⟩ := hWalk parent (hInside _ hEdge).1
    have hSame := hUnique (hGraph.root_lt root hRoot) (hParentWalk.step hEdge) .here
    exact hParentWalk.ne_nil (by simpa using hSame)
  · obtain ⟨walk, hNodeWalk⟩ := hWalk node hNode
    obtain ⟨parent, hEdge⟩ := hNodeWalk.leads.exists_parent hOther
    obtain ⟨before, hBefore⟩ := hWalk parent (hInside _ hEdge).1
    refine ⟨parent, eq_singleton_of_nodup (hGraph.parents_nodup node) (mem_parents.2 hEdge) ?_⟩
    intro other hOtherParent
    have hOtherEdge := mem_parents.1 hOtherParent
    obtain ⟨otherWalk, hOtherWalk⟩ := hWalk other (hInside _ hOtherEdge).1
    have hSame := hUnique hNode (hOtherWalk.step hOtherEdge) (hBefore.step hEdge)
    rw [List.append_cancel_right hSame] at hOtherWalk
    simpa [hBefore.getLast?, eq_comm] using hOtherWalk.getLast?
  · obtain ⟨walk, hNodeWalk⟩ := hWalk node hNode
    exact hNodeWalk.leads

/-- A tree is a graph in which every node is the end of exactly one walk from the root. -/
theorem isTree_iff_existsUnique_walk (hGraph : graph.WellFormed) (hRoot : graph.root = some root) :
    graph.IsTree root ↔ ∀ node ∈ graph.nodes, ∃! walk, graph.Walk root walk node := by
  refine ⟨fun hTree node hNode => ?_, isTree_of_existsUnique_walk hGraph hRoot⟩
  obtain ⟨walk, hWalk⟩ := Walk.of_leads (hTree.leads node (mem_nodes.1 hNode))
  exact ⟨walk, hWalk, fun other hOther => (hTree.walk_unique hGraph hWalk other hOther).symm⟩

/-! ## The path to a node of a tree -/

/-- In a tree the path to a node is the walk that ends there. -/
theorem IsTree.pathFromRoot_eq_ok (hGraph : graph.WellFormed) (hTree : graph.IsTree root)
    (hRoot : graph.root = some root) {walk : List Nat} {node : Nat}
    (h : graph.Walk root walk node) : graph.pathFromRoot node = .ok walk := by
  refine (pathFromRoot_eq_ok_iff hGraph hRoot).2 ⟨⟨h, hTree.walk_nodup hGraph h⟩, ?_⟩
  exact fun other hOther => hTree.walk_unique hGraph hOther.isWalk walk h

/-- The check succeeds exactly when every node is the end of one walk from the root, and
then the graph has a path to every node, along which every node is the one parent of the
next. -/
theorem Reached.checkTree_eq_ok_iff_existsUnique_walk (hGraph : graph.Reached)
    (hRoot : graph.root = some root) :
    (graph.checkTree = .ok () ↔ ∀ node ∈ graph.nodes, ∃! walk, graph.Walk root walk node) ∧
    (graph.checkTree = .ok () → ∀ node ∈ graph.nodes, ∃ path,
      graph.pathFromRoot node = .ok path ∧ path.head? = some root ∧ path.getLast? = some node ∧
        path.IsChain fun parent child => graph.parents child = [parent]) := by
  have hWellFormed := hGraph.wellFormed
  refine ⟨?_, fun hCheck node hNode => ?_⟩
  · rw [checkTree_eq_ok_iff hWellFormed hRoot, isTree_iff_existsUnique_walk hWellFormed hRoot]
  · have hTree := (checkTree_eq_ok_iff hWellFormed hRoot).1 hCheck
    obtain ⟨walk, hWalk⟩ := Walk.of_leads (hTree.leads node (mem_nodes.1 hNode))
    exact ⟨walk, hTree.pathFromRoot_eq_ok hWellFormed hRoot hWalk, hWalk.head?, hWalk.getLast?,
      hTree.walk_isChain hWellFormed hWalk⟩

/-- Three endpoints, of which the last has been hung from the first by hand. -/
def handLinked : EndpointGraph :=
  ⟨[⟨"/a", "a", .null⟩, ⟨"/a/b", "b", .null⟩, ⟨"/c", "c", .null⟩], [(0, 2), (0, 1)],
    .ofList [("/a", 0), ("/a/b", 1), ("/c", 2)], some 0⟩

theorem reached_handLinked : handLinked.Reached := by
  have hFirst : empty.add .smallLetters "/a" .null =
      .ok (⟨[⟨"/a", "a", .null⟩], [], .ofList [("/a", 0)], some 0⟩, 0) := by cbv
  have hSecond : add ⟨[⟨"/a", "a", .null⟩], [], .ofList [("/a", 0)], some 0⟩ .smallLetters
      "/a/b" .null = .ok (⟨[⟨"/a", "a", .null⟩, ⟨"/a/b", "b", .null⟩], [(0, 1)],
        .ofList [("/a", 0), ("/a/b", 1)], some 0⟩, 1) := by cbv
  have hThird : add ⟨[⟨"/a", "a", .null⟩, ⟨"/a/b", "b", .null⟩], [(0, 1)],
      .ofList [("/a", 0), ("/a/b", 1)], some 0⟩ .smallLetters "/c" .null =
      .ok ({ handLinked with edges := [(0, 1)] }, 2) := by cbv
  have hAdded := ((Reached.empty.add hFirst).add hSecond).add hThird
  have hRoot : 0 ∈ List.range 3 := by decide
  have hLast : 2 ∈ List.range 3 := by decide
  exact hAdded.link hRoot hLast

theorem handLinked_paths :
    (∀ node ∈ handLinked.nodes, ∃! walk, handLinked.Walk 0 walk node) ∧
    ∀ node ∈ handLinked.nodes, ∃ path, handLinked.pathFromRoot node = .ok path ∧
      path.head? = some 0 ∧ path.getLast? = some node ∧
        path.IsChain fun parent child => handLinked.parents child = [parent] := by
  have hCheck : handLinked.checkTree = .ok () := by cbv
  have hPaths := reached_handLinked.checkTree_eq_ok_iff_existsUnique_walk rfl
  exact ⟨hPaths.1.1 hCheck, hPaths.2 hCheck⟩

end CratePlan.EndpointGraph
