import CratePlan.Proofs.Endpoint.Forest

/-!
# What a normalization moves and what it leaves

A graph may have any edges when it is normalized: cycles, loops, edges into the root and
several parents of one node. Nodes that stray are hung from the root, one after the other,
and each loses all its edges from elsewhere on the way. Which nodes stray is said of the graph
before the first of them is moved. It makes no difference to a node that others are moved,
not even to one that they lead to, since only edges into moved nodes go.

What is moved does not depend on how the check ends that comes after it.

## Main statements

* `mem_toHang_iff_strays`: the nodes that are moved.
* `Reached.normalize_moves_strays`: the edges into every node afterwards, and what stays.
-/

namespace CratePlan.EndpointGraph

variable {graph : EndpointGraph}

/-- The edges that end at a node, the newest first. -/
def edgesInto (graph : EndpointGraph) (node : Nat) : List (Nat × Nat) :=
  graph.edges.filter fun edge => edge.2 = node

/-- The edges into a node are known from its parents. -/
theorem edgesInto_eq (graph : EndpointGraph) (node : Nat) :
    graph.edgesInto node = (graph.parents node).map fun parent => (parent, node) := by
  rw [edgesInto, parents, List.map_map]
  refine Eq.symm ((List.map_congr_left fun edge hEdge => ?_).trans (List.map_id _))
  have hEnd : edge.2 = node := by simpa using (List.mem_filter.1 hEdge).2
  exact Prod.ext rfl hEnd.symm

/-- The node has no parent, or the root leads to it and one of its parents is neither the
root nor an ancestor of it. The root itself does not stray. -/
structure Strays (graph : EndpointGraph) (root node : Nat) : Prop where
  mem : node ∈ graph.nodes
  ne_root : node ≠ root
  unplaced : graph.parents node = [] ∨
    (graph.Leads root node ∧ ∃ parent ∈ graph.parents node, parent ≠ root ∧
      Endpoint.liesBelow (graph.pathOf parent) (graph.pathOf node) = false)

/-- The nodes that are moved are those that stray. -/
theorem mem_toHang_iff_strays (hGraph : graph.WellFormed) {root node : Nat}
    (hRoot : graph.root = some root) : node ∈ graph.toHang root ↔ graph.Strays root node := by
  have hInside : graph.Leads root node → node ∈ graph.nodes := fun hLeads =>
    mem_nodes.2 (hLeads.inside hGraph.edgesInside (hGraph.root_lt root hRoot))
  rw [mem_toHang hGraph hRoot, isMisplaced_iff, ← mem_nodes]
  simp only [← mem_parents]
  constructor
  · rintro ⟨hOther, ⟨hLeads, hMisplaced⟩ | ⟨hNode, hFree⟩⟩
    · exact ⟨hInside hLeads, hOther, .inr ⟨hLeads, hMisplaced⟩⟩
    · exact ⟨hNode, hOther, .inl hFree⟩
  · rintro ⟨hNode, hOther, hFree | hMisplaced⟩
    · exact ⟨hOther, .inr ⟨hNode, hFree⟩⟩
    · exact ⟨hOther, .inl hMisplaced⟩

/-- Whether it succeeds or not, a normalization hangs every node that strays from the root and
from nothing else. Every other node keeps the edges into it, and the endpoints, the index and
the root stay as they are. -/
theorem Reached.normalize_moves_strays (hGraph : graph.Reached) {root : Nat}
    (hRoot : graph.root = some root) {settled : EndpointGraph} {outcome : Except TreeFault Unit}
    (h : graph.normalize = (settled, outcome)) :
    (∀ node, graph.Strays root node → settled.edgesInto node = [(root, node)]) ∧
    (∀ node, ¬graph.Strays root node → settled.edgesInto node = graph.edgesInto node) ∧
    settled.nodes = graph.nodes ∧ settled.endpoints = graph.endpoints ∧
    settled.index = graph.index ∧ (∀ path, settled.node? path = graph.node? path) ∧
    settled.root = graph.root := by
  obtain rfl : graph.settle = settled := congrArg Prod.fst h
  have hStrays : ∀ node, node ∈ graph.toHang root ↔ graph.Strays root node :=
    fun _ => mem_toHang_iff_strays hGraph.wellFormed hRoot
  refine ⟨fun node hNode => ?_, fun node hNode => ?_, by simp [nodes], endpoints_settle,
    index_settle, fun path => by simp [node?], root_settle⟩
  · rw [edgesInto_eq, parents_settle hRoot, if_pos ((hStrays node).2 hNode)]
    rfl
  · rw [edgesInto_eq, parents_settle hRoot, if_neg (mt (hStrays node).1 hNode), ← edgesInto_eq]

/-- Five endpoints, of which the third begins with the second and lies below the first only.
Edges set by hand lead from the second to the root, and from two others to themselves. -/
def tangled : EndpointGraph :=
  ⟨[⟨"/a", "a", .null⟩, ⟨"/a/b", "b", .null⟩, ⟨"/a/bc", "bc", .null⟩, ⟨"/c", "c", .null⟩,
    ⟨"/d", "d", .null⟩], [(1, 0), (4, 4), (2, 2), (1, 2), (0, 1)],
    .ofList [("/a", 0), ("/a/b", 1), ("/a/bc", 2), ("/c", 3), ("/d", 4)], some 0⟩

theorem reached_tangled : tangled.Reached := by
  have hBuild : build .smallLetters (Table.ofList [("/a", .null), ("/a/b", .null),
      ("/a/bc", .null), ("/c", .null), ("/d", .null)]) =
      .ok { tangled with edges := [(1, 2), (0, 1)] } := by cbv
  have hNodes : ∀ node, node < 5 → node ∈ List.range 5 := fun node => List.mem_range.2
  have hLooped := ((Grown.of_build hBuild).reached.link (hNodes 2 (by decide))
    (hNodes 2 (by decide))).link (hNodes 4 (by decide)) (hNodes 4 (by decide))
  exact hLooped.link (hNodes 1 (by decide)) (hNodes 0 (by decide))

/-- The third endpoint and the fourth are moved. The second keeps its parent, the last is not
reached and keeps its loop, and the root keeps the edge for which the normalization fails. -/
theorem tangled_strays_moved :
    ∃ settled, tangled.normalize = (settled, .error (.multiplePaths "/a")) ∧
      settled.edgesInto 2 = [(0, 2)] ∧ settled.edgesInto 3 = [(0, 3)] ∧
      settled.edgesInto 0 = [(1, 0)] ∧ settled.edgesInto 1 = [(0, 1)] ∧
      settled.edgesInto 4 = [(4, 4)] := by
  have hNormalize : tangled.normalize =
      (tangled.settle, .error (.multiplePaths "/a")) := by cbv
  have hHung : tangled.toHang 0 = [2, 3] := by cbv
  have hStrays : ∀ node, tangled.Strays 0 node ↔ node ∈ [2, 3] := fun node => by
    rw [← mem_toHang_iff_strays reached_tangled.wellFormed rfl, hHung]
  obtain ⟨hMoved, hLeft, -⟩ := reached_tangled.normalize_moves_strays rfl hNormalize
  simp only [hStrays] at hMoved hLeft
  exact ⟨_, hNormalize, hMoved 2 (by decide), hMoved 3 (by decide), hLeft 0 (by decide),
    hLeft 1 (by decide), hLeft 4 (by decide)⟩

end CratePlan.EndpointGraph
