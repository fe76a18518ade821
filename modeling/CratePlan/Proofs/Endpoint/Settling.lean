import CratePlan.Proofs.Endpoint.Growth

/-!
# What a normalization does to a graph

A normalization hangs some nodes from the root and leaves all other nodes where they
are. Which ones is decided on the graph as it stands before: the misplaced nodes that
the root leads to, and the nodes without a parent. `parents_settle` gives the parents
of every node afterwards, in every graph, so that nothing later looks at the fold that
moves the nodes.

With additions, edges set by hand and normalizations, in any order, the graphs are
complete that can come up at all: `Reached` collects them.

## Main statements

* `mem_toHang`: the nodes that are moved.
* `parents_settle`: the parents of every node afterwards.
* `Reached.wellFormed`: every graph that can come up is well formed.
-/

namespace CratePlan.EndpointGraph

variable {graph : EndpointGraph}

/-! ## Hanging nodes from the root -/

/-- Nodes that are hung one after the other have one parent each; every other node
keeps its own. -/
theorem parents_hangAll (root node : Nat) (nodes : List Nat) :
    ∀ graph : EndpointGraph, (graph.hangAll root nodes).parents node =
      if node ∈ nodes then [root] else graph.parents node := by
  induction nodes with
  | nil => intro graph; simp [hangAll]
  | cons first rest ih =>
      intro graph
      have hStep : graph.hangAll root (first :: rest) = (graph.hang root first).hangAll root rest :=
        rfl
      rw [hStep, ih, parents_hang]
      by_cases hRest : node ∈ rest
      · simp [hRest]
      · simp [hRest]

/-- Hanging nodes changes the edges only. -/
theorem exists_hangAll_eq (root : Nat) (nodes : List Nat) :
    ∀ graph : EndpointGraph, ∃ edges, graph.hangAll root nodes = { graph with edges := edges } := by
  induction nodes with
  | nil => exact fun graph => ⟨graph.edges, rfl⟩
  | cons first rest ih => exact fun graph => ih (graph.hang root first)

/-- Hanging a node from another one keeps a graph well formed. -/
theorem WellFormed.hang (hGraph : graph.WellFormed) {parent node : Nat}
    (hParent : parent < graph.size) (hNode : node < graph.size) :
    (graph.hang parent node).WellFormed where
  edgesInside := by
    intro edge hEdge
    rcases List.mem_cons.1 hEdge with rfl | hOld
    · exact ⟨hParent, hNode⟩
    · exact hGraph.edgesInside edge (List.mem_filter.1 hOld).1
  edges_nodup := by
    refine List.nodup_cons.2 ⟨fun hMem => ?_, hGraph.edges_nodup.filter _⟩
    simpa using (List.mem_filter.1 hMem).2
  root_lt := hGraph.root_lt
  root_isSome := hGraph.root_isSome
  indexed := hGraph.indexed

theorem WellFormed.hangAll {root : Nat} {nodes : List Nat} :
    ∀ {graph : EndpointGraph}, graph.WellFormed → root < graph.size →
      (∀ node ∈ nodes, node < graph.size) → (graph.hangAll root nodes).WellFormed := by
  induction nodes with
  | nil => exact fun hGraph _ _ => hGraph
  | cons first rest ih =>
      intro graph hGraph hRoot hNodes
      have hHung := hGraph.hang hRoot (hNodes first (by simp))
      exact ih hHung hRoot fun node hNode => hNodes node (by simp [hNode])

/-! ## The nodes that are moved -/

theorem isMisplaced_iff {root node : Nat} :
    graph.isMisplaced root node = true ↔ ∃ parent, (parent, node) ∈ graph.edges ∧
      parent ≠ root ∧ Endpoint.liesBelow (graph.pathOf parent) (graph.pathOf node) = false := by
  simp [isMisplaced]

/-- A node is moved when the root leads to it and it is misplaced, or when it has no
parent. The root stays. -/
theorem mem_toHang (hGraph : graph.WellFormed) {root node : Nat} (hRoot : graph.root = some root) :
    node ∈ graph.toHang root ↔ node ≠ root ∧
      ((graph.Leads root node ∧ graph.isMisplaced root node = true) ∨
        (node < graph.size ∧ graph.parents node = [])) := by
  have hReach : node ∈ graph.depthFirst root ↔ graph.Leads root node :=
    mem_depthFirst hGraph.edgesInside (hGraph.root_lt root hRoot)
  simp only [toHang, List.mem_append, List.mem_filter, mem_nodes, hReach, Bool.and_eq_true,
    bne_iff_ne, ne_eq, List.isEmpty_iff]
  tauto

theorem lt_of_mem_toHang (hGraph : graph.WellFormed) {root node : Nat}
    (hRoot : graph.root = some root) (h : node ∈ graph.toHang root) : node < graph.size := by
  rcases ((mem_toHang hGraph hRoot).1 h).2 with ⟨hLeads, -⟩ | ⟨hNode, -⟩
  · exact hLeads.inside hGraph.edgesInside (hGraph.root_lt root hRoot)
  · exact hNode

/-! ## The graph afterwards -/

theorem settle_of_root {root : Nat} (hRoot : graph.root = some root) :
    graph.settle = graph.hangAll root (graph.toHang root) := by
  simp [settle, hRoot]

theorem settle_of_no_root (hRoot : graph.root = none) : graph.settle = graph := by
  simp [settle, hRoot]

/-- A normalization changes the edges only. -/
theorem exists_settle_eq (graph : EndpointGraph) :
    ∃ edges, graph.settle = { graph with edges := edges } := by
  unfold settle
  split
  · exact ⟨graph.edges, rfl⟩
  · exact exists_hangAll_eq _ _ graph

@[simp] theorem endpoints_settle : graph.settle.endpoints = graph.endpoints := by
  obtain ⟨edges, hSettle⟩ := graph.exists_settle_eq
  rw [hSettle]

@[simp] theorem index_settle : graph.settle.index = graph.index := by
  obtain ⟨edges, hSettle⟩ := graph.exists_settle_eq
  rw [hSettle]

@[simp] theorem root_settle : graph.settle.root = graph.root := by
  obtain ⟨edges, hSettle⟩ := graph.exists_settle_eq
  rw [hSettle]

@[simp] theorem size_settle : graph.settle.size = graph.size := by
  simp [size]

@[simp] theorem pathOf_settle (node : Nat) : graph.settle.pathOf node = graph.pathOf node := by
  simp [pathOf, endpoint?]

/-- A node that is moved has the root as its only parent; every other node keeps its
parents. -/
theorem parents_settle {root : Nat} (hRoot : graph.root = some root) (node : Nat) :
    graph.settle.parents node =
      if node ∈ graph.toHang root then [root] else graph.parents node := by
  rw [settle_of_root hRoot, parents_hangAll]

theorem WellFormed.settle (hGraph : graph.WellFormed) : graph.settle.WellFormed := by
  cases hRoot : graph.root with
  | none => rwa [settle_of_no_root hRoot]
  | some root =>
      rw [settle_of_root hRoot]
      exact hGraph.hangAll (hGraph.root_lt root hRoot) fun node => lt_of_mem_toHang hGraph hRoot

/-! ## The graphs that can come up -/

/-- Graphs that additions, edges set by hand and normalizations lead to, in any order.
An edge can be set between nodes of the graph only. -/
inductive Reached : EndpointGraph → Prop where
  | empty : Reached empty
  | add {graph next : EndpointGraph} {names : SegmentNames} {path : String} {payload : Json}
      {node : Nat} (hGraph : Reached graph)
      (hAdd : graph.add names path payload = .ok (next, node)) : Reached next
  | link {graph : EndpointGraph} {parent child : Nat} (hGraph : Reached graph)
      (hParent : parent ∈ graph.nodes) (hChild : child ∈ graph.nodes) :
      Reached (graph.link parent child)
  | normalize {graph : EndpointGraph} (hGraph : Reached graph) : Reached graph.normalize.1

/-- An addition keeps a graph well formed. -/
theorem WellFormed.add (hGraph : graph.WellFormed) {next : EndpointGraph} {names : SegmentNames}
    {path : String} {payload : Json} {node : Nat}
    (hAdd : graph.add names path payload = .ok (next, node)) : next.WellFormed := by
  rcases add_eq_ok hAdd with ⟨-, rfl⟩ | ⟨name, -, hNew, -, rfl⟩
  · exact hGraph
  · exact hGraph.addNew hNew

/-- Every graph that can come up is well formed. -/
theorem Reached.wellFormed (h : graph.Reached) : graph.WellFormed := by
  induction h with
  | empty => exact wellFormed_empty
  | add _ hAdd ih => exact ih.add hAdd
  | link _ hParent hChild ih => exact ih.link (mem_nodes.1 hParent) (mem_nodes.1 hChild)
  | normalize _ ih => exact ih.settle

end CratePlan.EndpointGraph
