import CratePlan.Proofs.Endpoint.UniqueWalk

/-!
# The order of a walk in depth

A walk in depth keeps a stack, and what lies deeper in the stack waits until all that
lies above it has been finished. So a walk from a stack is a walk from its upper part,
followed by a walk from its lower part through the nodes that are still unseen. This
holds in every graph, and it says where the walk from a node stands in a longer one: at
the node's place, as one block.

In a tree nothing that a node leads to can have been seen before the node, because a
walk comes to every node after its parent. So the block is the whole subtree.

## Main statements

* `depthFrom_append`: a walk from a stack in two parts.
* `exists_block_of_mem_depthFrom`: the walk from a node is a block of the whole walk.
* `IsTree.isPreorder_depthFirst`: a walk in depth lists a tree in preorder.
-/

namespace CratePlan.EndpointGraph

variable {graph : EndpointGraph} {root : Nat}

theorem leaveOut_nil (nodes : List Nat) : leaveOut [] nodes = nodes := by
  simp [leaveOut]

theorem leaveOut_cons (node : Nat) (gone nodes : List Nat) :
    leaveOut (node :: gone) nodes = leaveOut gone (leaveOut [node] nodes) := by
  simp only [leaveOut, List.filter_filter]
  refine List.filter_congr fun other _ => ?_
  by_cases hOther : other = node <;> simp [hOther]

/-! ## Walks in any graph -/

/-- The upper part of a stack is finished before the lower part is touched. -/
theorem depthFrom_append (graph : EndpointGraph) (unseen upper lower : List Nat) :
    graph.depthFrom unseen (upper ++ lower) =
      graph.depthFrom unseen upper ++
        graph.depthFrom (leaveOut (graph.depthFrom unseen upper) unseen) lower := by
  fun_induction depthFrom graph unseen upper with
  | case1 unseen => rw [List.nil_append, List.nil_append, leaveOut_nil]
  | case2 unseen first below hFirst left ih =>
      rw [List.append_assoc] at ih
      rw [List.cons_append, depthFrom, if_pos hFirst, leaveOut_cons first (graph.depthFrom left _),
        List.cons_append, ← ih]
  | case3 unseen first below hFirst ih =>
      rw [List.cons_append, depthFrom, if_neg hFirst]
      exact ih

/-- The walk lists unseen nodes only. -/
theorem unseen_of_mem_depthFrom {unseen stack : List Nat} {node : Nat}
    (h : node ∈ graph.depthFrom unseen stack) : node ∈ unseen := by
  fun_induction depthFrom graph unseen stack with
  | case1 unseen => simp at h
  | case2 unseen first below hFirst left ih =>
      rcases List.mem_cons.1 h with rfl | hRest
      · exact hFirst
      · exact (mem_leaveOut.1 (ih hRest)).1
  | case3 unseen first below hFirst ih => exact ih h

/-- The walk lists no node twice. -/
theorem nodup_depthFrom (unseen stack : List Nat) : (graph.depthFrom unseen stack).Nodup := by
  fun_induction depthFrom graph unseen stack with
  | case1 unseen => exact List.nodup_nil
  | case2 unseen first below hFirst left ih =>
      refine List.nodup_cons.2 ⟨fun hAgain => ?_, ih⟩
      simpa using (mem_leaveOut.1 (unseen_of_mem_depthFrom hAgain)).2
  | case3 unseen first below hFirst ih => exact ih

/-- A node that the walk lists was stacked at first, or comes after one of its parents. -/
theorem depthFrom_parent_before {unseen stack after : List Nat} {node : Nat} :
    ∀ before, graph.depthFrom unseen stack = before ++ node :: after →
      node ∈ stack ∨ ∃ parent ∈ before, (parent, node) ∈ graph.edges := by
  fun_induction depthFrom graph unseen stack with
  | case1 unseen => simp
  | case2 unseen first below hFirst left ih =>
      intro before h
      cases before with
      | nil =>
          rw [List.nil_append, List.cons.injEq] at h
          exact .inl (by simp [h.1])
      | cons head before =>
          rw [List.cons_append, List.cons.injEq] at h
          obtain ⟨rfl, hRest⟩ := h
          rcases ih before hRest with hStack | ⟨parent, hParent, hEdge⟩
          · rcases List.mem_append.1 hStack with hChild | hBelow
            · have hEdge := (mem_unseenChildren.1 (List.mem_reverse.1 hChild)).1
              exact .inr ⟨first, by simp, hEdge⟩
            · exact .inl (by simp [hBelow])
          · exact .inr ⟨parent, by simp [hParent], hEdge⟩
  | case3 unseen first below hFirst ih =>
      intro before h
      rcases ih before h with hBelow | hParent
      · exact .inl (by simp [hBelow])
      · exact .inr hParent

/-- When the walk comes to a node, it goes through all that the node leads to among the
nodes that are unseen then, before it goes on. -/
theorem exists_block_of_mem_depthFrom {unseen stack : List Nat} {node : Nat}
    (h : node ∈ graph.depthFrom unseen stack) :
    ∃ before after, node ∈ leaveOut before unseen ∧
      graph.depthFrom unseen stack =
        before ++ graph.depthFrom (leaveOut before unseen) [node] ++ after := by
  fun_induction depthFrom graph unseen stack with
  | case1 unseen => simp at h
  | case2 unseen first below hFirst left ih =>
      rcases List.mem_cons.1 h with rfl | hRest
      · have hSplit := graph.depthFrom_append unseen [node] below
        rw [List.singleton_append, depthFrom, if_pos hFirst] at hSplit
        rw [← leaveOut_nil unseen] at hFirst
        let block := graph.depthFrom unseen [node]
        refine ⟨[], graph.depthFrom (leaveOut block unseen) below, hFirst, ?_⟩
        rw [leaveOut_nil, List.nil_append]
        exact hSplit
      · obtain ⟨before, after, hNode, hBlock⟩ := ih hRest
        refine ⟨first :: before, after, ?_, ?_⟩
        · rwa [leaveOut_cons]
        · rw [leaveOut_cons, hBlock, List.cons_append, List.cons_append]
  | case3 unseen first below hFirst ih => exact ih h

/-! ## Walks in a tree -/

/-- The nodes of a tree in an order in which every subtree is one block that begins with
its top. -/
structure IsPreorder (graph : EndpointGraph) (order : List Nat) : Prop where
  perm : order.Perm graph.nodes
  head? : order.head? = graph.root
  block : ∀ node ∈ order, ∃ before inner after, order = before ++ node :: inner ++ after ∧
    ∀ other, other ∈ node :: inner ↔ graph.Leads node other

namespace IsTree

variable (hGraph : graph.WellFormed) (hTree : graph.IsTree root) (hRoot : graph.root = some root)
include hGraph hTree

/-- Whatever a node leads to comes after the node: what comes before it cannot hold the
end of an edge without its beginning. -/
theorem not_mem_before {before after : List Nat} {node other : Nat}
    (hOrder : graph.depthFirst root = before ++ after) (hNode : node ∉ before)
    (h : graph.Leads node other) : other ∉ before := by
  induction h with
  | refl => exact hNode
  | @tail parent child _ hEdge ih =>
      intro hChild
      obtain ⟨earlier, later, rfl⟩ := List.append_of_mem hChild
      rw [List.append_assoc, List.cons_append] at hOrder
      rcases depthFrom_parent_before _ hOrder with hStart | ⟨first, hFirst, hFirstEdge⟩
      · rw [List.mem_singleton] at hStart
        exact hTree.not_edge_root (hStart ▸ hEdge)
      · have hParents := hTree.parents_eq hGraph hEdge
        have hSame := mem_parents.2 hFirstEdge
        rw [hParents, List.mem_singleton] at hSame
        exact ih (List.mem_append_left _ (hSame ▸ hFirst))

/-- A walk from a node through the nodes that have not been seen before it comes to all
that the node leads to. -/
theorem mem_depthFrom_iff_leads {before after : List Nat} {node other : Nat}
    (hOrder : graph.depthFirst root = before ++ after)
    (hUnseen : node ∈ leaveOut before graph.nodes) :
    other ∈ graph.depthFrom (leaveOut before graph.nodes) [node] ↔ graph.Leads node other := by
  have hBefore : node ∉ before := (mem_leaveOut.1 hUnseen).2
  constructor
  · intro h
    obtain ⟨start, hStart, hLeads⟩ := leads_of_mem_depthFrom h
    rwa [List.mem_singleton.1 hStart] at hLeads
  · intro h
    refine mem_depthFrom_of_within node (by simp) hUnseen ?_
    induction h with
    | refl => exact .refl
    | @tail parent child hLeads hEdge ih =>
        have hChild := hTree.not_mem_before hGraph hOrder hBefore (hLeads.tail hEdge)
        have hInside := mem_nodes.2 (hGraph.edgesInside _ hEdge).2
        exact ih.tail ⟨hEdge, mem_leaveOut.2 ⟨hInside, hChild⟩⟩

include hRoot

/-- A walk in depth from the root comes to all nodes. -/
theorem mem_depthFirst_iff {node : Nat} :
    node ∈ graph.depthFirst root ↔ node < graph.size := by
  have hRootLt := hGraph.root_lt root hRoot
  rw [mem_depthFirst hGraph.edgesInside hRootLt]
  exact ⟨fun h => h.inside hGraph.edgesInside hRootLt, hTree.leads node⟩

/-- A walk in depth lists a tree in preorder. -/
theorem isPreorder_depthFirst : graph.IsPreorder (graph.depthFirst root) where
  perm := by
    have hOrder : (graph.depthFirst root).Nodup := nodup_depthFrom _ _
    refine (List.perm_ext_iff_of_nodup hOrder List.nodup_range).2 fun node => ?_
    rw [hTree.mem_depthFirst_iff hGraph hRoot, List.mem_range]
  head? := by
    have hStart : root ∈ graph.nodes := mem_nodes.2 (hGraph.root_lt root hRoot)
    rw [depthFirst, depthFrom, if_pos hStart, hRoot]
    rfl
  block := by
    intro node hNode
    obtain ⟨before, after, hUnseen, hBlock⟩ := exists_block_of_mem_depthFrom hNode
    obtain ⟨inner, hInner⟩ : ∃ inner,
        graph.depthFrom (leaveOut before graph.nodes) [node] = node :: inner := by
      rw [depthFrom, if_pos hUnseen]
      exact ⟨_, rfl⟩
    refine ⟨before, inner, after, hInner ▸ hBlock, fun other => ?_⟩
    rw [← hInner]
    exact hTree.mem_depthFrom_iff_leads hGraph (hBlock.trans (List.append_assoc ..)) hUnseen

end IsTree

end CratePlan.EndpointGraph
