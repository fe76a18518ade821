import CratePlan.Endpoint.Walk
import Mathlib.Logic.Relation

/-!
# What the two walks reach

`Leads` is the reachability that edges give, without any order or bookkeeping. A walk
in breadth and a walk in depth both list exactly the nodes that their start leads to.

Both walks carry the nodes that they have not been to, so soundness and completeness
are proved for a walk in the middle of its work. Completeness is about paths that stay
within the unseen nodes: `Within` names these. A step of a walk takes some nodes out of
the unseen ones, and a path that used them is cut at the last of them.

## Main statements

* `mem_breadthFirst`, `mem_depthFirst`: the nodes of either walk.
* `breadthFirst_parent_before`: in a walk in breadth every node but the start comes
  after one of its parents.
-/

namespace CratePlan.EndpointGraph

open Relation

variable {graph : EndpointGraph}

/-- The edges stay within the nodes of the graph. -/
def EdgesInside (graph : EndpointGraph) : Prop :=
  ∀ edge ∈ graph.edges, edge.1 < graph.size ∧ edge.2 < graph.size

/-- Edges lead from one node to another. -/
def Leads (graph : EndpointGraph) : Nat → Nat → Prop :=
  ReflTransGen fun parent child => (parent, child) ∈ graph.edges

/-- Edges lead from one node to another, and behind the first one all nodes on the way
belong to a list. -/
def Within (graph : EndpointGraph) (unseen : List Nat) : Nat → Nat → Prop :=
  ReflTransGen fun parent child => (parent, child) ∈ graph.edges ∧ child ∈ unseen

/-! ## Neighbours as edges -/

@[simp] theorem mem_nodes {node : Nat} : node ∈ graph.nodes ↔ node < graph.size := by
  simp [nodes]

@[simp] theorem mem_parents {node parent : Nat} :
    parent ∈ graph.parents node ↔ (parent, node) ∈ graph.edges := by
  simp [parents]

@[simp] theorem mem_children {node child : Nat} :
    child ∈ graph.children node ↔ (node, child) ∈ graph.edges := by
  simp [children]

theorem mem_unseenChildren {unseen : List Nat} {node child : Nat} :
    child ∈ graph.unseenChildren unseen node ↔
      (node, child) ∈ graph.edges ∧ child ∈ unseen := by
  simp [unseenChildren]

theorem mem_leaveOut {gone nodes : List Nat} {node : Nat} :
    node ∈ leaveOut gone nodes ↔ node ∈ nodes ∧ node ∉ gone := by
  simp [leaveOut]

/-- A node that another one leads to is that one or the end of an edge. -/
theorem Leads.inside {start node : Nat} (hEdges : graph.EdgesInside)
    (hStart : start < graph.size) (h : graph.Leads start node) : node < graph.size := by
  cases h with
  | refl => exact hStart
  | tail _ hEdge => exact (hEdges _ hEdge).2

/-- A way from a node can do without coming back to it. -/
theorem Leads.within {start node : Nat} (hEdges : graph.EdgesInside)
    (h : graph.Leads start node) : graph.Within (leaveOut [start] graph.nodes) start node := by
  induction h with
  | refl => exact .refl
  | @tail middle last _ hEdge ih =>
      by_cases hLast : last = start
      · subst hLast
        exact .refl
      · refine ih.tail ⟨hEdge, mem_leaveOut.2 ⟨?_, by simpa using hLast⟩⟩
        exact mem_nodes.2 (hEdges _ hEdge).2

/-! ## The walk in breadth -/

/-- The walk lists only nodes that the queue leads to. -/
theorem leads_of_mem_breadthFrom {unseen queue : List Nat} {node : Nat}
    (h : node ∈ graph.breadthFrom unseen queue) : ∃ start ∈ queue, graph.Leads start node := by
  fun_induction breadthFrom graph unseen queue with
  | case1 unseen => simp at h
  | case2 unseen first waiting found ih =>
      rw [List.mem_cons] at h
      rcases h with rfl | h
      · exact ⟨node, by simp, .refl⟩
      · obtain ⟨start, hStart, hLeads⟩ := ih h
        rcases List.mem_append.1 hStart with hWaiting | hFound
        · exact ⟨start, by simp [hWaiting], hLeads⟩
        · have hEdge := (mem_unseenChildren.1 hFound).1
          exact ⟨first, by simp, ReflTransGen.head hEdge hLeads⟩

/-- Where a way through unseen nodes goes on after the first node of the queue has been
visited: it ends there, or it continues from a node that is queued now. -/
private theorem within_after_visit {unseen waiting : List Nat} {first start node : Nat}
    (hStart : start ∈ first :: waiting) (h : graph.Within unseen start node) :
    node = first ∨ ∃ next ∈ waiting ++ graph.unseenChildren unseen first,
      graph.Within (leaveOut (graph.unseenChildren unseen first) unseen) next node := by
  induction h with
  | refl =>
      rcases List.mem_cons.1 hStart with rfl | hWaiting
      · exact .inl rfl
      · exact .inr ⟨start, by simp [hWaiting], .refl⟩
  | @tail middle last _ hEdge ih =>
      by_cases hLast : last ∈ graph.unseenChildren unseen first
      · exact .inr ⟨last, by simp [hLast], .refl⟩
      · rcases ih with rfl | ⟨next, hNext, hWithin⟩
        · exact absurd (mem_unseenChildren.2 hEdge) hLast
        · exact .inr ⟨next, hNext, hWithin.tail ⟨hEdge.1, mem_leaveOut.2 ⟨hEdge.2, hLast⟩⟩⟩

/-- The walk lists every node that the queue leads to through unseen nodes. -/
theorem mem_breadthFrom_of_within {unseen queue : List Nat} {node : Nat} :
    ∀ start ∈ queue, graph.Within unseen start node → node ∈ graph.breadthFrom unseen queue := by
  fun_induction breadthFrom graph unseen queue with
  | case1 unseen => simp
  | case2 unseen first waiting found ih =>
      intro start hStart h
      rw [List.mem_cons]
      rcases within_after_visit hStart h with rfl | ⟨next, hNext, hWithin⟩
      · exact .inl rfl
      · exact .inr (ih next hNext hWithin)

/-- A walk in breadth lists exactly the nodes that its start leads to. -/
theorem mem_breadthFirst (hEdges : graph.EdgesInside) {start node : Nat} :
    node ∈ graph.breadthFirst start ↔ graph.Leads start node := by
  constructor
  · intro h
    obtain ⟨first, hFirst, hLeads⟩ := leads_of_mem_breadthFrom h
    rwa [List.mem_singleton.1 hFirst] at hLeads
  · intro h
    exact mem_breadthFrom_of_within start (by simp) (h.within hEdges)

/-- A node that the walk lists was queued at first, or comes after one of its parents. -/
theorem breadthFrom_parent_before {unseen queue after : List Nat} {node : Nat} :
    ∀ before, graph.breadthFrom unseen queue = before ++ node :: after →
      node ∈ queue ∨ ∃ parent ∈ before, (parent, node) ∈ graph.edges := by
  fun_induction breadthFrom graph unseen queue with
  | case1 unseen => simp
  | case2 unseen first waiting found ih =>
      intro before h
      cases before with
      | nil =>
          rw [List.nil_append, List.cons.injEq] at h
          exact .inl (by simp [h.1])
      | cons head before =>
          rw [List.cons_append, List.cons.injEq] at h
          obtain ⟨rfl, hRest⟩ := h
          rcases ih before hRest with hQueue | ⟨parent, hParent, hEdge⟩
          · rcases List.mem_append.1 hQueue with hWaiting | hFound
            · exact .inl (by simp [hWaiting])
            · exact .inr ⟨first, by simp, (mem_unseenChildren.1 hFound).1⟩
          · exact .inr ⟨parent, by simp [hParent], hEdge⟩

/-- In a walk in breadth every node but the start comes after one of its parents. -/
theorem breadthFirst_parent_before {start node : Nat} {before after : List Nat}
    (h : graph.breadthFirst start = before ++ node :: after) (hNode : node ≠ start) :
    ∃ parent ∈ before, (parent, node) ∈ graph.edges :=
  (breadthFrom_parent_before before h).resolve_left (by simpa using hNode)

/-! ## The walk in depth -/

/-- The walk lists only nodes that the stack leads to. -/
theorem leads_of_mem_depthFrom {unseen stack : List Nat} {node : Nat}
    (h : node ∈ graph.depthFrom unseen stack) : ∃ start ∈ stack, graph.Leads start node := by
  fun_induction depthFrom graph unseen stack with
  | case1 unseen => simp at h
  | case2 unseen first below hFirst left ih =>
      rw [List.mem_cons] at h
      rcases h with rfl | h
      · exact ⟨node, by simp, .refl⟩
      · obtain ⟨start, hStart, hLeads⟩ := ih h
        rcases List.mem_append.1 hStart with hChild | hBelow
        · have hEdge := (mem_unseenChildren.1 (List.mem_reverse.1 hChild)).1
          exact ⟨first, by simp, ReflTransGen.head hEdge hLeads⟩
        · exact ⟨start, by simp [hBelow], hLeads⟩
  | case3 unseen first below hFirst ih =>
      obtain ⟨start, hStart, hLeads⟩ := ih h
      exact ⟨start, by simp [hStart], hLeads⟩

/-- Where a way through unseen nodes goes on after the first node of the stack has been
visited: it ends there, or it continues from an unseen node that is stacked now. -/
private theorem within_after_descent {unseen below : List Nat} {first start node : Nat}
    (hStart : start ∈ first :: below) (hUnseen : start ∈ unseen)
    (h : graph.Within unseen start node) :
    node = first ∨ ∃ next ∈ (graph.unseenChildren (leaveOut [first] unseen) first).reverse ++ below,
      next ∈ leaveOut [first] unseen ∧ graph.Within (leaveOut [first] unseen) next node := by
  have hLeft : ∀ {other}, other ∈ unseen → other ≠ first → other ∈ leaveOut [first] unseen :=
    fun hOther hNe => mem_leaveOut.2 ⟨hOther, by simpa using hNe⟩
  induction h with
  | refl =>
      by_cases hFirst : start = first
      · exact .inl hFirst
      · have hBelow := (List.mem_cons.1 hStart).resolve_left hFirst
        exact .inr ⟨start, by simp [hBelow], hLeft hUnseen hFirst, .refl⟩
  | @tail middle last _ hEdge ih =>
      by_cases hLast : last = first
      · exact .inl hLast
      · have hLast := hLeft hEdge.2 hLast
        rcases ih with rfl | ⟨next, hNext, hNextLeft, hWithin⟩
        · have hChild := mem_unseenChildren.2 ⟨hEdge.1, hLast⟩
          exact .inr ⟨last, by simp [hChild], hLast, .refl⟩
        · exact .inr ⟨next, hNext, hNextLeft, hWithin.tail ⟨hEdge.1, hLast⟩⟩

/-- The walk lists every node that an unseen node of the stack leads to through unseen
nodes. -/
theorem mem_depthFrom_of_within {unseen stack : List Nat} {node : Nat} :
    ∀ start ∈ stack, start ∈ unseen → graph.Within unseen start node →
      node ∈ graph.depthFrom unseen stack := by
  fun_induction depthFrom graph unseen stack with
  | case1 unseen => simp
  | case2 unseen first below hFirst left ih =>
      intro start hStart hUnseen h
      rw [List.mem_cons]
      rcases within_after_descent hStart hUnseen h with rfl | ⟨next, hNext, hLeft, hWithin⟩
      · exact .inl rfl
      · exact .inr (ih next hNext hLeft hWithin)
  | case3 unseen first below hFirst ih =>
      intro start hStart hUnseen h
      have hBelow : start ∈ below :=
        (List.mem_cons.1 hStart).resolve_left fun hEq => hFirst (hEq ▸ hUnseen)
      exact ih start hBelow hUnseen h

/-- A walk in depth lists exactly the nodes that its start leads to. -/
theorem mem_depthFirst (hEdges : graph.EdgesInside) {start node : Nat}
    (hStart : start < graph.size) : node ∈ graph.depthFirst start ↔ graph.Leads start node := by
  constructor
  · intro h
    obtain ⟨first, hFirst, hLeads⟩ := leads_of_mem_depthFrom h
    rwa [List.mem_singleton.1 hFirst] at hLeads
  · intro h
    have hWithin : graph.Within graph.nodes start node := by
      refine ReflTransGen.mono (fun parent child hStep => ?_) _ _ h
      exact ⟨hStep, mem_nodes.2 (hEdges _ hStep).2⟩
    exact mem_depthFrom_of_within start (by simp) (mem_nodes.2 hStart) hWithin

end CratePlan.EndpointGraph
