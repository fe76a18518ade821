import CratePlan.Endpoint.Graph

/-!
# Walking the graph of endpoints

Three walks are needed: in breadth, in depth, and back from a node to the root.
The first two list the nodes that can be reached, each once. In breadth, the
children of a node are queued in their order, the newest edge first. In depth they
are stacked in that order, so that the oldest edge is followed first.

Walks in a graph may go on for ever, so each of these carries the nodes that it
has not been to. It never goes back to another one, and it ends when they are used
up or nothing leads further.
-/

namespace CratePlan.EndpointGraph

/-- The nodes of a list that are not in another one. -/
def leaveOut (gone nodes : List Nat) : List Nat :=
  nodes.filter (· ∉ gone)

/-- The children of a node among those that a walk has not been to. -/
def unseenChildren (graph : EndpointGraph) (unseen : List Nat) (node : Nat) : List Nat :=
  (graph.children node).filter (· ∈ unseen)

/-- Leaving out one node makes a list shorter that has it. -/
theorem length_leaveOut_lt {gone nodes : List Nat} {node : Nat} (hNode : node ∈ nodes)
    (hGone : node ∈ gone) : (leaveOut gone nodes).length < nodes.length := by
  induction nodes with
  | nil => simp at hNode
  | cons first rest ih =>
      by_cases hFirst : first ∈ gone
      · simpa [leaveOut, hFirst] using
          Nat.lt_succ_of_le (List.length_filter_le (fun x => decide (x ∉ gone)) rest)
      · have hRest : node ∈ rest :=
          (List.mem_cons.1 hNode).resolve_left fun hEq => hFirst (hEq ▸ hGone)
        have := ih hRest
        simp only [leaveOut] at this
        simpa [leaveOut, hFirst] using this

/-- The nodes that are reached in breadth from those in the queue, when the walk has
not been to the nodes in `unseen`. -/
def breadthFrom (graph : EndpointGraph) (unseen queue : List Nat) : List Nat :=
  match queue with
  | [] => []
  | node :: waiting =>
    let found := graph.unseenChildren unseen node
    node :: graph.breadthFrom (leaveOut found unseen) (waiting ++ found)
termination_by (unseen.length, queue.length)
decreasing_by
  by_cases hFound : graph.unseenChildren unseen node = []
  · have hSame : leaveOut (graph.unseenChildren unseen node) unseen = unseen := by
      simp [leaveOut, hFound]
    rw [hSame, hFound, List.append_nil]
    exact Prod.Lex.right _ (by simp)
  · obtain ⟨child, hChild⟩ := List.exists_mem_of_ne_nil _ hFound
    have hUnseen : child ∈ unseen := by simpa using (List.mem_filter.1 hChild).2
    exact Prod.Lex.left _ _ (length_leaveOut_lt hUnseen hChild)

/-- The nodes that are reached in depth from those on the stack, when the walk has
not been to the nodes in `unseen`. -/
def depthFrom (graph : EndpointGraph) (unseen stack : List Nat) : List Nat :=
  match stack with
  | [] => []
  | node :: below =>
    if node ∈ unseen then
      let left := leaveOut [node] unseen
      node :: graph.depthFrom left ((graph.unseenChildren left node).reverse ++ below)
    else graph.depthFrom unseen below
termination_by (unseen.length, stack.length)
decreasing_by
  · rename_i hNode
    exact Prod.Lex.left _ _ (length_leaveOut_lt hNode (by simp))
  · exact Prod.Lex.right _ (by simp)

/-- The nodes that a walk in breadth reaches from a node, in its order. -/
def breadthFirst (graph : EndpointGraph) (start : Nat) : List Nat :=
  graph.breadthFrom (leaveOut [start] graph.nodes) [start]

/-- The nodes that a walk in depth reaches from a node, in its order. -/
def depthFirst (graph : EndpointGraph) (start : Nat) : List Nat :=
  graph.depthFrom graph.nodes [start]

/-- At most two of the paths that lead from `start` to `node` and visit no node
twice, each from its start to its end. Apart from `node` itself the paths use nodes
of `unused` only, and `left` bounds their length. -/
def pathsWithin (graph : EndpointGraph) (start : Nat) :
    (left : Nat) → (unused : List Nat) → (node : Nat) → List (List Nat)
  | 0, _, _ => []
  | left + 1, unused, node =>
    if node = start then [[start]]
    else
      ((graph.parents node).filter (· ∈ unused)).foldl
        (fun found parent =>
          if 2 ≤ found.length then found
          else
            found ++ (graph.pathsWithin start left (leaveOut [parent] unused) parent).map
              (· ++ [node]))
        []

/-- Paths from `start` to `node` that visit no node twice: all of them if there are
less than two, and two or more if there are more. -/
def simplePaths (graph : EndpointGraph) (start node : Nat) : List (List Nat) :=
  graph.pathsWithin start (graph.size + 1) (leaveOut [node] graph.nodes) node

end CratePlan.EndpointGraph
