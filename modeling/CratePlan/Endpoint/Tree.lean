import CratePlan.Endpoint.Walk

/-!
# The tree of endpoints

Every endpoint must have exactly one path from the root. The graph that the paths
of a document give comes close. An endpoint may hang from one whose path is only
the beginning of its own and no ancestor of it, and an endpoint that extends no
other hangs from nothing. Both kinds are hung from the root, and what hangs from
them goes along.

Whether the outcome is a tree is checked, and `pathFromRoot` asks the graph anew
for each endpoint: neither relies on how the graph came about.
-/

namespace CratePlan.EndpointGraph

/-- The node hangs from a node that is neither the root nor an ancestor of it. -/
def isMisplaced (graph : EndpointGraph) (root node : Nat) : Bool :=
  (graph.parents node).any fun parent =>
    parent != root && !Endpoint.liesBelow (graph.pathOf parent) (graph.pathOf node)

/-- The nodes that are to be hung from the root: those that the root leads to and
that are misplaced, in the order of a walk in depth, and then those that have no
parent. -/
def toHang (graph : EndpointGraph) (root : Nat) : List Nat :=
  ((graph.depthFirst root).filter fun node => node != root && graph.isMisplaced root node) ++
    graph.nodes.filter fun node => node != root && (graph.parents node).isEmpty

/-- Hang the nodes of a list from the root, one after the other. -/
def hangAll (graph : EndpointGraph) (root : Nat) (nodes : List Nat) : EndpointGraph :=
  nodes.foldl (fun graph node => graph.hang root node) graph

/-- Hang misplaced and unconnected endpoints from the root. -/
def settle (graph : EndpointGraph) : EndpointGraph :=
  match graph.root with
  | none => graph
  | some root => graph.hangAll root (graph.toHang root)

/-- The first node that has too many parents: one if it is the root, two if not. -/
def overparented? (graph : EndpointGraph) (root : Nat) : Option Nat :=
  graph.nodes.find? fun node =>
    decide ((if node = root then 0 else 1) < (graph.parents node).length)

/-- The first node that the root does not lead to. -/
def unreached? (graph : EndpointGraph) (root : Nat) : Option Nat :=
  let reached := graph.breadthFirst root
  graph.nodes.find? fun node => !reached.contains node

/-- Find out whether every endpoint has exactly one path from the root. -/
def checkTree (graph : EndpointGraph) : Except TreeFault Unit :=
  match graph.root with
  | none => .ok ()
  | some root =>
    match graph.overparented? root with
    | some node => .error (.multiplePaths (graph.pathOf node))
    | none =>
      match graph.unreached? root with
      | some node => .error (.unreachable (graph.pathOf node))
      | none => .ok ()

/-- Settle the graph, and find out whether it is a tree then. -/
def normalize (graph : EndpointGraph) : EndpointGraph × Except TreeFault Unit :=
  (graph.settle, graph.settle.checkTree)

/-- The nodes from the root to a node, if there is exactly one way. -/
def pathFromRoot (graph : EndpointGraph) (node : Nat) : Except TreeFault (List Nat) :=
  match graph.root with
  | none => .error (.unreachable (graph.pathOf node))
  | some root =>
    match graph.simplePaths root node with
    | [] => .error (.unreachable (graph.pathOf node))
    | [path] => .ok path
    | _ => .error (.multiplePaths (graph.pathOf node))

end CratePlan.EndpointGraph
