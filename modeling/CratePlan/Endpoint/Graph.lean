import CratePlan.Endpoint.Segment
import CratePlan.Json.Basic
import CratePlan.Table

/-!
# The graph of endpoints

The paths of a document form a hierarchy. It is found from the paths alone: an
endpoint hangs from the longest path, among those that came before it, with which
its own path begins. When the paths come in order, every path comes after all
that it begins with.

A path may begin with another one and still not lie below it, as
`/v1/ChassisGroups` begins with `/v1/Chassis`. Such an endpoint
hangs from the wrong parent until `CratePlan.Endpoint.Tree` moves it.

A node is the position of its endpoint in the order of creation. Edges are kept
with the newest first, and that is the order in which the parents and children of
a node are listed.

A node is found by its path in an index, which the graph keeps beside the endpoints.
An addition reads nothing but the index to find out whether its path is known and
what it hangs from, and writes its own path there at the end. That the index and the
endpoints agree is no part of the type; it is proved of the graphs that can come up.

## Main statements

* `parents_cons`: what one more edge does to the parents of a node.
* `parents_detach`: detaching a node leaves it without parents and every other
  node with those it had.
-/

namespace CratePlan

/-- One path of the document. -/
structure Endpoint where
  path : String
  /-- The name of its last segment. -/
  name : String
  /-- The operations at the path, as the document has them. -/
  payload : Json
deriving Repr, Inhabited

namespace Endpoint

/-- The last segment of the path, as it is written. -/
def summary (endpoint : Endpoint) : String :=
  Text.lastSegment endpoint.path

/-- The path without a slash at its end, unless it is nothing else. -/
def trimSlash (path : String) : String :=
  match path.toList.getLast? with
  | some '/' => if path.toList.length = 1 then path else String.ofList path.toList.dropLast
  | _ => path

/-- `path` begins with `start` and is longer. -/
def extendsPath (start path : String) : Bool :=
  start.toList.isPrefixOf path.toList && start.toList.length < path.toList.length

/-- `path` is `ancestor` with whole segments behind it. -/
def liesBelow (ancestor path : String) : Bool :=
  (ancestor.toList ++ ['/']).isPrefixOf path.toList

end Endpoint

/-- Endpoints in the order of their creation, edges from parent to child with the
newest first, the nodes by their paths, and the node that the hierarchy hangs from. -/
structure EndpointGraph where
  endpoints : List Endpoint
  edges : List (Nat × Nat)
  index : Table String Nat
  root : Option Nat
deriving Repr, Inhabited

namespace EndpointGraph

/-- The graph without endpoints. -/
def empty : EndpointGraph := ⟨[], [], .empty, none⟩

/-- The number of endpoints. -/
def size (graph : EndpointGraph) : Nat := graph.endpoints.length

/-- The nodes, in the order of their creation. -/
def nodes (graph : EndpointGraph) : List Nat := List.range graph.size

/-- The endpoint at a node. -/
def endpoint? (graph : EndpointGraph) (node : Nat) : Option Endpoint :=
  graph.endpoints[node]?

/-- The path of the endpoint at a node; empty where there is none. -/
def pathOf (graph : EndpointGraph) (node : Nat) : String :=
  ((graph.endpoint? node).map Endpoint.path).getD ""

/-- The node of a path, which may have a slash at its end. -/
def node? (graph : EndpointGraph) (path : String) : Option Nat :=
  graph.index.find? (Endpoint.trimSlash path)

/-- The nodes that a node hangs from, the newest edge first. -/
def parents (graph : EndpointGraph) (node : Nat) : List Nat :=
  (graph.edges.filter fun edge => edge.2 = node).map Prod.fst

/-- The nodes that hang from a node, the newest edge first. -/
def children (graph : EndpointGraph) (node : Nat) : List Nat :=
  (graph.edges.filter fun edge => edge.1 = node).map Prod.snd

/-- Of two paths with their nodes, the longer one; the later one if both are as long. -/
def longer (best : Option (String × Nat)) (next : String × Nat) : Option (String × Nat) :=
  match best with
  | none => some next
  | some held => if held.1.toList.length ≤ next.1.toList.length then some next else some held

/-- The node with the longest path that `path` extends. -/
def nearest? (graph : EndpointGraph) (path : String) : Option Nat :=
  let known := graph.index.entries.filter fun entry => Endpoint.extendsPath entry.1 path
  (known.foldl longer none).map Prod.snd

/-- Add an endpoint that is not known yet, below the nearest one. The first
endpoint of all becomes the root. -/
def addNew (graph : EndpointGraph) (endpoint : Endpoint) : EndpointGraph :=
  let node := graph.size
  let endpoints := graph.endpoints ++ [endpoint]
  let index := graph.index.insert endpoint.path node
  match graph.nearest? endpoint.path, graph.root with
  | some parent, root => ⟨endpoints, (parent, node) :: graph.edges, index, root⟩
  | none, none => ⟨endpoints, graph.edges, index, some node⟩
  | none, some root => ⟨endpoints, graph.edges, index, some root⟩

/-- Add the endpoint of a path, and say which node it is. A path that is known
already is not added again, and what the graph knows of it stays. -/
def add (graph : EndpointGraph) (names : SegmentNames) (path : String) (payload : Json) :
    Except PlanError (EndpointGraph × Nat) :=
  match graph.node? path with
  | some node => .ok (graph, node)
  | none => do
    let path := Endpoint.trimSlash path
    let name ← names.endpointName path
    return (graph.addNew ⟨path, name, payload⟩, graph.size)

/-- Paths with their payloads, in the order of the paths. -/
def sortPaths (paths : Table String Json) : List (String × Json) :=
  paths.entries.mergeSort fun a b => a.1 ≤ b.1

/-- The graph of the paths of a document. -/
def build (names : SegmentNames) (paths : Table String Json) : Except PlanError EndpointGraph :=
  (sortPaths paths).foldlM (fun graph entry => (graph.add names entry.1 entry.2).map Prod.fst) empty

/-- Add an edge, unless it is there. -/
def link (graph : EndpointGraph) (parent child : Nat) : EndpointGraph :=
  if (parent, child) ∈ graph.edges then graph
  else { graph with edges := (parent, child) :: graph.edges }

/-- Take a node off all its parents. -/
def detach (graph : EndpointGraph) (node : Nat) : EndpointGraph :=
  { graph with edges := graph.edges.filter fun edge => edge.2 ≠ node }

/-- Hang a node from another one, and from no other. -/
def hang (graph : EndpointGraph) (parent node : Nat) : EndpointGraph :=
  { graph.detach node with edges := (parent, node) :: (graph.detach node).edges }

/-! ## Neighbours after a change of the edges -/

theorem parents_cons (graph : EndpointGraph) (edge : Nat × Nat) (node : Nat) :
    parents { graph with edges := edge :: graph.edges } node =
      (if edge.2 = node then [edge.1] else []) ++ graph.parents node := by
  by_cases h : edge.2 = node <;> simp [parents, h]

/-- A detached node has no parents; every other node keeps its own. -/
theorem parents_detach (graph : EndpointGraph) (node other : Nat) :
    (graph.detach node).parents other = if other = node then [] else graph.parents other := by
  by_cases h : other = node
  · subst h
    simp [detach, parents, List.filter_filter]
  · simp only [detach, parents, List.filter_filter, h, if_false]
    congr 1
    refine List.filter_congr fun edge _ => ?_
    by_cases hEdge : edge.2 = other
    · simp [hEdge, h]
    · simp [hEdge]

/-- A node that is hung has one parent; every other node keeps its own. -/
theorem parents_hang (graph : EndpointGraph) (parent node other : Nat) :
    (graph.hang parent node).parents other =
      if other = node then [parent] else graph.parents other := by
  rw [hang, parents_cons, parents_detach]
  by_cases h : other = node
  · simp [h]
  · simp [h, Ne.symm h]

end EndpointGraph

end CratePlan
