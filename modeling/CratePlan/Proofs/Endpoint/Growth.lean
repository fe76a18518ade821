import CratePlan.Endpoint.Tree
import CratePlan.Proofs.Endpoint.Reachability
import CratePlan.Proofs.Outcome
import Mathlib.Data.List.Infix
import Mathlib.Data.List.Nodup

/-!
# How a graph of endpoints grows

An addition either finds its path in the graph and changes nothing, or it adds a new
node at the end, below the nearest node if there is one. `add_eq_ok` says this once,
and all that follows from an addition is read off it.

An addition looks its path up in the index and never at the endpoints, and the nearest
node comes from there too. `Indexed` says that both agree. It is kept because a path is
written to the index together with its endpoint, and only if the index did not know it;
that no two nodes have one path follows.

A graph is well formed when its edges stay inside it, none is there twice, its root is
one of its nodes, and its index agrees with its endpoints. Additions and edges set by
hand keep it so.

## Main statements

* `Indexed.add`: an addition keeps the index in step with the endpoints.
* `nearest?_eq_some`, `nearest?_eq_none`: the nearest node has the longest path that
  the new one extends.
* `add_eq_ok`: what an addition can do.
* `build_induction`: what additions keep holds of the graph of a document.
* `WellFormed.addNew`, `WellFormed.link`: what stays true of the graph.
-/

namespace CratePlan

namespace Endpoint

theorem extendsPath_iff {start path : String} :
    extendsPath start path = true ↔
      start.toList <+: path.toList ∧ start.toList.length < path.toList.length := by
  simp [extendsPath]

theorem length_lt_of_extendsPath {start path : String} (h : extendsPath start path = true) :
    start.toList.length < path.toList.length :=
  (extendsPath_iff.1 h).2

theorem extendsPath_trans {first second third : String} (h : extendsPath first second = true)
    (hNext : extendsPath second third = true) : extendsPath first third = true := by
  obtain ⟨hPrefix, hLength⟩ := extendsPath_iff.1 h
  obtain ⟨hNextPrefix, hNextLength⟩ := extendsPath_iff.1 hNext
  exact extendsPath_iff.2 ⟨hPrefix.trans hNextPrefix, Nat.lt_trans hLength hNextLength⟩

/-- Of two paths that a third one extends, the shorter is where the longer begins. -/
theorem extendsPath_or_eq {short long path : String} (hShort : extendsPath short path = true)
    (hLong : extendsPath long path = true)
    (hLength : short.toList.length ≤ long.toList.length) :
    extendsPath short long = true ∨ short = long := by
  have hPrefix : short.toList <+: long.toList :=
    List.prefix_of_prefix_length_le (extendsPath_iff.1 hShort).1 (extendsPath_iff.1 hLong).1 hLength
  rcases Nat.lt_or_eq_of_le hLength with hLt | hEq
  · exact .inl (extendsPath_iff.2 ⟨hPrefix, hLt⟩)
  · exact .inr (String.toList_inj.1 (hPrefix.eq_of_length hEq))

end Endpoint

/-- Names for segments of small letters: each is its own. -/
def SegmentNames.smallLetters : SegmentNames :=
  ⟨[⟨.group 1 (some SegmentPattern.nameGroup) (.repeated 1 none true (.one (.range 'a' 'z')))⟩]⟩

namespace EndpointGraph

variable {graph : EndpointGraph}

/-! ## Endpoints and their paths -/

/-- The paths of the endpoints. -/
def paths (graph : EndpointGraph) : List String :=
  graph.endpoints.map Endpoint.path

/-- The path at a node that holds an endpoint. -/
theorem pathOf_of_endpoint? {node : Nat} {endpoint : Endpoint}
    (h : graph.endpoint? node = some endpoint) : graph.pathOf node = endpoint.path := by
  simp [pathOf, h]

theorem exists_endpoint? {node : Nat} (hNode : node < graph.size) :
    ∃ endpoint, graph.endpoint? node = some endpoint :=
  ⟨_, List.getElem?_eq_getElem hNode⟩

theorem pathOf_eq_getElem {node : Nat} (hNode : node < graph.endpoints.length) :
    graph.pathOf node = graph.endpoints[node].path :=
  pathOf_of_endpoint? (List.getElem?_eq_getElem hNode)

theorem mem_paths_iff {path : String} :
    path ∈ graph.paths ↔ ∃ node, node < graph.size ∧ graph.pathOf node = path := by
  rw [paths, List.mem_map]
  constructor
  · rintro ⟨endpoint, hEndpoint, rfl⟩
    obtain ⟨node, hNode, rfl⟩ := List.getElem_of_mem hEndpoint
    exact ⟨node, hNode, pathOf_eq_getElem hNode⟩
  · rintro ⟨node, hNode, rfl⟩
    exact ⟨_, List.getElem_mem hNode, (pathOf_eq_getElem hNode).symm⟩

theorem pathOf_mem_paths {node : Nat} (hNode : node < graph.size) :
    graph.pathOf node ∈ graph.paths :=
  mem_paths_iff.2 ⟨node, hNode, rfl⟩

/-! ## The index -/

/-- The index leads from the path of each endpoint to its node, and knows no other path. -/
def Indexed (graph : EndpointGraph) : Prop :=
  ∀ path node, graph.index.find? path = some node ↔
    node < graph.size ∧ graph.pathOf node = path

theorem indexed_empty : empty.Indexed := by
  simp [Indexed, empty, size]

namespace Indexed

variable (hIndexed : graph.Indexed)
include hIndexed

/-- The index does not know a path exactly when no endpoint has it. -/
theorem find?_eq_none_iff {path : String} :
    graph.index.find? path = none ↔ path ∉ graph.paths := by
  rw [Option.eq_none_iff_forall_ne_some, mem_paths_iff, not_exists]
  exact forall_congr' fun node => not_congr (hIndexed path node)

/-- A path that is known is that of its node. -/
theorem node?_eq_some_iff {path : String} {node : Nat} :
    graph.node? path = some node ↔
      node < graph.size ∧ graph.pathOf node = Endpoint.trimSlash path :=
  hIndexed _ node

theorem trimSlash_mem_paths {path : String} {node : Nat} (h : graph.node? path = some node) :
    Endpoint.trimSlash path ∈ graph.paths :=
  mem_paths_iff.2 ⟨node, hIndexed.node?_eq_some_iff.1 h⟩

/-- Nodes with one path are the same. -/
theorem pathOf_inj {node other : Nat} (hNode : node < graph.size) (hOther : other < graph.size)
    (h : graph.pathOf node = graph.pathOf other) : node = other := by
  have hFound := (hIndexed _ node).2 ⟨hNode, h⟩
  rw [(hIndexed _ other).2 ⟨hOther, rfl⟩] at hFound
  exact (Option.some.inj hFound).symm

/-- No two endpoints have one path. -/
theorem paths_nodup : graph.paths.Nodup := by
  refine List.pairwise_iff_getElem.2 fun node other hNode hOther hLess hSame => ?_
  rw [paths, List.length_map] at hNode hOther
  have hPath : graph.pathOf node = graph.pathOf other := by
    simpa only [pathOf_eq_getElem hNode, pathOf_eq_getElem hOther, paths, List.getElem_map]
      using hSame
  exact Nat.ne_of_lt hLess (hIndexed.pathOf_inj hNode hOther hPath)

end Indexed

/-! ## The nearest node -/

/-- The search for the longest path ends with the one it started from or one of the
list, and none is longer. -/
private theorem foldl_longer (entries : List (String × Nat)) :
    ∀ best : String × Nat, ∃ held, entries.foldl longer (some best) = some held ∧
      held ∈ best :: entries ∧
      ∀ entry ∈ best :: entries, entry.1.toList.length ≤ held.1.toList.length := by
  induction entries with
  | nil => intro best; exact ⟨best, by simp⟩
  | cons next rest ih =>
      intro best
      by_cases hLength : best.1.toList.length ≤ next.1.toList.length
      · obtain ⟨held, hFold, hMem, hLongest⟩ := ih next
        refine ⟨held, by simp [longer, hLength, hFold], by simp_all, ?_⟩
        intro entry hEntry
        rcases List.mem_cons.1 hEntry with rfl | hEntry
        · exact Nat.le_trans hLength (hLongest next (by simp))
        · exact hLongest entry hEntry
      · obtain ⟨held, hFold, hMem, hLongest⟩ := ih best
        refine ⟨held, by simp [longer, hLength, hFold], ?_, ?_⟩
        · rcases List.mem_cons.1 hMem with rfl | hMem <;> simp [*]
        · intro entry hEntry
          have hBest := hLongest best (by simp)
          simp only [List.mem_cons] at hEntry
          rcases hEntry with rfl | rfl | hEntry
          · exact hBest
          · omega
          · exact hLongest entry (by simp [hEntry])

/-- The search for the nearest node, when there are nodes that the path extends. -/
private theorem nearest?_cases (hIndexed : graph.Indexed) (path : String) :
    (graph.nearest? path = none ∧
      ∀ node < graph.size, Endpoint.extendsPath (graph.pathOf node) path = false) ∨
    ∃ nearest, graph.nearest? path = some nearest ∧ nearest < graph.size ∧
      Endpoint.extendsPath (graph.pathOf nearest) path = true ∧
      ∀ node < graph.size, Endpoint.extendsPath (graph.pathOf node) path = true →
        (graph.pathOf node).toList.length ≤ (graph.pathOf nearest).toList.length := by
  let known := graph.index.entries.filter fun entry => Endpoint.extendsPath entry.1 path
  have hKnown : ∀ {node}, node < graph.size →
      Endpoint.extendsPath (graph.pathOf node) path = true →
        (graph.pathOf node, node) ∈ known := fun {node} hNode hExtends =>
    List.mem_filter.2 ⟨Table.find?_eq_some_iff.1 ((hIndexed _ node).2 ⟨hNode, rfl⟩), hExtends⟩
  have hNearest : graph.nearest? path = (known.foldl longer none).map Prod.snd := rfl
  cases hCases : known with
  | nil =>
      refine .inl ⟨by rw [hNearest, hCases]; rfl, fun node hNode => ?_⟩
      by_contra hExtends
      have hMem := hKnown hNode (by simpa using hExtends)
      simp [hCases] at hMem
  | cons first rest =>
      obtain ⟨⟨start, nearest⟩, hFold, hMem, hLongest⟩ := foldl_longer rest first
      rw [← hCases] at hMem hLongest
      obtain ⟨hEntry, hExtends⟩ := List.mem_filter.1 hMem
      obtain ⟨hInside, rfl⟩ := (hIndexed start nearest).1 (Table.find?_eq_some_iff.2 hEntry)
      refine .inr ⟨nearest, ?_, hInside, hExtends, fun node hNode hOther => ?_⟩
      · simp [hNearest, hCases, longer, hFold]
      · exact hLongest _ (hKnown hNode hOther)

/-- The nearest node has the longest path that the new one extends. -/
theorem nearest?_eq_some (hIndexed : graph.Indexed) {path : String} {nearest : Nat}
    (h : graph.nearest? path = some nearest) :
    nearest < graph.size ∧ Endpoint.extendsPath (graph.pathOf nearest) path = true ∧
      ∀ node < graph.size, Endpoint.extendsPath (graph.pathOf node) path = true →
        (graph.pathOf node).toList.length ≤ (graph.pathOf nearest).toList.length := by
  rcases nearest?_cases hIndexed path with ⟨hNone, -⟩ | ⟨found, hFound, hHolds⟩
  · rw [hNone] at h
    cases h
  · rw [hFound] at h
    cases h
    exact hHolds

/-- There is no nearest node only if the new path extends none. -/
theorem nearest?_eq_none (hIndexed : graph.Indexed) {path : String}
    (h : graph.nearest? path = none) :
    ∀ node < graph.size, Endpoint.extendsPath (graph.pathOf node) path = false := by
  rcases nearest?_cases hIndexed path with ⟨-, hAll⟩ | ⟨found, hFound, -⟩
  · exact hAll
  · rw [hFound] at h
    cases h

/-! ## Additions -/

/-- An addition finds its path in the graph, or it adds a node with a path and a name. -/
theorem add_eq_ok {names : SegmentNames} {path : String} {payload : Json}
    {next : EndpointGraph} {node : Nat} (h : graph.add names path payload = .ok (next, node)) :
    (graph.node? path = some node ∧ next = graph) ∨
    ∃ name, names.endpointName (Endpoint.trimSlash path) = .ok name ∧
      graph.index.find? (Endpoint.trimSlash path) = none ∧ node = graph.size ∧
      next = graph.addNew ⟨Endpoint.trimSlash path, name, payload⟩ := by
  unfold add at h
  split at h
  case h_1 found hFound =>
    cases h
    exact .inl ⟨hFound, rfl⟩
  case h_2 hNone =>
    obtain ⟨name, hName, hNext⟩ := Outcome.bind_eq_ok_iff.1 h
    cases hNext
    exact .inr ⟨name, hName, hNone, rfl, rfl⟩

@[simp] theorem endpoints_addNew (endpoint : Endpoint) :
    (graph.addNew endpoint).endpoints = graph.endpoints ++ [endpoint] := by
  unfold addNew
  split <;> rfl

@[simp] theorem index_addNew (endpoint : Endpoint) :
    (graph.addNew endpoint).index = graph.index.insert endpoint.path graph.size := by
  unfold addNew
  split <;> rfl

@[simp] theorem size_addNew (endpoint : Endpoint) :
    (graph.addNew endpoint).size = graph.size + 1 := by
  simp [size]

theorem edges_addNew (endpoint : Endpoint) :
    (graph.addNew endpoint).edges =
      ((graph.nearest? endpoint.path).map (·, graph.size)).toList ++ graph.edges := by
  unfold addNew
  split <;> simp_all

theorem mem_edges_addNew {endpoint : Endpoint} {edge : Nat × Nat} :
    edge ∈ (graph.addNew endpoint).edges ↔
      (graph.nearest? endpoint.path = some edge.1 ∧ edge.2 = graph.size) ∨
        edge ∈ graph.edges := by
  obtain ⟨parent, child⟩ := edge
  cases hNearest : graph.nearest? endpoint.path <;> simp [edges_addNew, hNearest, eq_comm]

/-- The new node hangs from the nearest one; every other node keeps its parents. -/
theorem parents_addNew (endpoint : Endpoint) (node : Nat) :
    (graph.addNew endpoint).parents node =
      (if node = graph.size then (graph.nearest? endpoint.path).toList else []) ++
        graph.parents node := by
  simp only [parents, edges_addNew, List.filter_append, List.map_append]
  congr 1
  cases graph.nearest? endpoint.path <;> by_cases hNode : node = graph.size <;>
    simp [hNode, eq_comm]

/-- A root stays the root. The first root is the first node that has no nearest one. -/
theorem root_addNew (endpoint : Endpoint) :
    (graph.addNew endpoint).root =
      graph.root.or (if graph.nearest? endpoint.path = none then some graph.size else none) := by
  unfold addNew
  split <;> simp_all

theorem pathOf_addNew_of_lt {endpoint : Endpoint} {node : Nat} (hNode : node < graph.size) :
    (graph.addNew endpoint).pathOf node = graph.pathOf node := by
  simp only [pathOf, endpoint?, endpoints_addNew]
  rw [List.getElem?_append_left hNode]

theorem pathOf_addNew_size (endpoint : Endpoint) :
    (graph.addNew endpoint).pathOf graph.size = endpoint.path := by
  simp [pathOf, endpoint?, size]

/-- A path that is written to the index together with its endpoint is found at its node. -/
theorem Indexed.addNew (hIndexed : graph.Indexed) {endpoint : Endpoint}
    (hNew : graph.index.find? endpoint.path = none) : (graph.addNew endpoint).Indexed := by
  intro path node
  rw [index_addNew, Table.find?_insert, size_addNew]
  by_cases hPath : path = endpoint.path
  · subst hPath
    rw [if_pos rfl, Option.some.injEq]
    constructor
    · rintro rfl
      exact ⟨Nat.lt_succ_self _, pathOf_addNew_size endpoint⟩
    · rintro ⟨hNode, hOwn⟩
      rcases Nat.lt_or_eq_of_le (Nat.le_of_lt_succ hNode) with hOld | rfl
      · rw [pathOf_addNew_of_lt hOld] at hOwn
        exact absurd (mem_paths_iff.2 ⟨node, hOld, hOwn⟩) (hIndexed.find?_eq_none_iff.1 hNew)
      · rfl
  · rw [if_neg hPath, hIndexed]
    constructor
    · rintro ⟨hNode, hOwn⟩
      exact ⟨Nat.lt_succ_of_lt hNode, by rwa [pathOf_addNew_of_lt hNode]⟩
    · rintro ⟨hNode, hOwn⟩
      rcases Nat.lt_or_eq_of_le (Nat.le_of_lt_succ hNode) with hOld | rfl
      · exact ⟨hOld, by rwa [pathOf_addNew_of_lt hOld] at hOwn⟩
      · rw [pathOf_addNew_size] at hOwn
        exact absurd hOwn.symm hPath

/-- An addition keeps the index in step with the endpoints. -/
theorem Indexed.add (hIndexed : graph.Indexed) {names : SegmentNames} {path : String}
    {payload : Json} {next : EndpointGraph} {node : Nat}
    (hAdd : graph.add names path payload = .ok (next, node)) : next.Indexed := by
  rcases add_eq_ok hAdd with ⟨-, rfl⟩ | ⟨name, -, hNew, -, rfl⟩
  · exact hIndexed
  · exact hIndexed.addNew hNew

/-- Additions one after the other succeed if the first does and the others do after it. -/
theorem foldlM_add_cons_eq_ok_iff {names : SegmentNames} {entry : String × Json}
    {rest : List (String × Json)} {next : EndpointGraph} :
    (entry :: rest).foldlM (fun graph entry => (graph.add names entry.1 entry.2).map Prod.fst)
        graph = .ok next ↔
      ∃ added node, graph.add names entry.1 entry.2 = .ok (added, node) ∧
        rest.foldlM (fun graph entry => (graph.add names entry.1 entry.2).map Prod.fst) added =
          .ok next := by
  rw [List.foldlM_cons, Outcome.bind_eq_ok_iff]
  constructor
  · rintro ⟨middle, hMiddle, hRest⟩
    obtain ⟨⟨added, node⟩, hAdd, rfl⟩ := Outcome.map_eq_ok_iff.1 hMiddle
    exact ⟨added, node, hAdd, hRest⟩
  · rintro ⟨added, node, hAdd, hRest⟩
    exact ⟨added, Outcome.map_eq_ok_iff.2 ⟨_, hAdd, rfl⟩, hRest⟩

/-- What holds of the graph without endpoints, and goes on to hold with each path that is
added, holds of the graph that is built. The paths that are done are known at each step. -/
theorem build_induction {names : SegmentNames} {paths : Table String Json}
    {motive : List (String × Json) → EndpointGraph → Prop} (hEmpty : motive [] empty)
    (hAdd : ∀ {done entry rest graph next node}, sortPaths paths = done ++ entry :: rest →
      motive done graph → graph.add names entry.1 entry.2 = .ok (next, node) →
        motive (done ++ [entry]) next)
    (h : build names paths = .ok graph) : motive (sortPaths paths) graph := by
  have hRun : ∀ rest done start, sortPaths paths = done ++ rest → motive done start →
      rest.foldlM (fun graph entry => (graph.add names entry.1 entry.2).map Prod.fst) start =
        .ok graph → motive (sortPaths paths) graph := by
    intro rest
    induction rest with
    | nil =>
        intro done start hAll hDone hEnd
        cases hEnd
        rwa [hAll, List.append_nil]
    | cons entry rest ih =>
        intro done start hAll hDone hRest
        obtain ⟨added, node, hFirst, hLater⟩ := foldlM_add_cons_eq_ok_iff.1 hRest
        exact ih (done ++ [entry]) added (by simp [hAll]) (hAdd hAll hDone hFirst) hLater
  exact hRun _ [] empty rfl hEmpty h

/-! ## Well-formed graphs -/

/-- The edges stay inside the graph and none is there twice, some node is the root
unless there is none, and the index agrees with the endpoints. -/
structure WellFormed (graph : EndpointGraph) : Prop where
  edgesInside : graph.EdgesInside
  edges_nodup : graph.edges.Nodup
  root_lt : ∀ root, graph.root = some root → root < graph.size
  root_isSome : 0 < graph.size → graph.root.isSome
  indexed : graph.Indexed

/-- No node is named twice among the parents of a node. -/
theorem WellFormed.parents_nodup (hGraph : graph.WellFormed) (node : Nat) :
    (graph.parents node).Nodup := by
  refine List.Nodup.map_on ?_ (hGraph.edges_nodup.filter _)
  rintro ⟨parent, child⟩ hEdge ⟨other, otherChild⟩ hOther h
  simp only [List.mem_filter, decide_eq_true_eq] at hEdge hOther
  simp_all

/-- A node that is yet to come has no parents. -/
theorem WellFormed.parents_size (hGraph : graph.WellFormed) : graph.parents graph.size = [] := by
  refine List.eq_nil_iff_forall_not_mem.2 fun parent hParent => ?_
  exact Nat.lt_irrefl _ (hGraph.edgesInside _ (mem_parents.1 hParent)).2

theorem wellFormed_empty : empty.WellFormed where
  edgesInside := by simp [EdgesInside, empty]
  edges_nodup := by simp [empty]
  root_lt := by simp [empty]
  root_isSome := by simp [empty, size]
  indexed := indexed_empty

/-- Adding a node with a new path keeps a graph well formed. -/
theorem WellFormed.addNew (hGraph : graph.WellFormed) {endpoint : Endpoint}
    (hNew : graph.index.find? endpoint.path = none) : (graph.addNew endpoint).WellFormed where
  edgesInside := by
    intro edge hEdge
    rw [size_addNew]
    rcases mem_edges_addNew.1 hEdge with ⟨hNearest, hChild⟩ | hOld
    · have := (nearest?_eq_some hGraph.indexed hNearest).1
      omega
    · have := hGraph.edgesInside edge hOld
      omega
  edges_nodup := by
    rw [edges_addNew]
    cases hNearest : graph.nearest? endpoint.path with
    | none => simpa using hGraph.edges_nodup
    | some parent =>
      refine List.nodup_cons.2 ⟨fun hMem => ?_, hGraph.edges_nodup⟩
      exact Nat.lt_irrefl _ (hGraph.edgesInside _ hMem).2
  root_lt := by
    intro root hRoot
    rw [root_addNew, Option.or_eq_some_iff] at hRoot
    rw [size_addNew]
    rcases hRoot with hOld | ⟨-, hFirst⟩
    · have := hGraph.root_lt root hOld
      omega
    · split at hFirst
      · cases hFirst
        omega
      · cases hFirst
  root_isSome := by
    intro _
    rw [root_addNew]
    rcases Nat.eq_zero_or_pos graph.size with hEmpty | hPos
    · have hNone : graph.nearest? endpoint.path = none := by
        cases hNearest : graph.nearest? endpoint.path with
        | none => rfl
        | some parent =>
          have := (nearest?_eq_some hGraph.indexed hNearest).1
          omega
      cases graph.root <;> simp [hNone]
    · obtain ⟨root, hRoot⟩ := Option.isSome_iff_exists.1 (hGraph.root_isSome hPos)
      simp [hRoot]
  indexed := hGraph.indexed.addNew hNew

/-- An edge between two nodes keeps a graph well formed. -/
theorem WellFormed.link (hGraph : graph.WellFormed) {parent child : Nat}
    (hParent : parent < graph.size) (hChild : child < graph.size) :
    (graph.link parent child).WellFormed := by
  unfold EndpointGraph.link
  split
  case isTrue => exact hGraph
  case isFalse hNew =>
    exact
      { edgesInside := by
          intro edge hEdge
          rcases List.mem_cons.1 hEdge with rfl | hOld
          · exact ⟨hParent, hChild⟩
          · exact hGraph.edgesInside edge hOld
        edges_nodup := List.nodup_cons.2 ⟨hNew, hGraph.edges_nodup⟩
        root_lt := hGraph.root_lt
        root_isSome := hGraph.root_isSome
        indexed := hGraph.indexed }

end EndpointGraph

end CratePlan
