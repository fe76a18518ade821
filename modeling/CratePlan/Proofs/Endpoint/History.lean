import CratePlan.Proofs.Endpoint.Forest
import CratePlan.Proofs.Endpoint.Naming

/-!
# What a graph remembers of its additions

A graph is changed in place by calls: additions, edges set by hand and normalizations. All
that it answers about paths is settled by the additions that succeeded, each path by the first
of them that had it. Edges set by hand and normalizations take no part in it, and neither do
additions that are refused.

An addition changes the graph in several steps and may be refused. `addInPlace` writes the
steps down one by one, so that a refusal after the first of them would show. There is none:
`run_addInPlace` says that it does what `add` says. The index is written last, behind the
endpoint, the edge and the root, and is what the next addition looks at first.

`Records` is what holds between a graph and the additions so far: what its index finds, what
its endpoints hold, and which of them is the root. It is kept by each call.

## Main statements

* `run_addInPlace`: an addition in place, step by step.
* `Records.addNew`, `Records.again`: an addition is recorded, of a new path and of a known one.
* `History.records`: after each call the graph records the additions so far.
* `History.remembers`: what a graph answers after a row of calls.
-/

namespace CratePlan.EndpointGraph

variable {graph next : EndpointGraph} {names : SegmentNames} {path : String} {payload : Json}
  {node : Nat}

/-! ## Additions in place -/

/-- Add the endpoint of a path to the graph in hand, and say which node it is. -/
def addInPlace (names : SegmentNames) (path : String) (payload : Json) :
    ExceptT PlanError (StateM EndpointGraph) Nat := do
  let known ← get
  match known.node? path with
  | some node => return node
  | none =>
    let path := Endpoint.trimSlash path
    match names.endpointName path with
    | .error error => throw error
    | .ok name =>
      let node := known.size
      modify fun graph => { graph with endpoints := graph.endpoints ++ [⟨path, name, payload⟩] }
      let grown ← get
      match grown.nearest? path with
      | some parent => modify fun graph => { graph with edges := (parent, node) :: graph.edges }
      | none =>
        if grown.root = none then
          modify fun graph => { graph with root := some node }
      modify fun graph => { graph with index := graph.index.insert path node }
      return node

private theorem run_get (graph : EndpointGraph) :
    StateT.run (ExceptT.run (get : ExceptT PlanError (StateM EndpointGraph) EndpointGraph)) graph =
      pure (.ok graph, graph) := rfl

private theorem run_modify (change : EndpointGraph → EndpointGraph) (graph : EndpointGraph) :
    StateT.run (ExceptT.run (modify change : ExceptT PlanError (StateM EndpointGraph) PUnit))
      graph = pure (.ok ⟨⟩, change graph) := rfl

/-- The nearest node is looked up in the index, which does not know a new endpoint yet. -/
private theorem nearest?_mk (graph : EndpointGraph) (endpoints : List Endpoint)
    (edges : List (Nat × Nat)) (root : Option Nat) (path : String) :
    nearest? ⟨endpoints, edges, graph.index, root⟩ path = graph.nearest? path := rfl

/-- An addition in place leaves the graph that `add` gives, or the graph as it was. -/
theorem run_addInPlace (graph : EndpointGraph) (names : SegmentNames) (path : String)
    (payload : Json) :
    StateT.run (ExceptT.run (addInPlace names path payload)) graph =
      match graph.add names path payload with
      | .ok (next, node) => (.ok node, next)
      | .error error => (.error error, graph) := by
  unfold EndpointGraph.add
  cases hKnown : graph.node? path with
  | some node =>
      simp only [addInPlace, hKnown, ExceptT.run_bind, StateT.run_bind, run_get, pure_bind]
      rfl
  | none =>
      cases hName : names.endpointName (Endpoint.trimSlash path) with
      | error error =>
          simp only [addInPlace, hKnown, hName, ExceptT.run_bind, StateT.run_bind, run_get,
            pure_bind]
          rfl
      | ok name =>
          cases hNearest : graph.nearest? (Endpoint.trimSlash path) with
          | some parent =>
              simp [addInPlace, addNew, hKnown, hName, hNearest, run_get, run_modify,
                nearest?_mk]
              rfl
          | none =>
              cases hRoot : graph.root <;>
                simp [addInPlace, addNew, hKnown, hName, hNearest, hRoot, run_get, run_modify,
                  nearest?_mk] <;>
                rfl

/-! ## Calls -/

/-- What can be asked of a graph. -/
inductive Call where
  | add (names : SegmentNames) (path : String) (payload : Json)
  | link (parent child : Nat)
  | normalize

/-- What a graph answers to a call. -/
inductive Answer where
  | node (node : Nat)
  | refused (error : PlanError)
  | linked
  | checked (outcome : Except TreeFault Unit)

/-- What a call answers, and the graph afterwards. -/
def Call.perform (graph : EndpointGraph) : Call → Answer × EndpointGraph
  | add names path payload =>
    match StateT.run (ExceptT.run (addInPlace names path payload)) graph with
    | (.ok node, next) => (.node node, next)
    | (.error error, next) => (.refused error, next)
  | link parent child => (.linked, graph.link parent child)
  | normalize => (.checked graph.normalize.2, graph.normalize.1)

/-- The nodes that a call names are nodes of the graph. -/
def Call.Inside (graph : EndpointGraph) : Call → Prop
  | add .. => True
  | link parent child => parent ∈ graph.nodes ∧ child ∈ graph.nodes
  | normalize => True

/-- The calls that a graph has come by, with their answers. -/
inductive History : List (Call × Answer) → EndpointGraph → Prop where
  | new : History [] empty
  | call {history : List (Call × Answer)} {graph : EndpointGraph} {call : Call}
      (hHistory : History history graph) (hInside : call.Inside graph) :
      History (history ++ [(call, (call.perform graph).1)]) (call.perform graph).2

theorem History.step {history : List (Call × Answer)} (h : History history graph) {call : Call}
    {answer : Answer} (hInside : call.Inside graph)
    (hPerform : call.perform graph = (answer, next)) :
    History (history ++ [(call, answer)]) next := by
  simpa [hPerform] using h.call hInside

/-- An addition that succeeded: its path without the slash at the end, and its answer. -/
structure Addition where
  names : SegmentNames
  path : String
  payload : Json
  node : Nat

/-- The addition that a call was, if it was one and succeeded. -/
def addition? : Call × Answer → Option Addition
  | (.add names path payload, .node node) => some ⟨names, Endpoint.trimSlash path, payload, node⟩
  | _ => none

/-- The additions of a row of calls that succeeded, in their order. -/
def additions (history : List (Call × Answer)) : List Addition :=
  history.filterMap addition?

/-- An edge set by hand changes the edges only. -/
theorem exists_link_eq (graph : EndpointGraph) (parent child : Nat) :
    ∃ edges, graph.link parent child = { graph with edges := edges } := by
  unfold link
  split
  · exact ⟨graph.edges, rfl⟩
  · exact ⟨_, rfl⟩

/-- An addition does what `add` does, or its path is new and its last segment has no name, and
it is refused. -/
theorem perform_add_cases (graph : EndpointGraph) (names : SegmentNames) (path : String)
    (payload : Json) :
    (∃ next node, graph.add names path payload = .ok (next, node) ∧
      (Call.add names path payload).perform graph = (.node node, next)) ∨
    ∃ error, graph.node? path = none ∧
      names.endpointName (Endpoint.trimSlash path) = .error error ∧
      (Call.add names path payload).perform graph = (.refused error, graph) := by
  rw [Call.perform, run_addInPlace]
  cases hAdd : graph.add names path payload with
  | ok result => exact .inl ⟨result.1, result.2, rfl, rfl⟩
  | error error =>
      refine .inr ⟨error, ?_⟩
      unfold EndpointGraph.add at hAdd
      split at hAdd
      case h_1 => cases hAdd
      case h_2 hNew =>
          rcases Outcome.bind_eq_error_iff.1 hAdd with hName | ⟨name, -, hPure⟩
          · exact ⟨hNew, hName, rfl⟩
          · cases hPure

/-- An addition is refused exactly when its path is new and the last segment has no name, and
then the graph stays as it was. -/
theorem perform_add_eq_refused_iff {error : PlanError} :
    (Call.add names path payload).perform graph = (.refused error, next) ↔
      graph.node? path = none ∧ names.endpointName (Endpoint.trimSlash path) = .error error ∧
        next = graph := by
  rcases perform_add_cases graph names path payload with
    ⟨after, node, hAdd, hPerform⟩ | ⟨fault, hNew, hName, hPerform⟩
  · rw [hPerform]
    refine iff_of_false (by simp) ?_
    rintro ⟨hNew, hName, -⟩
    rcases add_eq_ok hAdd with ⟨hKnown, -⟩ | ⟨name, hNamed, -⟩
    · rw [hNew] at hKnown
      cases hKnown
    · rw [hName] at hNamed
      cases hNamed
  · simp [hPerform, hNew, hName, eq_comm]

/-- Every graph with a history can come up. -/
theorem History.reached {history : List (Call × Answer)} (h : History history graph) :
    graph.Reached := by
  induction h with
  | new => exact .empty
  | @call history graph call _ hInside ih =>
      cases call with
      | add names path payload =>
          rcases perform_add_cases graph names path payload with
            ⟨next, node, hAdd, hPerform⟩ | ⟨error, -, -, hPerform⟩
          · rw [hPerform]
            exact ih.add hAdd
          · rwa [hPerform]
      | link parent child => exact ih.link hInside.1 hInside.2
      | normalize => exact ih.normalize

/-! ## Records -/

/-- What holds between a graph and the additions that it has come by. -/
structure Records (graph : EndpointGraph) (additions : List Addition) : Prop where
  index_find? : ∀ path, graph.index.find? path =
    (additions.find? fun addition => addition.path = path).map Addition.node
  pathOf_node : ∀ addition ∈ additions,
    addition.node < graph.size ∧ graph.pathOf addition.node = addition.path
  first : ∀ path addition, (additions.find? fun addition => addition.path = path) = some addition →
    ∃ name, addition.names.endpointName path = .ok name ∧
      graph.endpoint? addition.node = some ⟨path, name, addition.payload⟩
  root_eq : graph.root = additions.head?.map Addition.node

/-- Another addition of a path that was added before is the first of none. -/
theorem find?_concat_of_mem {known : List Addition} {earlier : Addition}
    (hEarlier : earlier ∈ known) (last : Addition) (hSame : earlier.path = last.path)
    (path : String) :
    ((known ++ [last]).find? fun addition => addition.path = path) =
      known.find? fun addition => addition.path = path := by
  rw [List.find?_append]
  cases hFirst : known.find? fun addition => addition.path = path with
  | some first => rfl
  | none =>
      have hOther := List.find?_eq_none.1 hFirst earlier hEarlier
      rw [Option.none_or, List.find?_singleton, if_neg]
      rwa [← hSame]

/-- The first addition of a path that is new is the first of this path and of no other. -/
theorem find?_concat_of_new {known : List Addition} (last : Addition)
    (hNew : (known.find? fun addition => addition.path = last.path) = none) (path : String) :
    ((known ++ [last]).find? fun addition => addition.path = path) =
      if path = last.path then some last
      else known.find? fun addition => addition.path = path := by
  rw [List.find?_append]
  by_cases hPath : path = last.path
  · subst hPath
    simp [hNew]
  · simp [hPath, Ne.symm hPath]

theorem records_empty : empty.Records [] where
  index_find? := by simp [empty]
  pathOf_node := by simp
  first := by simp
  root_eq := rfl

namespace Records

variable {known : List Addition}

/-- Calls that change nothing but edges are not recorded. -/
theorem withEdges (h : graph.Records known) (edges : List (Nat × Nat)) :
    Records { graph with edges := edges } known :=
  ⟨h.index_find?, h.pathOf_node, h.first, h.root_eq⟩

/-- What the index finds was added. -/
theorem exists_mem (h : graph.Records known) (hFound : graph.index.find? path = some node) :
    ∃ earlier ∈ known, earlier.path = path := by
  rw [h.index_find?, Option.map_eq_some_iff] at hFound
  obtain ⟨earlier, hFirst, -⟩ := hFound
  exact ⟨earlier, List.mem_of_find?_eq_some hFirst, by simpa using List.find?_some hFirst⟩

/-- A path that is known is answered once more, and its first addition stays the first. -/
theorem again (h : graph.Records known) (hIndexed : graph.Indexed)
    (hNode : graph.node? path = some node) :
    graph.Records (known ++ [⟨names, Endpoint.trimSlash path, payload, node⟩]) := by
  obtain ⟨earlier, hEarlier, hSame⟩ := h.exists_mem hNode
  have hFirst :=
    find?_concat_of_mem hEarlier ⟨names, Endpoint.trimSlash path, payload, node⟩ hSame
  exact
    { index_find? := by simpa only [hFirst] using h.index_find?
      pathOf_node := by
        simp only [List.forall_mem_append, List.forall_mem_singleton]
        exact ⟨h.pathOf_node, hIndexed.node?_eq_some_iff.1 hNode⟩
      first := by simpa only [hFirst] using h.first
      root_eq := by rw [List.head?_append_of_ne_nil _ (List.ne_nil_of_mem hEarlier), h.root_eq] }

/-- A new path is recorded with its node. -/
theorem addNew (h : graph.Records known) (hIndexed : graph.Indexed)
    (hNew : graph.index.find? path = none) {name : String}
    (hName : names.endpointName path = .ok name) :
    (graph.addNew ⟨path, name, payload⟩).Records
      (known ++ [⟨names, path, payload, graph.size⟩]) := by
  have hUnknown : (known.find? fun addition => addition.path = path) = none := by
    simpa [h.index_find?] using hNew
  have hFirst := find?_concat_of_new ⟨names, path, payload, graph.size⟩ hUnknown
  exact
    { index_find? := by
        intro other
        rw [index_addNew, Table.find?_insert, hFirst, h.index_find?]
        split <;> rfl
      pathOf_node := by
        simp only [List.forall_mem_append, List.forall_mem_singleton, size_addNew,
          pathOf_addNew_size]
        refine ⟨fun addition hAddition => ?_, Nat.lt_succ_self _, trivial⟩
        obtain ⟨hInside, hPath⟩ := h.pathOf_node addition hAddition
        exact ⟨Nat.lt_succ_of_lt hInside, by rw [pathOf_addNew_of_lt hInside, hPath]⟩
      first := by
        intro other addition hFound
        rw [hFirst] at hFound
        split at hFound
        case isTrue hOwn =>
            cases hFound
            exact ⟨name, hOwn ▸ hName, by simp [endpoint?, size, hOwn]⟩
        case isFalse =>
            obtain ⟨found, hCalled, hEndpoint⟩ := h.first other addition hFound
            refine ⟨found, hCalled, ?_⟩
            obtain ⟨hInside, -⟩ := List.getElem?_eq_some_iff.1 hEndpoint
            rw [endpoint?, endpoints_addNew, List.getElem?_append_left hInside]
            exact hEndpoint
      root_eq := by
        rw [root_addNew, h.root_eq]
        cases known with
        | cons earlier later => rfl
        | nil =>
            have hNearest : graph.nearest? path = none := by
              cases hNearest : graph.nearest? path with
              | none => rfl
              | some parent =>
                  obtain ⟨hInside, -⟩ := nearest?_eq_some hIndexed hNearest
                  obtain ⟨_, hMem, -⟩ := h.exists_mem ((hIndexed _ parent).2 ⟨hInside, rfl⟩)
                  cases hMem
            simp [hNearest] }

/-- The endpoints have the paths that were added. -/
theorem mem_paths_iff (h : graph.Records known) (hIndexed : graph.Indexed) :
    path ∈ graph.paths ↔ path ∈ known.map Addition.path := by
  rw [← not_iff_not, ← hIndexed.find?_eq_none_iff, h.index_find?]
  simp

/-- Additions answer with one node exactly when they are of one path. -/
theorem node_eq_iff (h : graph.Records known) (hIndexed : graph.Indexed)
    {addition other : Addition} (hAddition : addition ∈ known) (hOther : other ∈ known) :
    addition.node = other.node ↔ addition.path = other.path := by
  obtain ⟨hInside, hPath⟩ := h.pathOf_node addition hAddition
  obtain ⟨hOtherInside, hOtherPath⟩ := h.pathOf_node other hOther
  rw [← hPath, ← hOtherPath]
  exact ⟨congrArg graph.pathOf, hIndexed.pathOf_inj hInside hOtherInside⟩

/-- There are as many nodes as paths were added. -/
theorem size_eq (h : graph.Records known) (hIndexed : graph.Indexed) :
    graph.size = (known.map Addition.path).toFinset.card := by
  have hPaths : (known.map Addition.path).toFinset = graph.paths.toFinset := by
    ext path
    rw [List.mem_toFinset, List.mem_toFinset, h.mem_paths_iff hIndexed]
  rw [hPaths, List.toFinset_card_of_nodup hIndexed.paths_nodup, paths, List.length_map, size]

end Records

theorem additions_concat (history : List (Call × Answer)) (entry : Call × Answer) :
    additions (history ++ [entry]) = additions history ++ (addition? entry).toList := by
  rw [additions, List.filterMap_append]
  cases hEntry : addition? entry <;> simp [additions, hEntry]

/-- A graph records the additions that it has come by. -/
theorem History.records {history : List (Call × Answer)} (h : History history graph) :
    graph.Records (additions history) := by
  induction h with
  | new => exact records_empty
  | @call history graph call hHistory _ ih =>
      have hIndexed := hHistory.reached.wellFormed.indexed
      rw [additions_concat]
      cases call with
      | add names path payload =>
          rcases perform_add_cases graph names path payload with
            ⟨next, node, hAdd, hPerform⟩ | ⟨error, -, -, hPerform⟩
          · rw [hPerform]
            rcases add_eq_ok hAdd with ⟨hKnown, rfl⟩ | ⟨name, hName, hNew, rfl, rfl⟩
            · exact ih.again hIndexed hKnown
            · exact ih.addNew hIndexed hNew hName
          · rw [hPerform]
            simpa [addition?] using ih
      | link parent child =>
          obtain ⟨edges, hLinked⟩ := graph.exists_link_eq parent child
          rw [Call.perform, hLinked]
          simpa [addition?] using ih.withEdges edges
      | normalize =>
          obtain ⟨edges, hSettled⟩ := graph.exists_settle_eq
          rw [Call.perform, normalize, hSettled]
          simpa [addition?] using ih.withEdges edges

/-- What a graph answers after a row of calls. A path has the node that its first successful
addition answered, and the endpoint there has the path, the name and the payload of that
addition. Additions answer with one node exactly when they are of one path, there are as many
nodes as paths, the first addition made the root, and no edge is there twice. The index leads
from the path of each endpoint to its node and knows no other path. An addition is refused
exactly when its path is new and its last segment has no name, and it leaves the endpoints, the
edges, the index and the root as they were. -/
theorem History.remembers {history : List (Call × Answer)} (h : History history graph) :
    (∀ path, graph.node? path =
      ((additions history).find? fun addition =>
        addition.path = Endpoint.trimSlash path).map Addition.node) ∧
    (∀ path addition,
      ((additions history).find? fun addition => addition.path = path) = some addition →
        ∃ name, addition.names.endpointName path = .ok name ∧
          graph.endpoint? addition.node = some ⟨path, name, addition.payload⟩) ∧
    (∀ addition ∈ additions history, ∀ other ∈ additions history,
      addition.node = other.node ↔ addition.path = other.path) ∧
    graph.size = ((additions history).map Addition.path).toFinset.card ∧
    graph.root = (additions history).head?.map Addition.node ∧
    graph.edges.Nodup ∧ graph.Indexed ∧
    ∀ names path payload error next,
      (Call.add names path payload).perform graph = (.refused error, next) ↔
        graph.node? path = none ∧ names.endpointName (Endpoint.trimSlash path) = .error error ∧
          next = graph := by
  have hRecords := h.records
  have hGraph := h.reached.wellFormed
  have hIndexed := hGraph.indexed
  refine ⟨fun path => hRecords.index_find? _, hRecords.first, fun addition hAddition other hOther =>
    hRecords.node_eq_iff hIndexed hAddition hOther, hRecords.size_eq hIndexed, hRecords.root_eq,
    hGraph.edges_nodup, hIndexed, fun names path payload error next => ?_⟩
  exact perform_add_eq_refused_iff

/-- Additions of two endpoints, of which the first is added again with another payload and by
names that know nothing, with a refusal between them and an edge that closes a circle. -/
def twoOfFour : List (Call × Answer) :=
  [(.add .smallLetters "/a/" (.bool true), .node 0),
    (.add .smallLetters "/1" .null, .refused (.unnamedSegment "1" "/1")),
    (.add ⟨[]⟩ "/a" .null, .node 0),
    (.add .smallLetters "/a/b" .null, .node 1),
    (.link 1 0, .linked),
    (.normalize, .checked (.error (.multiplePaths "/a")))]

/-- The graph of the first of them. -/
def oneTop : EndpointGraph :=
  ⟨[⟨"/a", "a", .bool true⟩], [], .ofList [("/a", 0)], some 0⟩

/-- The graph of both, with the edge that closes the circle. -/
def circle : EndpointGraph :=
  ⟨[⟨"/a", "a", .bool true⟩, ⟨"/a/b", "b", .null⟩], [(1, 0), (0, 1)],
    .ofList [("/a", 0), ("/a/b", 1)], some 0⟩

theorem history_twoOfFour : History twoOfFour circle := by
  have hAdded : History [(.add .smallLetters "/a/" (.bool true), .node 0)] oneTop :=
    History.new.step trivial (by cbv)
  have hRefused : History (_ ++ [(Call.add .smallLetters "/1" .null,
      Answer.refused (.unnamedSegment "1" "/1"))]) oneTop := hAdded.step trivial (by cbv)
  have hAgain : History (_ ++ [(Call.add ⟨[]⟩ "/a" .null, Answer.node 0)]) oneTop :=
    hRefused.step trivial (by cbv)
  have hBelow : History (_ ++ [(Call.add .smallLetters "/a/b" .null, Answer.node 1)])
      { circle with edges := [(0, 1)] } := hAgain.step trivial (by cbv)
  have hLinked : History (_ ++ [(Call.link 1 0, Answer.linked)]) circle :=
    hBelow.step (show 1 ∈ List.range 2 ∧ 0 ∈ List.range 2 by decide) (by cbv)
  exact hLinked.step trivial (by cbv)

/-- The first endpoint keeps the payload of its first addition and is the root, and there are
two nodes for four additions. The refused path is not in the index, and it is refused again. -/
theorem twoOfFour_remembered :
    ∃ graph, History twoOfFour graph ∧ graph.node? "/a/" = some 0 ∧
      graph.endpoint? 0 = some ⟨"/a", "a", .bool true⟩ ∧ graph.node? "/1" = none ∧
      graph.size = 2 ∧ graph.root = some 0 ∧ graph.edges.Nodup ∧
      graph.index.find? "/a/b" = some 1 ∧
      (Call.add .smallLetters "/1" .null).perform graph =
        (.refused (.unnamedSegment "1" "/1"), graph) := by
  obtain ⟨hNode, hFirst, -, hSize, hRoot, hEdges, hIndexed, hRefused⟩ :=
    history_twoOfFour.remembers
  have hAdditions : additions twoOfFour = [⟨.smallLetters, "/a", .bool true, 0⟩,
      ⟨⟨[]⟩, "/a", .null, 0⟩, ⟨.smallLetters, "/a/b", .null, 1⟩] := by cbv
  rw [hAdditions] at hNode hFirst hSize hRoot
  obtain ⟨name, hName, hEndpoint⟩ := hFirst "/a" _ (by rfl)
  have hCalled : SegmentNames.smallLetters.endpointName "/a" = .ok "a" := by cbv
  obtain rfl : "a" = name := by simpa [hCalled] using hName
  have hUnknown : circle.node? "/1" = none := by
    rw [hNode]
    decide
  refine ⟨circle, history_twoOfFour, ?_, hEndpoint, hUnknown, ?_, hRoot, hEdges,
    (hIndexed _ _).2 (by decide), (hRefused _ _ _ _ _).2 ⟨hUnknown, by cbv, rfl⟩⟩
  · rw [hNode]
    decide
  · rw [hSize]
    decide

end CratePlan.EndpointGraph
