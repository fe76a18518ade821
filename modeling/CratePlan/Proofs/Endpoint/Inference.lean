import CratePlan.Proofs.Endpoint.Forest
import CratePlan.Proofs.Endpoint.Naming
import CratePlan.Proofs.Endpoint.PathOrder

/-!
# Where an endpoint is hung

An endpoint is hung from the longest path, among those that came before it, with which its
own path begins. It is meant to be the longest among all. Paths are sorted to that end, so
that each comes behind those that it begins with.

They are sorted as the document lists them, and an endpoint has no slash at its end. So it
matters whether the longest one comes before: it does if it is listed without a slash, or if
what follows it in the longer path is not less than a slash. Of `/a/` and `/a.b`, the second
comes first. It becomes the root, and neither hangs from the other.

## Main statements

* `Grown.mem_parents_iff`: an endpoint hangs from the nearest one among those before it.
* `InOrder.lt_iff_sortedBefore`: the order of the nodes of a document.
* `mem_parents_build_iff`: what an endpoint of a document hangs from.
* `build_hangsFromNearest_iff`: when it hangs from the nearest one of all.
* `build_hangsFromNearest_of_trimmed`: it does where no path has a slash at its end.
-/

namespace CratePlan.EndpointGraph

variable {graph next : EndpointGraph} {among : Nat → Prop} {path : String} {node parent : Nat}

/-! ## The nearest of some nodes -/

/-- Of some nodes, one has the longest path that `path` extends. -/
structure IsNearest (graph : EndpointGraph) (among : Nat → Prop) (path : String) (nearest : Nat) :
    Prop where
  mem : nearest ∈ graph.nodes
  chosen : among nearest
  extendsPath : Endpoint.extendsPath (graph.pathOf nearest) path = true
  longest : ∀ other ∈ graph.nodes, among other →
    Endpoint.extendsPath (graph.pathOf other) path = true →
      (graph.pathOf other).toList.length ≤ (graph.pathOf nearest).toList.length

/-- There is one nearest node at most. -/
theorem IsNearest.eq (hGraph : graph.WellFormed) {other : Nat}
    (h : graph.IsNearest among path node) (hOther : graph.IsNearest among path other) :
    node = other := by
  have hLength := h.longest other hOther.mem hOther.chosen hOther.extendsPath
  have hBack := hOther.longest node h.mem h.chosen h.extendsPath
  rcases Endpoint.extendsPath_or_eq h.extendsPath hOther.extendsPath hBack with hLess | hPath
  · have := Endpoint.length_lt_of_extendsPath hLess
    omega
  · exact hGraph.indexed.pathOf_inj (mem_nodes.1 h.mem) (mem_nodes.1 hOther.mem) hPath

/-- Only nodes that the path extends come into question. -/
theorem IsNearest.congr {others : Nat → Prop} (h : graph.IsNearest among path node)
    (hSame : ∀ other ∈ graph.nodes, Endpoint.extendsPath (graph.pathOf other) path = true →
      (among other ↔ others other)) : graph.IsNearest others path node where
  mem := h.mem
  chosen := (hSame node h.mem h.extendsPath).1 h.chosen
  extendsPath := h.extendsPath
  longest := fun other hOther hChosen hExtends =>
    h.longest other hOther ((hSame other hOther hExtends).2 hChosen) hExtends

/-- The node that is nearest of all is nearest of those that it is among. -/
theorem IsNearest.narrow (h : graph.IsNearest (fun _ => True) path node) (hChosen : among node) :
    graph.IsNearest among path node :=
  ⟨h.mem, hChosen, h.extendsPath, fun other hOther _ => h.longest other hOther trivial⟩

theorem IsNearest.not_free (h : graph.IsNearest among path node)
    (hFree : ∀ other ∈ graph.nodes, Endpoint.extendsPath (graph.pathOf other) path = false) :
    False := by
  have hExtends := hFree node h.mem
  rw [h.extendsPath] at hExtends
  cases hExtends

theorem isNearest_of_nearest? (hIndexed : graph.Indexed) (h : graph.nearest? path = some node) :
    graph.IsNearest (fun _ => True) path node := by
  obtain ⟨hLt, hExtends, hLongest⟩ := nearest?_eq_some hIndexed h
  exact ⟨mem_nodes.2 hLt, trivial, hExtends, fun other hOther _ =>
    hLongest other (mem_nodes.1 hOther)⟩

/-- A path that extends that of a node has a nearest one. -/
theorem exists_isNearest (hIndexed : graph.Indexed) (hNode : node ∈ graph.nodes)
    (hExtends : Endpoint.extendsPath (graph.pathOf node) path = true) :
    ∃ nearest, graph.nearest? path = some nearest ∧
      graph.IsNearest (fun _ => True) path nearest := by
  cases hNearest : graph.nearest? path with
  | none =>
      have hNone := nearest?_eq_none hIndexed hNearest node (mem_nodes.1 hNode)
      rw [hExtends] at hNone
      cases hNone
  | some nearest => exact ⟨nearest, rfl, isNearest_of_nearest? hIndexed hNearest⟩

theorem nearest?_eq_some_iff (hGraph : graph.WellFormed) :
    graph.nearest? path = some node ↔ graph.IsNearest (fun _ => True) path node := by
  refine ⟨isNearest_of_nearest? hGraph.indexed, fun h => ?_⟩
  obtain ⟨nearest, hNearest, hIs⟩ := exists_isNearest hGraph.indexed h.mem h.extendsPath
  rw [hNearest, hIs.eq hGraph h]

/-! ## The parents of a node -/

/-- An addition changes nothing for those that came before. -/
theorem isNearest_addNew_iff {endpoint : Endpoint} {limit : Nat} (hLimit : limit ≤ graph.size) :
    (graph.addNew endpoint).IsNearest (· < limit) path node ↔
      graph.IsNearest (· < limit) path node := by
  have hPath : ∀ {other}, other < limit → (graph.addNew endpoint).pathOf other =
      graph.pathOf other := fun hOther => pathOf_addNew_of_lt (Nat.lt_of_lt_of_le hOther hLimit)
  constructor
  · rintro ⟨-, hChosen, hExtends, hLongest⟩
    rw [hPath hChosen] at hExtends hLongest
    refine ⟨mem_nodes.2 (Nat.lt_of_lt_of_le hChosen hLimit), hChosen, hExtends, ?_⟩
    intro other hOther hBefore hNext
    have hMem : other ∈ (graph.addNew endpoint).nodes :=
      mem_nodes.2 (by rw [size_addNew]; exact Nat.lt_succ_of_lt (mem_nodes.1 hOther))
    have hLength := hLongest other hMem hBefore (by rwa [hPath hBefore])
    rwa [hPath hBefore] at hLength
  · rintro ⟨hMem, hChosen, hExtends, hLongest⟩
    have hAdded : node ∈ (graph.addNew endpoint).nodes :=
      mem_nodes.2 (by rw [size_addNew]; exact Nat.lt_succ_of_lt (mem_nodes.1 hMem))
    refine ⟨hAdded, hChosen, by rwa [hPath hChosen], ?_⟩
    intro other _ hBefore hNext
    rw [hPath hBefore] at hNext ⊢
    rw [hPath hChosen]
    exact hLongest other (mem_nodes.2 (Nat.lt_of_lt_of_le hBefore hLimit)) hBefore hNext

/-- All nodes are before the one that is yet to come. -/
theorem isNearest_size_iff :
    graph.IsNearest (· < graph.size) path node ↔ graph.IsNearest (fun _ => True) path node := by
  have hSame : ∀ other ∈ graph.nodes, Endpoint.extendsPath (graph.pathOf other) path = true →
      (other < graph.size ↔ True) := fun other hOther _ => iff_true_intro (mem_nodes.1 hOther)
  exact ⟨fun h => h.congr hSame, fun h => h.congr fun other hOther hExtends =>
    (hSame other hOther hExtends).symm⟩

/-- In a graph that additions lead to, a node hangs from the nearest one of those before it. -/
theorem Grown.mem_parents_iff (h : graph.Grown) :
    ∀ {node}, node ∈ graph.nodes →
      (parent ∈ graph.parents node ↔
        graph.IsNearest (· < node) (graph.pathOf node) parent) := by
  induction h with
  | empty =>
      intro node hNode
      cases hNode
  | @add graph next names path payload added hGraph hAdd ih =>
      have hWell := hGraph.reached.wellFormed
      intro node hNode
      rcases add_eq_ok hAdd with ⟨-, rfl⟩ | ⟨name, -, -, -, rfl⟩
      · exact ih hNode
      · rw [mem_nodes, size_addNew] at hNode
        rw [isNearest_addNew_iff (Nat.le_of_lt_succ hNode), parents_addNew]
        rcases Nat.lt_or_eq_of_le (Nat.le_of_lt_succ hNode) with hOld | rfl
        · rw [if_neg (Nat.ne_of_lt hOld), List.nil_append, pathOf_addNew_of_lt hOld,
            ih (mem_nodes.2 hOld)]
        · rw [if_pos rfl, hWell.parents_size, List.append_nil, Option.mem_toList,
            nearest?_eq_some_iff hWell, pathOf_addNew_size, isNearest_size_iff]

/-! ## The order of the nodes -/

/-- The graph has an endpoint for each key, and of two endpoints the first has a key that is
less than all keys of the other. -/
structure InOrder (graph : EndpointGraph) (keys : List String) : Prop where
  mem_paths_iff : ∀ path, path ∈ graph.paths ↔ ∃ key ∈ keys, path = Endpoint.trimSlash key
  exists_lt : ∀ {node other}, node < other → other < graph.size →
    ∃ key ∈ keys, Endpoint.trimSlash key = graph.pathOf node ∧
      ∀ late ∈ keys, Endpoint.trimSlash late = graph.pathOf other → key < late

theorem inOrder_empty : empty.InOrder [] where
  mem_paths_iff := by simp [paths, empty]
  exists_lt := by simp [size, empty]

namespace InOrder

variable {keys : List String}

/-- Every endpoint has a key. -/
theorem exists_key (h : graph.InOrder keys) (hNode : node < graph.size) :
    ∃ key ∈ keys, Endpoint.trimSlash key = graph.pathOf node := by
  obtain ⟨key, hKey, hPath⟩ := (h.mem_paths_iff _).1 (pathOf_mem_paths hNode)
  exact ⟨key, hKey, hPath.symm⟩

/-- Adding a path that is behind all others keeps the endpoints in order. -/
theorem add (h : graph.InOrder keys) (hIndexed : graph.Indexed) {names : SegmentNames}
    {payload : Json}
    (hAdd : graph.add names path payload = .ok (next, node)) (hLast : ∀ key ∈ keys, key < path) :
    next.InOrder (keys ++ [path]) where
  mem_paths_iff := by
    intro other
    rw [mem_paths_add hIndexed hAdd, h.mem_paths_iff]
    simp [or_and_right, exists_or]
  exists_lt := by
    intro first second hLess hSecond
    -- The first endpoint has a key that was there before the addition.
    have hEarly : ∃ key ∈ keys, Endpoint.trimSlash key = next.pathOf first ∧
        ∀ late ∈ keys, Endpoint.trimSlash late = next.pathOf second → key < late := by
      rcases add_eq_ok hAdd with ⟨-, rfl⟩ | ⟨name, -, hNew, -, rfl⟩
      · exact h.exists_lt hLess hSecond
      · rw [size_addNew] at hSecond
        rw [pathOf_addNew_of_lt (by omega)]
        rcases Nat.lt_or_eq_of_le (Nat.le_of_lt_succ hSecond) with hThere | rfl
        · rw [pathOf_addNew_of_lt hThere]
          exact h.exists_lt hLess hThere
        · obtain ⟨key, hKey, hTrim⟩ := h.exists_key hLess
          refine ⟨key, hKey, hTrim, fun late hLate hOwn => ?_⟩
          rw [pathOf_addNew_size] at hOwn
          have hKnown := (h.mem_paths_iff _).2 ⟨late, hLate, hOwn.symm⟩
          exact absurd hKnown (hIndexed.find?_eq_none_iff.1 hNew)
    obtain ⟨key, hKey, hTrim, hFirst⟩ := hEarly
    refine ⟨key, List.mem_append_left _ hKey, hTrim, fun late hLate hSame => ?_⟩
    rcases List.mem_append.1 hLate with hThere | hAdded
    · exact hFirst late hThere hSame
    · rw [List.mem_singleton.1 hAdded]
      exact hLast key hKey

/-- The endpoints of a document are in the order of its paths. -/
theorem of_build {names : SegmentNames} {paths : Table String Json}
    (h : build names paths = .ok graph) :
    graph.InOrder ((sortPaths paths).map Prod.fst) := by
  have hBuilt : graph.InOrder ((sortPaths paths).map Prod.fst) ∧ graph.Indexed := by
    refine build_induction
      (motive := fun done graph => graph.InOrder (done.map Prod.fst) ∧ graph.Indexed)
      ⟨inOrder_empty, indexed_empty⟩ ?_ h
    rintro done entry rest graph next node hAll ⟨hOrder, hIndexed⟩ hAdd
    have hSorted := sortedLT_sortPaths paths
    rw [hAll, List.map_append, List.map_cons] at hSorted
    have hLast : ∀ key ∈ done.map Prod.fst, key < entry.1 := fun key hKey =>
      (List.pairwise_append.1 hSorted).2.2 key hKey entry.1 (List.mem_cons_self ..)
    rw [List.map_append, List.map_singleton]
    exact ⟨hOrder.add hIndexed hAdd hLast, hIndexed.add hAdd⟩
  exact hBuilt.1

/-- Of two endpoints of which one extends the other, the shorter one comes first unless it
has a slash where something less follows it in the longer one. -/
theorem lt_iff_sortedBefore (h : graph.InOrder keys) {other : Nat} (hNode : node < graph.size)
    (hOther : other < graph.size)
    (hExtends : Endpoint.extendsPath (graph.pathOf node) (graph.pathOf other) = true) :
    node < other ↔ Endpoint.SortedBefore keys (graph.pathOf node) (graph.pathOf other) := by
  constructor
  · intro hLess
    by_contra hBehind
    obtain ⟨key, hKey, hTrim, hFirst⟩ := h.exists_lt hLess hOther
    obtain ⟨late, hLate, hLateTrim⟩ := h.exists_key hOther
    have hBack := Endpoint.lt_of_not_sortedBefore hBehind hExtends hKey hTrim hLateTrim
    exact lt_asymm hBack (hFirst late hLate hLateTrim)
  · intro hBefore
    by_contra hNot
    have hDifferent : node ≠ other := by
      rintro rfl
      exact Nat.lt_irrefl _ (Endpoint.length_lt_of_extendsPath hExtends)
    have hLess : other < node := by omega
    obtain ⟨early, hEarly, hTrim, hFirst⟩ :=
      Endpoint.exists_lt_of_sortedBefore hBefore hExtends (h.exists_key hNode)
    obtain ⟨key, hKey, hKeyTrim, hOtherFirst⟩ := h.exists_lt hLess hNode
    exact lt_asymm (hOtherFirst early hEarly hTrim) (hFirst key hKeyTrim)

end InOrder

/-! ## Endpoints of a document -/

variable {names : SegmentNames} {paths : Table String Json}

/-- An endpoint hangs from the nearest one among those that come before it. -/
theorem mem_parents_build_iff (h : build names paths = .ok graph) (hNode : node ∈ graph.nodes) :
    parent ∈ graph.parents node ↔
      graph.IsNearest (fun other =>
          Endpoint.SortedBefore paths.keys (graph.pathOf other) (graph.pathOf node))
        (graph.pathOf node) parent := by
  have hKeys : ∀ start path, Endpoint.SortedBefore ((sortPaths paths).map Prod.fst) start path ↔
      Endpoint.SortedBefore paths.keys start path := by
    intro start path
    rw [Endpoint.SortedBefore, ((perm_sortPaths paths).map Prod.fst).mem_iff]
    rfl
  have hSame : ∀ other ∈ graph.nodes,
      Endpoint.extendsPath (graph.pathOf other) (graph.pathOf node) = true →
        (other < node ↔
          Endpoint.SortedBefore paths.keys (graph.pathOf other) (graph.pathOf node)) := by
    intro other hOther hExtends
    rw [(InOrder.of_build h).lt_iff_sortedBefore (mem_nodes.1 hOther) (mem_nodes.1 hNode) hExtends,
      hKeys]
  rw [(Grown.of_build h).mem_parents_iff hNode]
  exact ⟨fun hNearest => hNearest.congr hSame, fun hNearest =>
    hNearest.congr fun other hOther hExtends => (hSame other hOther hExtends).symm⟩

/-- The endpoint hangs from the longest path that its own extends, and from none exactly when
there is no such path. -/
structure HangsFromNearest (graph : EndpointGraph) (node : Nat) : Prop where
  parents_eq_iff : ∀ parent, graph.parents node = [parent] ↔
    graph.IsNearest (fun _ => True) (graph.pathOf node) parent
  parents_eq_nil_iff : graph.parents node = [] ↔ ∀ other ∈ graph.nodes,
    Endpoint.extendsPath (graph.pathOf other) (graph.pathOf node) = false

/-- In a forest, a node that hangs from another one hangs from no other. -/
theorem IsForest.parents_eq_singleton_iff (hForest : graph.IsForest) :
    graph.parents node = [parent] ↔ parent ∈ graph.parents node := by
  refine ⟨fun hEq => by rw [hEq]; exact List.mem_singleton_self parent, fun hMem => ?_⟩
  have hLength := hForest.parents_length node
  have hPos := List.length_pos_of_mem hMem
  obtain ⟨other, hEq⟩ := List.length_eq_one_iff.1 (show (graph.parents node).length = 1 by omega)
  rw [hEq, List.mem_singleton] at hMem
  rw [hEq, hMem]

/-- A node whose parents are the nearest nodes of all hangs from the nearest one. -/
theorem IsForest.hangsFromNearest (hForest : graph.IsForest) (hIndexed : graph.Indexed)
    (hAll : ∀ parent, parent ∈ graph.parents node ↔
      graph.IsNearest (fun _ => True) (graph.pathOf node) parent) :
    graph.HangsFromNearest node where
  parents_eq_iff := fun parent => hForest.parents_eq_singleton_iff.trans (hAll parent)
  parents_eq_nil_iff := by
    rw [List.eq_nil_iff_forall_not_mem]
    constructor
    · intro hNone other hOther
      by_contra hExtends
      obtain ⟨nearest, -, hNearest⟩ := exists_isNearest hIndexed hOther (by simpa using hExtends)
      exact hNone nearest ((hAll nearest).2 hNearest)
    · intro hFree parent hParent
      exact ((hAll parent).1 hParent).not_free hFree

/-- An endpoint hangs from the nearest one of all if that is before it. -/
theorem hangsFromNearest_iff (h : build names paths = .ok graph) (hNode : node ∈ graph.nodes) :
    graph.HangsFromNearest node ↔
      ∀ nearest, graph.IsNearest (fun _ => True) (graph.pathOf node) nearest →
        Endpoint.SortedBefore paths.keys (graph.pathOf nearest) (graph.pathOf node) := by
  have hForest := (Grown.of_build h).isForest
  have hWell := (Grown.of_build h).reached.wellFormed
  constructor
  · intro hHangs nearest hNearest
    have hParent := hForest.parents_eq_singleton_iff.1 ((hHangs.parents_eq_iff nearest).2 hNearest)
    exact ((mem_parents_build_iff h hNode).1 hParent).chosen
  · intro hBefore
    refine hForest.hangsFromNearest hWell.indexed fun parent => ?_
    rw [mem_parents_build_iff h hNode]
    refine ⟨fun hNearest => ?_, fun hNearest => hNearest.narrow (hBefore _ hNearest)⟩
    -- The nearest node of all is among those that come before, so it is the nearest of them.
    obtain ⟨nearest, -, hFirst⟩ := exists_isNearest hWell.indexed hNearest.mem
      hNearest.extendsPath
    rwa [hNearest.eq hWell (hFirst.narrow (hBefore _ hFirst))]

/-- Where no path has a slash at its end, every endpoint hangs from the nearest one. -/
theorem build_hangsFromNearest_of_trimmed (h : build names paths = .ok graph)
    (hTrimmed : ∀ key ∈ paths.keys, Endpoint.trimSlash key = key) :
    ∀ node ∈ graph.nodes, graph.HangsFromNearest node := by
  intro node hNode
  refine (hangsFromNearest_iff h hNode).2 fun nearest hNearest => .inl ?_
  obtain ⟨key, hKey, hPath⟩ :=
    ((build_eq_ok h).2 _).1 (pathOf_mem_paths (mem_nodes.1 hNearest.mem))
  rw [hPath, hTrimmed key hKey]
  exact ⟨hKey, hTrimmed key hKey⟩

/-- An endpoint of a document hangs from the nearest one of all exactly when that comes before
it. The root hangs from none, which is right exactly when its path extends no other. -/
theorem build_hangsFromNearest_iff (h : build names paths = .ok graph)
    (hNode : node ∈ graph.nodes) :
    (graph.HangsFromNearest node ↔
      ∀ nearest, graph.IsNearest (fun _ => True) (graph.pathOf node) nearest →
        Endpoint.SortedBefore paths.keys (graph.pathOf nearest) (graph.pathOf node)) ∧
    (graph.root = some node →
      (graph.HangsFromNearest node ↔ ∀ other ∈ graph.nodes,
        Endpoint.extendsPath (graph.pathOf other) (graph.pathOf node) = false)) := by
  refine ⟨hangsFromNearest_iff h hNode, fun hRoot => ?_⟩
  have hNone := (Grown.of_build h).isForest.parents_root node hRoot
  refine ⟨fun hHangs => hHangs.parents_eq_nil_iff.1 hNone, fun hFree => ?_⟩
  exact (hangsFromNearest_iff h hNode).2 fun nearest hNearest => (hNearest.not_free hFree).elim

/-- The graph of two endpoints, of which the document lists the first with a slash. -/
def slashedFirst : EndpointGraph :=
  ⟨[⟨"/a", "a", .null⟩, ⟨"/a/b", "b", .null⟩], [(0, 1)],
    .ofList [("/a", 0), ("/a/b", 1)], some 0⟩

theorem build_slashedFirst :
    build .smallLetters (Table.ofList [("/a/b", .null), ("/a/", .null)]) = .ok slashedFirst := by
  cbv

/-- The slash makes no difference where the longer path goes on with one. -/
theorem slashedFirst_hangsFromNearest :
    slashedFirst.HangsFromNearest 0 ∧ slashedFirst.HangsFromNearest 1 ∧
      slashedFirst.parents 1 = [0] := by
  have hNodes : 0 ∈ slashedFirst.nodes ∧ 1 ∈ slashedFirst.nodes := by decide
  have hFirst := (build_hangsFromNearest_iff build_slashedFirst hNodes.1).2 rfl
  have hSecond := (build_hangsFromNearest_iff build_slashedFirst hNodes.2).1
  have hBefore : ∀ nearest ∈ slashedFirst.nodes,
      Endpoint.extendsPath (slashedFirst.pathOf nearest) (slashedFirst.pathOf 1) = true →
        Endpoint.SortedBefore ["/a/b", "/a/"] (slashedFirst.pathOf nearest)
          (slashedFirst.pathOf 1) := by decide
  exact ⟨hFirst.2 (by decide), hSecond.2 fun nearest hNearest =>
    hBefore nearest hNearest.mem hNearest.extendsPath, by decide⟩

/-- The graph of two endpoints of which the second comes first. -/
def slashedBehind : EndpointGraph :=
  ⟨[⟨"/a.b", "a", .null⟩, ⟨"/a", "a", .null⟩], [], .ofList [("/a.b", 0), ("/a", 1)],
    some 0⟩

theorem build_slashedBehind :
    build .smallLetters (Table.ofList [("/a/", .null), ("/a.b", .null)]) = .ok slashedBehind := by
  cbv

/-- Not every endpoint of a document hangs from the nearest one: the root may extend another. -/
theorem not_all_hangsFromNearest :
    ¬∀ (names : SegmentNames) (paths : Table String Json) (graph : EndpointGraph),
      build names paths = .ok graph → ∀ node ∈ graph.nodes, graph.HangsFromNearest node := by
  intro hAll
  have hHangs := hAll _ _ _ build_slashedBehind 0 (by decide)
  have hFree := hHangs.parents_eq_nil_iff.1 (by decide) 1 (by decide)
  revert hFree
  decide

end CratePlan.EndpointGraph
