import CratePlan.Proofs.Endpoint.Settling
import Mathlib

/-!
# Walks and paths

A walk is a list of nodes that edges lead through, and it may come to a node again. The
path to a node is looked for among the walks from the root that come to no node twice, and
the search stops as soon as it has two. In a tree there are no other walks. In a graph
with cycles there are, and an edge that closes a cycle is on none of the simple ones.

The search goes back from the end and carries the nodes that it may still use, so what it
finds is told for every bound and every such list: simple walks only, none of them twice,
and each of them unless there are two already. So it finds one alone exactly when there is
no other.

A walk in breadth comes to every node by a simple walk through nodes that it has listed
before. Where simple walks are determined by their ends, this one is the path, and so a
walk in breadth lists a path in its order.

## Main statements

* `simpleWalk_of_mem_pathsWithin`, `SimpleWalk.mem_pathsWithin`: what the search finds.
* `pathFromRoot_eq_ok_iff`: the path to a node is the only simple walk to it.
* `exists_simpleWalk_before`: the walk by which a walk in breadth comes to a node.
* `IsOnlyWalk.not_mem_of_before`: a walk in breadth lists a path in its order.
-/

namespace CratePlan.EndpointGraph

variable {graph : EndpointGraph} {root start node : Nat} {walk : List Nat}

/-- A walk along edges from `start` to a node, as the list of the nodes it comes to.
It may come to a node again. -/
inductive Walk (graph : EndpointGraph) (start : Nat) : List Nat → Nat → Prop where
  | here : Walk graph start [start] start
  | step {walk : List Nat} {parent child : Nat} (hWalk : Walk graph start walk parent)
      (hEdge : (parent, child) ∈ graph.edges) : Walk graph start (walk ++ [child]) child

/-! ## Walks -/

namespace Walk

theorem leads (h : graph.Walk start walk node) : graph.Leads start node := by
  induction h with
  | here => exact .refl
  | step _ hEdge ih => exact ih.tail hEdge

theorem of_leads (h : graph.Leads start node) : ∃ walk, graph.Walk start walk node := by
  induction h with
  | refl => exact ⟨[start], .here⟩
  | tail _ hEdge ih =>
      obtain ⟨walk, hWalk⟩ := ih
      exact ⟨_, hWalk.step hEdge⟩

theorem head? (h : graph.Walk start walk node) : walk.head? = some start := by
  induction h with
  | here => rfl
  | step hWalk _ ih => simp [List.head?_append, ih]

theorem getLast? (h : graph.Walk start walk node) : walk.getLast? = some node := by
  cases h with
  | here => rfl
  | step => simp

theorem ne_nil (h : graph.Walk start walk node) : walk ≠ [] := by
  intro hNil
  simpa [hNil] using h.head?

/-- A walk that comes to a node goes there first. -/
theorem upTo (h : graph.Walk start walk node) {middle : Nat} (hMiddle : middle ∈ walk) :
    ∃ before after, walk = before ++ after ∧ graph.Walk start before middle := by
  induction h with
  | here =>
      rw [List.mem_singleton] at hMiddle
      subst hMiddle
      exact ⟨[middle], [], rfl, .here⟩
  | @step walk parent child hWalk hEdge ih =>
      rcases List.mem_append.1 hMiddle with hOld | hLast
      · obtain ⟨before, after, rfl, hBefore⟩ := ih hOld
        exact ⟨before, after ++ [child], by simp, hBefore⟩
      · rw [List.mem_singleton] at hLast
        subst hLast
        exact ⟨walk ++ [middle], [], by simp, hWalk.step hEdge⟩

theorem inside (hGraph : graph.WellFormed) (hStart : start < graph.size)
    (h : graph.Walk start walk node) : ∀ middle ∈ walk, middle < graph.size := by
  intro middle hMiddle
  obtain ⟨before, -, -, hBefore⟩ := h.upTo hMiddle
  exact hBefore.leads.inside hGraph.edgesInside hStart

end Walk

/-! ## Simple walks -/

/-- A walk that comes to no node twice. -/
structure SimpleWalk (graph : EndpointGraph) (start : Nat) (walk : List Nat) (node : Nat) :
    Prop where
  isWalk : graph.Walk start walk node
  nodup : walk.Nodup

/-- A simple walk that is determined by its ends. -/
structure IsOnlyWalk (graph : EndpointGraph) (start : Nat) (walk : List Nat) (node : Nat) : Prop
    extends graph.SimpleWalk start walk node where
  unique : ∀ other, graph.SimpleWalk start other node → other = walk

namespace SimpleWalk

theorem here (graph : EndpointGraph) (start : Nat) : graph.SimpleWalk start [start] start :=
  ⟨.here, List.nodup_singleton start⟩

/-- A simple walk goes on to every node that it has not been to. -/
theorem step {child : Nat} (h : graph.SimpleWalk start walk node)
    (hEdge : (node, child) ∈ graph.edges) (hNew : child ∉ walk) :
    graph.SimpleWalk start (walk ++ [child]) child :=
  ⟨h.isWalk.step hEdge, List.concat_eq_append ▸ (List.nodup_concat walk child).2 ⟨hNew, h.nodup⟩⟩

/-- A simple walk has not been to its end before. -/
theorem end_not_mem (h : graph.SimpleWalk start walk node) : node ∉ walk.dropLast := by
  have hSplit := h.nodup
  rw [← List.dropLast_append_getLast? node h.isWalk.getLast?, ← List.concat_eq_append,
    List.nodup_concat] at hSplit
  exact hSplit.1

theorem length_le (hGraph : graph.WellFormed) (hStart : start < graph.size)
    (h : graph.SimpleWalk start walk node) : walk.length ≤ graph.size := by
  have hSubset : walk ⊆ graph.nodes := fun middle hMiddle =>
    mem_nodes.2 (h.isWalk.inside hGraph hStart middle hMiddle)
  simpa [nodes] using (List.subperm_of_subset h.nodup hSubset).length_le

end SimpleWalk

namespace IsOnlyWalk

/-- The only simple walk that ends where it starts is the one that stays there. -/
theorem here (graph : EndpointGraph) (start : Nat) : graph.IsOnlyWalk start [start] start where
  toSimpleWalk := .here graph start
  unique := by
    rintro other ⟨hWalk, hNodup⟩
    cases hWalk with
    | here => rfl
    | step hBefore _ =>
        rw [← List.concat_eq_append, List.nodup_concat] at hNodup
        exact absurd (List.mem_of_head? hBefore.head?) hNodup.1

/-- An edge to a node that a path has not been to continues the path. -/
theorem eq_concat {other : List Nat} {child : Nat} (h : graph.IsOnlyWalk start walk node)
    (hOther : graph.IsOnlyWalk start other child) (hEdge : (node, child) ∈ graph.edges)
    (hNew : child ∉ walk) : other = walk ++ [child] :=
  (hOther.unique _ (h.toSimpleWalk.step hEdge hNew)).symm

end IsOnlyWalk

/-! ## Gathering two items -/

section Gather

variable {α β : Type} {pieces : α → List β} {items : List α}

theorem eq_singleton_of_nodup {item : α} (hNodup : items.Nodup) (hMem : item ∈ items)
    (hAll : ∀ other ∈ items, other = item) : items = [item] := by
  have hReplicate := List.eq_replicate_of_mem hAll
  have hPos := List.length_pos_of_mem hMem
  rw [hReplicate, List.nodup_replicate] at hNodup
  rw [hReplicate, show items.length = 1 by omega, List.replicate_one]

/-- The items of some pieces, one piece after the other, until there are two. -/
def gather (pieces : α → List β) (items : List α) (found : List β) : List β :=
  items.foldl (fun found item => if 2 ≤ found.length then found else found ++ pieces item) found

/-- What is gathered comes from the pieces, in their order. -/
theorem gather_sublist :
    ∀ {found : List β}, (gather pieces items found).Sublist (found ++ items.flatMap pieces) := by
  induction items with
  | nil => simp [gather]
  | cons first rest ih =>
      intro found
      rw [gather, List.foldl_cons, List.flatMap_cons]
      refine List.Sublist.trans ih ?_
      split
      case isTrue =>
        exact (List.Sublist.refl found).append (List.sublist_append_right (pieces first) _)
      case isFalse => rw [List.append_assoc]

/-- What has been found stays. -/
theorem sublist_gather : ∀ {found : List β}, found.Sublist (gather pieces items found) := by
  induction items with
  | nil => exact fun {found} => .refl found
  | cons first rest ih =>
      intro found
      rw [gather, List.foldl_cons]
      refine List.Sublist.trans ?_ ih
      split
      case isTrue => exact .refl found
      case isFalse => exact List.sublist_append_left found (pieces first)

/-- A piece is gathered, unless there are two items without it. -/
theorem piece_sublist_gather {item : α} :
    ∀ {found : List β}, item ∈ items → 2 ≤ (gather pieces items found).length ∨
      (pieces item).Sublist (gather pieces items found) := by
  induction items with
  | nil => simp
  | cons first rest ih =>
      intro found hItem
      rw [gather, List.foldl_cons]
      rcases List.mem_cons.1 hItem with rfl | hRest
      · split
        case isTrue hTwo => exact .inl (hTwo.trans sublist_gather.length_le)
        case isFalse => exact .inr ((List.sublist_append_right found _).trans sublist_gather)
      · exact ih hRest

end Gather

/-! ## The search -/

/-- The search goes on from the parents that are still unused. -/
theorem pathsWithin_succ (hNode : node ≠ start) (left : Nat) (unused : List Nat) :
    graph.pathsWithin start (left + 1) unused node =
      gather (fun parent =>
          (graph.pathsWithin start left (leaveOut [parent] unused) parent).map (· ++ [node]))
        ((graph.parents node).filter (· ∈ unused)) [] := by
  rw [pathsWithin, if_neg hNode, gather]

/-- What the search finds for a node that is used up is a simple walk, and all nodes
before the end of it were unused. -/
theorem simpleWalk_of_mem_pathsWithin {left : Nat} :
    ∀ {unused : List Nat} {node : Nat} {walk : List Nat}, node ∉ unused →
      walk ∈ graph.pathsWithin start left unused node →
        graph.SimpleWalk start walk node ∧ ∀ middle ∈ walk.dropLast, middle ∈ unused := by
  induction left with
  | zero =>
      intro unused node walk _ h
      cases h
  | succ left ih =>
      intro unused node walk hNode h
      by_cases hStart : node = start
      · subst hStart
        rw [pathsWithin, if_pos rfl, List.mem_singleton] at h
        subst h
        exact ⟨.here graph node, by simp⟩
      · rw [pathsWithin_succ hStart] at h
        obtain ⟨parent, hParent, hMem⟩ := List.mem_flatMap.1 (gather_sublist.subset h)
        obtain ⟨before, hBefore, rfl⟩ := List.mem_map.1 hMem
        rw [List.mem_filter, mem_parents, decide_eq_true_eq] at hParent
        have hUsed : parent ∉ leaveOut [parent] unused := by simp [mem_leaveOut]
        obtain ⟨hWalk, hMiddle⟩ := ih hUsed hBefore
        have hUnused : ∀ middle ∈ before, middle ∈ unused := by
          intro middle hMem
          rw [← List.dropLast_append_getLast? parent hWalk.isWalk.getLast?] at hMem
          rcases List.mem_append.1 hMem with hInner | hLast
          · exact (mem_leaveOut.1 (hMiddle middle hInner)).1
          · exact List.mem_singleton.1 hLast ▸ hParent.2
        rw [List.dropLast_concat]
        exact ⟨hWalk.step hParent.1 fun hAgain => hNode (hUnused node hAgain), hUnused⟩

/-- The search finds no walk twice: walks by way of two parents differ in the node before
the last. -/
theorem WellFormed.nodup_pathsWithin (hGraph : graph.WellFormed) {left : Nat} :
    ∀ {unused : List Nat} {node : Nat}, (graph.pathsWithin start left unused node).Nodup := by
  induction left with
  | zero => exact List.nodup_nil
  | succ left ih =>
      intro unused node
      by_cases hStart : node = start
      · rw [pathsWithin, if_pos hStart]
        exact List.nodup_singleton _
      · rw [pathsWithin_succ hStart]
        refine gather_sublist.nodup ?_
        rw [List.nil_append, List.nodup_flatMap]
        refine ⟨fun parent _ => ih.map fun walk other => List.append_cancel_right, ?_⟩
        refine ((hGraph.parents_nodup node).filter _).imp fun {parent other} hApart => ?_
        rintro walk hWalk hOther
        obtain ⟨before, hBefore, rfl⟩ := List.mem_map.1 hWalk
        obtain ⟨found, hFound, hSame⟩ := List.mem_map.1 hOther
        rw [List.append_cancel_right hSame] at hFound
        have hUsed : ∀ parent, parent ∉ leaveOut [parent] unused := by simp [mem_leaveOut]
        have hLast := (simpleWalk_of_mem_pathsWithin (hUsed parent) hBefore).1.isWalk.getLast?
        rw [(simpleWalk_of_mem_pathsWithin (hUsed other) hFound).1.isWalk.getLast?] at hLast
        exact hApart (Option.some.inj hLast).symm

/-- The search finds a simple walk, unless it finds two others: the nodes before the end
must be unused and the bound not too small. -/
theorem SimpleWalk.mem_pathsWithin (h : graph.SimpleWalk start walk node) {left : Nat}
    {unused : List Nat} (hLeft : walk.length ≤ left)
    (hUnused : ∀ middle ∈ walk.dropLast, middle ∈ unused) :
    2 ≤ (graph.pathsWithin start left unused node).length ∨
      walk ∈ graph.pathsWithin start left unused node := by
  obtain ⟨hWalk, hNodup⟩ := h
  induction hWalk generalizing left unused with
  | here =>
      obtain ⟨left, rfl⟩ : ∃ less, left = less + 1 := ⟨left - 1, by simp at hLeft; omega⟩
      simp [pathsWithin]
  | @step walk parent child hWalk hEdge ih =>
      rw [List.length_append, List.length_singleton] at hLeft
      rw [List.dropLast_concat] at hUnused
      rw [← List.concat_eq_append, List.nodup_concat] at hNodup
      obtain ⟨left, rfl⟩ : ∃ less, left = less + 1 := ⟨left - 1, by omega⟩
      have hChild : child ≠ start := fun hEq => hNodup.1 (hEq ▸ List.mem_of_head? hWalk.head?)
      have hParent : parent ∈ (graph.parents child).filter (· ∈ unused) := by
        simp [hEdge, hUnused parent (List.mem_of_getLast? hWalk.getLast?)]
      have hEnd : parent ∉ walk.dropLast := end_not_mem ⟨hWalk, hNodup.2⟩
      have hBefore : ∀ middle ∈ walk.dropLast, middle ∈ leaveOut [parent] unused := by
        intro middle hMiddle
        refine mem_leaveOut.2 ⟨hUnused middle (List.dropLast_subset _ hMiddle), fun hEq => ?_⟩
        exact hEnd (List.mem_singleton.1 hEq ▸ hMiddle)
      have hShorter : walk.length ≤ left := by omega
      rw [pathsWithin_succ hChild]
      rcases piece_sublist_gather hParent with hTwo | hPiece
      · exact .inl hTwo
      · rcases ih hShorter hBefore hNodup.2 with hTwo | hFound
        · exact .inl (hTwo.trans (by simpa using hPiece.length_le))
        · exact .inr (hPiece.subset (List.mem_map_of_mem hFound))

/-- The path to a node is the only simple walk to it. -/
theorem pathFromRoot_eq_ok_iff (hGraph : graph.WellFormed) (hRoot : graph.root = some root) :
    graph.pathFromRoot node = .ok walk ↔ graph.IsOnlyWalk root walk node := by
  have hPaths : graph.pathFromRoot node = .ok walk ↔ graph.simplePaths root node = [walk] := by
    unfold pathFromRoot
    rw [hRoot]
    simp only
    split <;> simp_all
  have hUsed : node ∉ leaveOut [node] graph.nodes := by simp [mem_leaveOut]
  have hSound : ∀ other ∈ graph.simplePaths root node, graph.SimpleWalk root other node :=
    fun other hOther => (simpleWalk_of_mem_pathsWithin hUsed hOther).1
  have hFound : ∀ other, graph.SimpleWalk root other node →
      2 ≤ (graph.simplePaths root node).length ∨ other ∈ graph.simplePaths root node := by
    intro other hOther
    have hStart := hGraph.root_lt root hRoot
    refine hOther.mem_pathsWithin (Nat.le_succ_of_le (hOther.length_le hGraph hStart)) ?_
    intro middle hMiddle
    have hInside := hOther.isWalk.inside hGraph hStart middle (List.dropLast_subset _ hMiddle)
    refine mem_leaveOut.2 ⟨mem_nodes.2 hInside, fun hEq => ?_⟩
    exact hOther.end_not_mem (List.mem_singleton.1 hEq ▸ hMiddle)
  rw [hPaths]
  constructor
  · intro hOnly
    rw [hOnly] at hSound hFound
    exact ⟨hSound walk (by simp), fun other hOther => by simpa using hFound other hOther⟩
  · rintro ⟨hWalk, hUnique⟩
    have hAll : ∀ other ∈ graph.simplePaths root node, other = walk :=
      fun other hOther => hUnique other (hSound other hOther)
    have hNodup : (graph.simplePaths root node).Nodup := hGraph.nodup_pathsWithin
    refine eq_singleton_of_nodup hNodup ?_ hAll
    rcases hFound walk hWalk with hTwo | hMem
    · obtain ⟨other, hOther⟩ := List.exists_mem_of_length_pos (Nat.lt_of_lt_of_le Nat.two_pos hTwo)
      exact hAll other hOther ▸ hOther
    · exact hMem

/-! ## The walk in breadth -/

theorem WellFormed.children_nodup (hGraph : graph.WellFormed) (node : Nat) :
    (graph.children node).Nodup := by
  refine List.Nodup.map_on ?_ (hGraph.edges_nodup.filter _)
  intro edge hEdge other hOther hSame
  have hParent : edge.1 = node := by simpa using (List.mem_filter.1 hEdge).2
  have hOtherParent : other.1 = node := by simpa using (List.mem_filter.1 hOther).2
  exact Prod.ext (hParent.trans hOtherParent.symm) hSame

/-- The walk lists nodes that were queued at first or unseen. -/
theorem mem_or_unseen_of_mem_breadthFrom {unseen queue : List Nat}
    (h : node ∈ graph.breadthFrom unseen queue) : node ∈ queue ∨ node ∈ unseen := by
  fun_induction breadthFrom graph unseen queue with
  | case1 unseen => simp at h
  | case2 unseen first waiting found ih =>
      rcases List.mem_cons.1 h with rfl | hRest
      · exact .inl (by simp)
      · rcases ih hRest with hQueue | hUnseen
        · rcases List.mem_append.1 hQueue with hWaiting | hFound
          · exact .inl (by simp [hWaiting])
          · exact .inr (mem_unseenChildren.1 hFound).2
        · exact .inr (mem_leaveOut.1 hUnseen).1

/-- The walk lists no node twice if no node is queued twice or unseen while it is queued. -/
theorem WellFormed.nodup_breadthFrom (hGraph : graph.WellFormed) {unseen queue : List Nat}
    (hQueue : queue.Nodup) (hApart : queue.Disjoint unseen) :
    (graph.breadthFrom unseen queue).Nodup := by
  fun_induction breadthFrom graph unseen queue with
  | case1 unseen => exact List.nodup_nil
  | case2 unseen first waiting found ih =>
      obtain ⟨hFirst, hWaiting⟩ := List.nodup_cons.1 hQueue
      have hFound : ∀ other ∈ found, other ∈ unseen := fun other hOther =>
        (mem_unseenChildren.1 hOther).2
      obtain ⟨hFirstSeen, hWaitingSeen⟩ := List.disjoint_cons_left.1 hApart
      have hWaitingFound : waiting.Disjoint found := fun other hOld hNew =>
        hWaitingSeen hOld (hFound other hNew)
      have hNext : (waiting ++ found).Nodup :=
        hWaiting.append ((hGraph.children_nodup first).filter _) hWaitingFound
      have hNextSeen : (waiting ++ found).Disjoint (leaveOut found unseen) := by
        intro other hOther hLeft
        rcases List.mem_append.1 hOther with hOld | hNew
        · exact hWaitingSeen hOld (mem_leaveOut.1 hLeft).1
        · exact (mem_leaveOut.1 hLeft).2 hNew
      refine List.nodup_cons.2 ⟨fun hAgain => ?_, ih hNext hNextSeen⟩
      rcases mem_or_unseen_of_mem_breadthFrom hAgain with hQueued | hUnseen
      · rcases List.mem_append.1 hQueued with hOld | hNew
        · exact hFirst hOld
        · exact hFirstSeen (hFound first hNew)
      · exact hFirstSeen (mem_leaveOut.1 hUnseen).1

/-- A walk in breadth lists no node twice. -/
theorem WellFormed.nodup_breadthFirst (hGraph : graph.WellFormed) (start : Nat) :
    (graph.breadthFirst start).Nodup :=
  hGraph.nodup_breadthFrom (List.nodup_singleton start) (by simp [mem_leaveOut])

/-- A walk in breadth comes to a node by a simple walk through nodes that it has listed
before. -/
theorem exists_simpleWalk_before (hGraph : graph.WellFormed) (start : Nat)
    (before : List Nat) : ∀ {node : Nat} {after : List Nat},
      graph.breadthFirst start = before ++ node :: after →
        ∃ walk, graph.SimpleWalk start walk node ∧ ∀ middle ∈ walk, middle ∈ before ++ [node] := by
  induction hLength : before.length using Nat.strong_induction_on generalizing before with
  | _ length ih =>
      intro node after hOrder
      by_cases hNode : node = start
      · subst hNode
        exact ⟨[node], .here graph node, by simp⟩
      · obtain ⟨parent, hParent, hEdge⟩ := breadthFirst_parent_before hOrder hNode
        obtain ⟨first, between, rfl⟩ := List.append_of_mem hParent
        have hEarlier : graph.breadthFirst start =
            first ++ parent :: (between ++ node :: after) := by simpa using hOrder
        have hShorter : first.length < length := by simp [← hLength]
        obtain ⟨walk, hWalk, hInside⟩ := ih _ hShorter first rfl hEarlier
        have hBefore : ∀ middle ∈ walk, middle ∈ first ++ parent :: between := by
          intro middle hMiddle
          have := hInside middle hMiddle
          simp only [List.mem_append, List.mem_cons, List.not_mem_nil, or_false] at this ⊢
          tauto
        have hNew : node ∉ first ++ parent :: between := by
          have hNodup := hGraph.nodup_breadthFirst start
          rw [hOrder] at hNodup
          exact fun hMem => List.disjoint_of_nodup_append hNodup hMem (List.mem_cons_self ..)
        refine ⟨walk ++ [node], hWalk.step hEdge fun hAgain => hNew (hBefore node hAgain), ?_⟩
        intro middle hMiddle
        rcases List.mem_append.1 hMiddle with hOld | hLast
        · exact List.mem_append_left _ (hBefore middle hOld)
        · exact List.mem_append_right _ hLast

/-- A walk in breadth comes to a node after it has been to all others of the path. So no path
to an earlier node leads through it. -/
theorem IsOnlyWalk.not_mem_of_before (hGraph : graph.WellFormed) {earlier : Nat}
    {before after : List Nat} (h : graph.IsOnlyWalk start walk earlier)
    (hOrder : graph.breadthFirst start = before ++ node :: after) (hEarlier : earlier ∈ before) :
    node ∉ walk := by
  obtain ⟨first, between, rfl⟩ := List.append_of_mem hEarlier
  have hSplit : graph.breadthFirst start = first ++ earlier :: (between ++ node :: after) := by
    simpa using hOrder
  obtain ⟨found, hFound, hInside⟩ := exists_simpleWalk_before hGraph start first hSplit
  obtain rfl := h.unique found hFound
  intro hMem
  have hNodup := hGraph.nodup_breadthFirst start
  rw [hOrder] at hNodup
  refine List.disjoint_of_nodup_append hNodup ?_ (List.mem_cons_self ..)
  have hBefore := hInside node hMem
  simp only [List.mem_append, List.mem_cons, List.not_mem_nil, or_false] at hBefore ⊢
  tauto

end CratePlan.EndpointGraph
