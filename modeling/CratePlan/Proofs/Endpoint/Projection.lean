import CratePlan.Proofs.Endpoint.Preorder
import CratePlan.Proofs.Endpoint.TraitModule

/-!
# Projecting the graph of endpoints

Traits are made in the order of a walk in breadth, and each is declared in the modules of
its node's parents, which are looked up among the traits made before. The walk comes to a
node after a parent of it, and to no other parent before, since the path to the node is the
only one. So each trait is declared once, directly below the module of the node before it on
the path. Only the root's trait may be declared nowhere: a parent of the root comes later.

The traits are listed in another order, that of a walk in depth. Both walks come to the
nodes that the root leads to, so that no trait is made and left out. In a tree these are
all nodes.

## Main statements

* `mem_declaringModules_iff`: the module in which a trait is declared.
* `exists_laidOut`: the traits that a projection makes, and what it declares.
* `forall₂_of_project`: the traits are listed in the order of a walk in depth.
* `IsTree.project_eq_ok`: a projection of a tree lists the traits of all nodes.
* `IsTree.project_ne_tree`: a projection never fails for the tree's sake.
* `IsTree.exists_above`: every module on the way to a trait is that of another trait.
-/

namespace CratePlan.EndpointGraph

open Outcome

variable {graph : EndpointGraph} {root : Nat} {traits : TraitNames}

/-- The traits that have been made are those of the nodes of a list. -/
structure LaidOut (graph : EndpointGraph) (traits : TraitNames) (nodes : List Nat)
    (done : List (Nat × Trait)) : Prop where
  lookup_iff : ∀ node trait, done.lookup node = some trait ↔
    node ∈ nodes ∧ graph.traitAt traits node = .ok trait
  exists_trait : ∀ node ∈ nodes, ∃ trait, graph.traitAt traits node = .ok trait

theorem laidOut_nil : graph.LaidOut traits [] [] where
  lookup_iff := by simp
  exists_trait := by simp

theorem LaidOut.concat {nodes : List Nat} {done : List (Nat × Trait)} {node : Nat} {trait : Trait}
    (hDone : graph.LaidOut traits nodes done) (hTrait : graph.traitAt traits node = .ok trait) :
    graph.LaidOut traits (nodes ++ [node]) ((node, trait) :: done) where
  lookup_iff := by
    intro other found
    rw [List.lookup_cons]
    by_cases hOther : other = node
    · simp [hOther, hTrait]
    · rw [beq_false_of_ne hOther]
      simp [hOther, hDone.lookup_iff]
  exists_trait := by
    intro other hOther
    rcases List.mem_append.1 hOther with hOld | hNew
    · exact hDone.exists_trait other hOld
    · rw [List.mem_singleton.1 hNew]
      exact ⟨trait, hTrait⟩

/-- Of nodes whose traits have been made, none loses its trait in a listing. -/
theorem LaidOut.forall₂_filterMap {nodes : List Nat} {done : List (Nat × Trait)}
    (hDone : graph.LaidOut traits nodes done) {order : List Nat} :
    (∀ node ∈ order, node ∈ nodes) →
      List.Forall₂ (fun node trait => graph.traitAt traits node = .ok trait) order
        (order.filterMap (done.lookup ·)) := by
  induction order with
  | nil => exact fun _ => .nil
  | cons first rest ih =>
      intro hOrder
      have hFirst := hOrder first (by simp)
      obtain ⟨trait, hTrait⟩ := hDone.exists_trait first hFirst
      simp only [List.filterMap_cons, (hDone.lookup_iff first trait).2 ⟨hFirst, hTrait⟩]
      exact .cons hTrait (ih fun node hNode => hOrder node (by simp [hNode]))

/-- A declaration that declares the module of a trait in the one above it. -/
def Announces (declaration : Declaration) (trait : Trait) : Prop :=
  trait.modulePath = declaration.parent.append declaration.words ∧ declaration.visibility = .named

theorem Announces.unique {declaration other : Declaration} {trait : Trait}
    (h : Announces declaration trait) (hOther : Announces other trait) : declaration = other := by
  have hPath := h.1.symm.trans hOther.1
  have hVisibility := h.2.trans hOther.2.symm
  rw [ModulePath.append_inj] at hPath
  cases declaration
  cases other
  simp_all

/-- A row of traits is made when each of them can be. -/
theorem exists_layOut_iff {nodes : List Nat} :
    ∀ {done : List (Nat × Trait)} {registry : Registry},
      (∃ final, (graph.layOut traits nodes done registry).2 = .ok final) ↔
        ∀ node ∈ nodes, ∃ trait, graph.traitAt traits node = .ok trait := by
  induction nodes with
  | nil =>
      intro done registry
      exact iff_of_true ⟨done, rfl⟩ (by simp)
  | cons node rest ih =>
      intro done registry
      rw [layOut, List.forall_mem_cons]
      cases hTrait : graph.traitAt traits node with
      | error fault => simp
      | ok trait => simp [ih]

/-- The error of a row of traits is that of the first that cannot be made. -/
theorem exists_of_layOut_eq_error {nodes : List Nat} {error : PlanError} :
    ∀ {done : List (Nat × Trait)} {registry : Registry},
      (graph.layOut traits nodes done registry).2 = .error error →
        ∃ before node after, nodes = before ++ node :: after ∧
          (∀ earlier ∈ before, ∃ trait, graph.traitAt traits earlier = .ok trait) ∧
          graph.traitAt traits node = .error error := by
  induction nodes with
  | nil =>
      intro done registry h
      cases h
  | cons node rest ih =>
      intro done registry h
      rw [layOut] at h
      cases hTrait : graph.traitAt traits node with
      | error fault =>
          rw [hTrait] at h
          cases h
          exact ⟨[], node, rest, rfl, by simp, hTrait⟩
      | ok trait =>
          rw [hTrait] at h
          obtain ⟨before, other, after, rfl, hBefore, hError⟩ := ih h
          exact ⟨node :: before, other, after, rfl,
            List.forall_mem_cons.2 ⟨⟨trait, hTrait⟩, hBefore⟩, hError⟩

/-! ## The declarations of a projection -/

/-- The modules that declare a trait, as they are looked up. -/
theorem mem_declaringModules {done : List (Nat × Trait)} {node : Nat} {path : ModulePath} :
    path ∈ graph.declaringModules traits done node ↔
      (graph.parents node = [] ∧ path = traits.basePath) ∨
        ∃ parent above, (parent, node) ∈ graph.edges ∧ done.lookup parent = some above ∧
          path = above.modulePath := by
  unfold declaringModules
  by_cases hParents : graph.parents node = []
  · have hNone : ∀ parent, (parent, node) ∉ graph.edges := by simp [← mem_parents, hParents]
    simp [hParents, hNone]
  · simp only [hParents, List.isEmpty_iff, if_false, false_and, false_or, List.mem_filterMap,
      mem_parents, Option.map_eq_some_iff]
    constructor
    · rintro ⟨parent, hEdge, above, hLookup, rfl⟩
      exact ⟨parent, above, hEdge, hLookup, rfl⟩
    · rintro ⟨parent, above, hEdge, hLookup, rfl⟩
      exact ⟨parent, hEdge, above, hLookup, rfl⟩

section Declarations

variable (hGraph : graph.WellFormed) (hRoot : graph.root = some root)
include hGraph hRoot

/-- The module of a trait lies directly in that of each parent that a walk in breadth comes to
before, because the path to the parent is continued by the node. -/
theorem exists_modulePath_eq_append {before after : List Nat} {parent node : Nat}
    {above trait : Trait} (hOrder : graph.breadthFirst root = before ++ node :: after)
    (hParent : parent ∈ before) (hEdge : (parent, node) ∈ graph.edges)
    (hAbove : graph.traitAt traits parent = .ok above)
    (hTrait : graph.traitAt traits node = .ok trait) :
    ∃ name, trait.modulePath = above.modulePath.append name := by
  obtain ⟨path, -, hPath, -⟩ := exists_path_of_traitAt hAbove
  have hOnly := (pathFromRoot_eq_ok_iff hGraph hRoot).1 hPath
  have hNew := hOnly.not_mem_of_before hGraph hOrder hParent
  obtain ⟨identifier, -, hModule⟩ := modulePath_of_edge hGraph hRoot hEdge hPath hNew hAbove hTrait
  exact ⟨_, hModule⟩

/-- A walk in breadth comes to no node before the root. -/
theorem not_before_root {before after path : List Nat} {parent : Nat}
    (hOrder : graph.breadthFirst root = before ++ root :: after) (hParent : parent ∈ before)
    (hPath : graph.pathFromRoot parent = .ok path) : False := by
  rw [pathFromRoot_eq_ok_iff hGraph hRoot] at hPath
  exact hPath.not_mem_of_before hGraph hOrder hParent (List.mem_of_head? hPath.isWalk.head?)

/-- The one module that declares a trait is the module above its own, if the traits before
it in a walk in breadth have been made. None declares the root's trait if the root has a
parent, because the walk begins with the root. -/
theorem mem_declaringModules_iff {before after : List Nat} {done : List (Nat × Trait)}
    {node : Nat} {trait : Trait} (hOrder : graph.breadthFirst root = before ++ node :: after)
    (hDone : graph.LaidOut traits before done) (hTrait : graph.traitAt traits node = .ok trait)
    {path : ModulePath} :
    path ∈ graph.declaringModules traits done node ↔
      (node = root → graph.parents root = []) ∧
        ∃ name, trait.modulePath = path.append name := by
  rw [mem_declaringModules]
  by_cases hNode : node = root
  · subst hNode
    obtain ⟨identifier, -, hTop⟩ := modulePath_root hGraph hRoot hTrait
    have hNone : ¬∃ parent above, (parent, node) ∈ graph.edges ∧
        done.lookup parent = some above ∧ path = above.modulePath := by
      rintro ⟨parent, above, hEdge, hLookup, -⟩
      obtain ⟨hParent, hAt⟩ := (hDone.lookup_iff parent above).1 hLookup
      obtain ⟨found, -, hFound, -⟩ := exists_path_of_traitAt hAt
      exact not_before_root hGraph hRoot hOrder hParent hFound
    simp only [hNone, or_false, true_implies, hTop, ModulePath.append_inj]
    refine and_congr_right fun _ => ⟨fun hPath => ⟨_, hPath.symm, rfl⟩, ?_⟩
    rintro ⟨name, hPath, -⟩
    exact hPath.symm
  · obtain ⟨first, hFirst, hEdge⟩ := breadthFirst_parent_before hOrder hNode
    obtain ⟨made, hMade⟩ := hDone.exists_trait first hFirst
    have hLookup := (hDone.lookup_iff first made).2 ⟨hFirst, hMade⟩
    have hSome : graph.parents node ≠ [] := List.ne_nil_of_mem (mem_parents.2 hEdge)
    simp only [hSome, false_and, false_or, hNode, false_implies, true_and]
    constructor
    · rintro ⟨parent, above, hOther, hOtherLookup, rfl⟩
      obtain ⟨hParent, hAbove⟩ := (hDone.lookup_iff parent above).1 hOtherLookup
      exact exists_modulePath_eq_append hGraph hRoot hOrder hParent hOther hAbove hTrait
    · rintro ⟨name, hPath⟩
      obtain ⟨firstName, hFirstPath⟩ :=
        exists_modulePath_eq_append hGraph hRoot hOrder hFirst hEdge hMade hTrait
      rw [hFirstPath, ModulePath.append_inj] at hPath
      exact ⟨first, made, hEdge, hLookup, hPath.1.symm⟩

/-- What is declared for a trait announces it, if the traits before it in a walk in breadth
have been made. -/
theorem exists_declareTrait_eq {before after : List Nat} {done : List (Nat × Trait)} {node : Nat}
    {trait : Trait} (hOrder : graph.breadthFirst root = before ++ node :: after)
    (hDone : graph.LaidOut traits before done) (hTrait : graph.traitAt traits node = .ok trait)
    (registry : Registry) :
    ∃ declarations : List Declaration,
      graph.declareTrait traits done node trait registry =
        declarations.foldl Registry.declare registry ∧
      ∀ declaration, declaration ∈ declarations ↔
        (node = root → graph.parents root = []) ∧ Announces declaration trait := by
  have hModules : ∀ path, path ∈ graph.declaringModules traits done node ↔
      (node = root → graph.parents root = []) ∧ ∃ name, trait.modulePath = path.append name :=
    fun path => mem_declaringModules_iff hGraph hRoot hOrder hDone hTrait
  unfold declareTrait
  cases hLast : trait.modulePath.last? with
  | none =>
      refine ⟨[], rfl, fun declaration => ?_⟩
      simp only [List.not_mem_nil, false_iff]
      rintro ⟨-, hPath, -⟩
      simp [hPath] at hLast
  | some name =>
      refine ⟨(graph.declaringModules traits done node).map fun path => ⟨path, name, .named⟩,
        List.foldl_map.symm, fun declaration => ?_⟩
      obtain ⟨parent, words, visibility⟩ := declaration
      simp only [List.mem_map, hModules, Announces, Declaration.mk.injEq]
      constructor
      · rintro ⟨path, ⟨hOpen, found, hFound⟩, rfl, rfl, rfl⟩
        rw [hFound, ModulePath.last?_append, Option.some.injEq] at hLast
        exact ⟨hOpen, hLast ▸ hFound, rfl⟩
      · rintro ⟨hOpen, hFound, rfl⟩
        obtain rfl : words = name := by simpa [hFound] using hLast
        exact ⟨parent, ⟨hOpen, words, hFound⟩, rfl, rfl, rfl⟩

/-- The rest of a walk in breadth is laid out as its beginning was, and the traits are
declared on the way. -/
theorem layOut_eq_ok {nodes : List Nat} :
    ∀ {before : List Nat} {done final : List (Nat × Trait)} {registry next : Registry},
      graph.breadthFirst root = before ++ nodes → graph.LaidOut traits before done →
      graph.layOut traits nodes done registry = (next, .ok final) →
        graph.LaidOut traits (before ++ nodes) final ∧
        ∃ declarations : List Declaration, next = declarations.foldl Registry.declare registry ∧
          ∀ declaration, declaration ∈ declarations ↔ ∃ node ∈ nodes, ∃ trait,
            graph.traitAt traits node = .ok trait ∧
              (node = root → graph.parents root = []) ∧ Announces declaration trait := by
  induction nodes with
  | nil =>
      intro before done final registry next _ hDone h
      cases h
      exact ⟨by simpa using hDone, [], rfl, by simp⟩
  | cons node rest ih =>
      intro before done final registry next hOrder hDone h
      rw [layOut] at h
      cases hTrait : graph.traitAt traits node with
      | error error => simp [hTrait] at h
      | ok trait =>
          simp only [hTrait] at h
          obtain ⟨first, hDeclare, hFirst⟩ :=
            exists_declareTrait_eq hGraph hRoot hOrder hDone hTrait registry
          rw [hDeclare] at h
          rw [List.append_cons] at hOrder ⊢
          obtain ⟨hFinal, declarations, hNext, hMem⟩ := ih hOrder (hDone.concat hTrait) h
          refine ⟨hFinal, first ++ declarations, ?_, fun declaration => ?_⟩
          · rw [hNext, List.foldl_append]
          · simp [hMem, hFirst, hTrait]

/-- What a projection makes: the traits of all nodes that the root leads to, in the order of
a walk in breadth, each announced in the module above its own. The root's is announced only
if the root has no parent. They are listed in the order of a walk in depth. -/
theorem exists_laidOut {registry next : Registry} {listed : List Trait}
    (h : graph.project traits registry = (next, .ok listed)) :
    ∃ final, graph.LaidOut traits (graph.breadthFirst root) final ∧
      listed = (graph.depthFirst root).filterMap (final.lookup ·) ∧
      ∃ declarations : List Declaration, next = declarations.foldl Registry.declare registry ∧
        ∀ declaration, declaration ∈ declarations ↔ ∃ node ∈ graph.breadthFirst root, ∃ trait,
          graph.traitAt traits node = .ok trait ∧
            (node = root → graph.parents root = []) ∧ Announces declaration trait := by
  simp only [project, hRoot] at h
  split at h
  case h_1 => cases h
  case h_2 reached final hLayOut =>
      cases h
      obtain ⟨hFinal, hDeclarations⟩ :=
        layOut_eq_ok hGraph hRoot (List.nil_append _).symm laidOut_nil hLayOut
      exact ⟨final, hFinal, rfl, hDeclarations⟩

/-- The two walks come to the same nodes. -/
theorem mem_depthFirst_iff_mem_breadthFirst {node : Nat} :
    node ∈ graph.depthFirst root ↔ node ∈ graph.breadthFirst root := by
  rw [mem_depthFirst hGraph.edgesInside (hGraph.root_lt root hRoot),
    mem_breadthFirst hGraph.edgesInside]

/-- The traits of all nodes that the root leads to are listed, in the order of a walk in
depth. -/
theorem forall₂_of_project {registry next : Registry} {listed : List Trait}
    (h : graph.project traits registry = (next, .ok listed)) :
    List.Forall₂ (fun node trait => graph.traitAt traits node = .ok trait)
      (graph.depthFirst root) listed := by
  obtain ⟨final, hFinal, rfl, -⟩ := exists_laidOut hGraph hRoot h
  exact hFinal.forall₂_filterMap fun node hNode =>
    (mem_depthFirst_iff_mem_breadthFirst hGraph hRoot).1 hNode

end Declarations

namespace IsTree

variable (hGraph : graph.WellFormed) (hTree : graph.IsTree root) (hRoot : graph.root = some root)
include hGraph hTree hRoot

/-- A walk in breadth from the root comes to all nodes. -/
theorem mem_breadthFirst_iff {node : Nat} :
    node ∈ graph.breadthFirst root ↔ node < graph.size := by
  rw [mem_breadthFirst hGraph.edgesInside]
  exact ⟨fun h => h.inside hGraph.edgesInside (hGraph.root_lt root hRoot), hTree.leads node⟩

/-- A projection lists the traits of all nodes, and declares each of them once. -/
theorem project_eq_ok {registry next : Registry} {listed : List Trait}
    (h : graph.project traits registry = (next, .ok listed)) :
    (∀ node < graph.size, ∃ trait ∈ listed, graph.traitAt traits node = .ok trait) ∧
    (∀ trait ∈ listed, ∃ node < graph.size, graph.traitAt traits node = .ok trait) ∧
    ∃ declarations : List Declaration, next = declarations.foldl Registry.declare registry ∧
      ∀ declaration, declaration ∈ declarations ↔
        ∃ trait ∈ listed, Announces declaration trait := by
  have hListed := forall₂_of_project hGraph hRoot h
  have hAll : ∀ node < graph.size, ∃ trait ∈ listed, graph.traitAt traits node = .ok trait := by
    intro node hNode
    obtain ⟨trait, hPair, hAt⟩ :=
      exists_right_of_forall₂ hListed ((hTree.mem_depthFirst_iff hGraph hRoot).2 hNode)
    exact ⟨trait, (List.of_mem_zip hPair).2, hAt⟩
  have hFrom : ∀ trait ∈ listed, ∃ node < graph.size, graph.traitAt traits node = .ok trait := by
    intro trait hTrait
    obtain ⟨node, hPair, hAt⟩ := exists_left_of_forall₂ hListed hTrait
    exact ⟨node, (hTree.mem_depthFirst_iff hGraph hRoot).1 (List.of_mem_zip hPair).1, hAt⟩
  obtain ⟨-, -, -, declarations, hNext, hMem⟩ := exists_laidOut hGraph hRoot h
  refine ⟨hAll, hFrom, declarations, hNext, fun declaration => ?_⟩
  simp only [hMem, hTree.parents_root, implies_true, true_and]
  constructor
  · rintro ⟨node, hNode, trait, hTrait, hAnnounces⟩
    obtain ⟨found, hFound, hAt⟩ := hAll node ((hTree.mem_breadthFirst_iff hGraph hRoot).1 hNode)
    rw [hTrait, Except.ok.injEq] at hAt
    exact ⟨found, hFound, hAt ▸ hAnnounces⟩
  · rintro ⟨trait, hTrait, hAnnounces⟩
    obtain ⟨node, hNode, hAt⟩ := hFrom trait hTrait
    exact ⟨node, (hTree.mem_breadthFirst_iff hGraph hRoot).2 hNode, trait, hAt, hAnnounces⟩

/-- A projection of a tree never fails for the tree's sake. -/
theorem project_ne_tree (registry : Registry) (fault : TreeFault) :
    (graph.project traits registry).2 ≠ .error (.tree fault) := by
  intro h
  simp only [project, hRoot] at h
  split at h
  case h_1 reached error hLayOut =>
      cases h
      obtain ⟨before, node, after, hOrder, -, hError⟩ :=
        exists_of_layOut_eq_error (congrArg Prod.snd hLayOut)
      have hNode : node ∈ graph.breadthFirst root := by simp [hOrder]
      have hLt := (hTree.mem_breadthFirst_iff hGraph hRoot).1 hNode
      exact hTree.traitAt_ne_tree hGraph hRoot hLt fault hError
  case h_2 => cases h

/-- If the traits of all nodes are listed, every module on the way to one of them, below
the module that all traits are in, is that of another one. -/
theorem exists_above {listed : List Trait}
    (hAll : ∀ node < graph.size, ∃ trait ∈ listed, graph.traitAt traits node = .ok trait)
    {walk : List Nat} {node : Nat} (hWalk : graph.Walk root walk node) :
    ∀ {trait : Trait} {index : Nat}, graph.traitAt traits node = .ok trait → 1 ≤ index →
      index < trait.modulePath.length →
        ∃ above ∈ listed, above.modulePath = trait.modulePath.take (index + 1) := by
  have hListed : ∀ {node trait}, node < graph.size → graph.traitAt traits node = .ok trait →
      trait ∈ listed := by
    intro node trait hNode hTrait
    obtain ⟨found, hFound, hAt⟩ := hAll node hNode
    rw [hTrait, Except.ok.injEq] at hAt
    rwa [hAt]
  induction hWalk with
  | here =>
      intro trait index hTrait hIndex hLength
      obtain ⟨identifier, -, hPath⟩ := modulePath_root hGraph hRoot hTrait
      refine ⟨trait, hListed (hGraph.root_lt root hRoot) hTrait, ?_⟩
      rw [ModulePath.take_of_length_le]
      rw [hPath, ModulePath.length_append, TraitNames.length_basePath]
      omega
  | @step walk parent child hWalk hEdge ih =>
      intro trait index hTrait hIndex hLength
      obtain ⟨hParent, hChild⟩ := hGraph.edgesInside _ hEdge
      obtain ⟨above, -, hAbove⟩ := hAll parent hParent
      obtain ⟨identifier, -, hPath⟩ := hTree.modulePath_child hGraph hRoot hEdge hAbove hTrait
      have hLast : trait.modulePath.length = above.modulePath.length + 1 := by
        rw [hPath, ModulePath.length_append]
      rcases Nat.lt_or_ge index above.modulePath.length with hInner | hOuter
      · obtain ⟨found, hFound, hFoundPath⟩ := ih hAbove hIndex hInner
        exact ⟨found, hFound, by rw [hFoundPath, hPath, ModulePath.take_append_of_le hInner]⟩
      · refine ⟨trait, hListed hChild hTrait, ?_⟩
        rw [ModulePath.take_of_length_le (by omega)]

end IsTree

end CratePlan.EndpointGraph
