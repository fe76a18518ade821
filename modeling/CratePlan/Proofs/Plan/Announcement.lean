import CratePlan.Proofs.Plan.Listing

/-!
# Where traits are declared

The trait of an endpoint is to be declared in the modules of all endpoints that it hangs
from, and the root's in the module that all traits are in. A projection looks the parents up
among the traits that it has made so far, and takes a node without parents for the root. In
a graph that is no tree both go wrong, although every endpoint has one path: an edge may
close a cycle, and the parent at its start is made later. If such an edge leads to the root,
the root has a parent, and its trait is declared nowhere.

So a parent's module declares the trait when the edge closes no cycle. Then the path
continues the parent's, and the trait's module lies directly below the parent's. Otherwise
the name may still be declared there, for the sake of another trait that has just this
module. A registry that knew the name before keeps what it knew.

## Main statements

* `declaredIn_iff`: which modules declare a trait after a projection.
* `declaredIn_basePath_iff`, `declaredIn_parent_iff`: the module that all traits are in, and
  the modules of the parents.
* `declaresAll_iff`: when every trait is declared where it is to be.
* `Reached.project_declares_iff`: each declaration by itself, for the traits that are listed.
* `not_all_declared`: a graph in which two declarations are missing.
-/

namespace CratePlan

open Outcome

/-- The module at a path declares the module of a trait, under its own name. -/
def Trait.DeclaredIn (trait : Trait) (registry : Registry) (path : ModulePath) : Prop :=
  ∃ name, trait.modulePath.last? = some name ∧ registry.Shows path name .named

/-- The module at a path declares nothing under the name of a trait's module. -/
def Trait.FreeIn (trait : Trait) (registry : Registry) (path : ModulePath) : Prop :=
  ∀ name, trait.modulePath.last? = some name → registry.shown? path.display name = none

/-- A trait has the module at a path that is continued by the name of another trait's
module. -/
def Trait.TakesPlace (other trait : Trait) (path : ModulePath) : Prop :=
  ∃ name, trait.modulePath.last? = some name ∧ other.modulePath = path.append name

theorem Trait.not_declaredIn_empty (trait : Trait) (path : ModulePath) :
    ¬trait.DeclaredIn .empty path := by
  rintro ⟨name, -, module, hModule, -⟩
  cases hModule

theorem Trait.freeIn_empty (trait : Trait) (path : ModulePath) : trait.FreeIn .empty path :=
  fun _ _ => rfl

namespace EndpointGraph

/-- Every trait is declared where it is to be: the root's in the module that all traits are in,
and that of a node in the modules of all its parents, as far as they have traits. -/
def DeclaresAll (graph : EndpointGraph) (traits : TraitNames) (registry : Registry) : Prop :=
  (∀ root trait, graph.root = some root → graph.traitAt traits root = .ok trait →
    trait.DeclaredIn registry traits.basePath) ∧
  ∀ parent node above trait, (parent, node) ∈ graph.edges →
    graph.traitAt traits parent = .ok above → graph.traitAt traits node = .ok trait →
      trait.DeclaredIn registry above.modulePath

variable {graph : EndpointGraph} {root : Nat} {traits : TraitNames} {registry next : Registry}
  {listed : List Trait}

/-- The traits that are listed are those that can be made. -/
theorem mem_listed_iff (hGraph : graph.WellFormed)
    (h : graph.project traits registry = (next, .ok listed)) {trait : Trait} :
    trait ∈ listed ↔ ∃ node, graph.traitAt traits node = .ok trait := by
  cases hRoot : graph.root with
  | none =>
      simp only [project, hRoot, Prod.mk.injEq, Except.ok.injEq] at h
      refine iff_of_false (by simp [← h.2]) ?_
      rintro ⟨node, hTrait⟩
      obtain ⟨root, hSome⟩ := exists_root_of_traitAt hTrait
      simp [hRoot] at hSome
  | some root =>
      have hListed := forall₂_of_project hGraph hRoot h
      constructor
      · intro hTrait
        obtain ⟨node, -, hAt⟩ := exists_left_of_forall₂ hListed hTrait
        exact ⟨node, hAt⟩
      · rintro ⟨node, hAt⟩
        have hNode := (mem_depthFirst hGraph.edgesInside (hGraph.root_lt root hRoot)).2
          (leads_of_traitAt hGraph hRoot hAt)
        obtain ⟨found, hPair, hFound⟩ := exists_right_of_forall₂ hListed hNode
        rw [hAt, Except.ok.injEq] at hFound
        exact hFound ▸ (List.of_mem_zip hPair).2

section Root

variable (hGraph : graph.WellFormed) (hRoot : graph.root = some root)
include hGraph hRoot

/-- A module is displayed as the one above a trait's only if it is that one: both lie in the
module that all traits are in, and the names below it have been asked about. -/
theorem parent_eq_of_display_eq {node : Nat} {trait : Trait} {path parent : ModulePath}
    {name : Words} (hTrait : graph.traitAt traits node = .ok trait)
    (hModule : trait.modulePath = parent.append name) (hLies : path.LiesIn traits.base.words)
    (hBelow : path.NameableBelow) (hDisplay : parent.display = path.display) : parent = path := by
  have hOwn := liesIn_modulePath hGraph hRoot hTrait
  have hLength := two_le_length_modulePath hGraph hRoot hTrait
  have hNameable := nameableBelow_modulePath hGraph hRoot hTrait
  rw [hModule] at hOwn hLength hNameable
  rw [ModulePath.length_append] at hLength
  exact (hOwn.of_append (by omega)).display_inj hLies hNameable.of_append hBelow hDisplay

/-- After a projection a module declares a trait if it did before, or if it declared nothing
under that name and a trait that is declared has just that module. -/
theorem declaredIn_iff (h : graph.project traits registry = (next, .ok listed)) {trait : Trait}
    {name : Words} (hName : trait.modulePath.last? = some name) {path : ModulePath}
    (hLies : path.LiesIn traits.base.words) (hBelow : path.NameableBelow) :
    trait.DeclaredIn next path ↔ trait.DeclaredIn registry path ∨ trait.FreeIn registry path ∧
      ∃ node other, graph.traitAt traits node = .ok other ∧
        (node = root → graph.parents root = []) ∧ other.modulePath = path.append name := by
  obtain ⟨-, -, -, declarations, hNext, hMem⟩ := exists_laidOut hGraph hRoot h
  have hNamed : ∀ declaration ∈ declarations, declaration.visibility = .named := by
    intro declaration hDeclaration
    obtain ⟨-, -, -, -, -, -, hVisibility⟩ := (hMem declaration).1 hDeclaration
    exact hVisibility
  have hConcerns : (∃ declaration ∈ declarations, declaration.Concerns path.display name) ↔
      ∃ node other, graph.traitAt traits node = .ok other ∧
        (node = root → graph.parents root = []) ∧ other.modulePath = path.append name := by
    constructor
    · rintro ⟨declaration, hDeclaration, hDisplay, rfl⟩
      obtain ⟨node, -, other, hOther, hOpen, hPath, -⟩ := (hMem declaration).1 hDeclaration
      obtain rfl := parent_eq_of_display_eq hGraph hRoot hOther hPath hLies hBelow hDisplay
      exact ⟨node, other, hOther, hOpen, hPath⟩
    · rintro ⟨node, other, hOther, hOpen, hPath⟩
      have hNode := (mem_breadthFirst hGraph.edgesInside).2 (leads_of_traitAt hGraph hRoot hOther)
      exact ⟨⟨path, name, .named⟩, (hMem _).2 ⟨node, hNode, other, hOther, hOpen, hPath, rfl⟩,
        rfl, rfl⟩
  simp only [Trait.DeclaredIn, Trait.FreeIn, hName, Option.some.injEq, exists_eq_left', forall_eq',
    Registry.shows_iff, hNext, Registry.shown?_foldl_eq_some_iff hNamed, hConcerns]

/-- The root's trait is declared in the module that all traits are in exactly when the root
has no parent, if nothing was declared there under its name. -/
theorem declaredIn_basePath_iff (h : graph.project traits registry = (next, .ok listed))
    {trait : Trait} (hTrait : graph.traitAt traits root = .ok trait) :
    trait.DeclaredIn next traits.basePath ↔ trait.DeclaredIn registry traits.basePath ∨
      trait.FreeIn registry traits.basePath ∧ graph.parents root = [] := by
  obtain ⟨identifier, -, hModule⟩ := modulePath_root hGraph hRoot hTrait
  have hName : trait.modulePath.last? = some identifier.words := by simp [hModule]
  have hBelow : traits.basePath.NameableBelow := List.forall_mem_nil _
  rw [declaredIn_iff hGraph hRoot h hName ⟨rfl, rfl⟩ hBelow]
  refine or_congr_right (and_congr_right fun _ => ?_)
  constructor
  · rintro ⟨node, other, hOther, hOpen, hOtherModule⟩
    refine hOpen ?_
    -- A module with two names is that of a node whose path has one node.
    obtain ⟨path, hPath⟩ := exists_path_concat hGraph hRoot hOther
    have hLength := length_modulePath hGraph hRoot hPath hOther
    rw [hOtherModule, ModulePath.length_append, TraitNames.length_basePath, List.length_append,
      List.length_singleton] at hLength
    obtain rfl : path = [] := List.length_eq_zero_iff.1 (by omega)
    have hHead := ((pathFromRoot_eq_ok_iff hGraph hRoot).1 hPath).isWalk.head?
    simpa using hHead
  · exact fun hOpen => ⟨root, trait, hTrait, fun _ => hOpen, hModule⟩

/-- The trait of a node is declared in the module of a parent exactly when the node is not on
the path to the parent, or another trait has just that module, if nothing was declared there
under its name. -/
theorem declaredIn_parent_iff (h : graph.project traits registry = (next, .ok listed))
    {parent node : Nat} {above trait : Trait} (hEdge : (parent, node) ∈ graph.edges)
    (hAbove : graph.traitAt traits parent = .ok above)
    (hTrait : graph.traitAt traits node = .ok trait) :
    trait.DeclaredIn next above.modulePath ↔ trait.DeclaredIn registry above.modulePath ∨
      trait.FreeIn registry above.modulePath ∧
        ((∀ path, graph.pathFromRoot parent = .ok path → node ∉ path) ∨
          ∃ other ∈ listed, other.TakesPlace trait above.modulePath) := by
  obtain ⟨path, hPath⟩ := exists_path_concat hGraph hRoot hTrait
  obtain ⟨before, identifier, -, -, hModule⟩ := modulePath_concat hPath hTrait
  have hName : trait.modulePath.last? = some identifier.words := by simp [hModule]
  have hLies := liesIn_modulePath hGraph hRoot hAbove
  have hBelow := nameableBelow_modulePath hGraph hRoot hAbove
  rw [declaredIn_iff hGraph hRoot h hName hLies hBelow]
  simp only [Trait.TakesPlace, hName, Option.some.injEq, exists_eq_left',
    mem_listed_iff hGraph h]
  refine or_congr_right (and_congr_right fun _ => ?_)
  constructor
  · rintro ⟨other, found, hFound, -, hFoundModule⟩
    exact .inr ⟨found, ⟨other, hFound⟩, hFoundModule⟩
  · rintro (hOff | ⟨found, ⟨other, hFound⟩, hFoundModule⟩)
    · obtain ⟨way, -, hWay, -⟩ := exists_path_of_traitAt hAbove
      have hNew := hOff way hWay
      obtain ⟨own, -, hOwn⟩ := modulePath_of_edge hGraph hRoot hEdge hWay hNew hAbove hTrait
      rw [hOwn, ModulePath.last?_append, Option.some.injEq] at hName
      refine ⟨node, trait, hTrait, fun hTop => absurd ?_ hNew, hName ▸ hOwn⟩
      rw [hTop]
      exact List.mem_of_head? ((pathFromRoot_eq_ok_iff hGraph hRoot).1 hWay).isWalk.head?
    · refine ⟨other, found, hFound, fun hTop => ?_, hFoundModule⟩
      -- The root's module is too short to lie below another trait's.
      subst hTop
      obtain ⟨own, -, hOwn⟩ := modulePath_root hGraph hRoot hFound
      have hLength := two_le_length_modulePath hGraph hRoot hAbove
      have hSame := congrArg ModulePath.length (hFoundModule.symm.trans hOwn)
      rw [ModulePath.length_append, ModulePath.length_append, TraitNames.length_basePath] at hSame
      omega

/-- The root has a trait, if the projection succeeds. -/
theorem exists_traitAt_root (h : graph.project traits registry = (next, .ok listed)) :
    ∃ trait, graph.traitAt traits root = .ok trait := by
  obtain ⟨final, hFinal, -⟩ := exists_laidOut hGraph hRoot h
  exact hFinal.exists_trait root ((mem_breadthFirst hGraph.edgesInside).2 .refl)

end Root

/-- A projection into an empty registry declares every trait where it is to be exactly when no
edge leads to the root, and no node is on the path to a parent of it unless another trait has
just the module that is missing. -/
theorem declaresAll_iff (hGraph : graph.WellFormed)
    (h : graph.project traits .empty = (next, .ok listed)) :
    graph.DeclaresAll traits next ↔
      (∀ root, graph.root = some root → graph.parents root = []) ∧
      ∀ parent node above trait, (parent, node) ∈ graph.edges →
        graph.traitAt traits parent = .ok above → graph.traitAt traits node = .ok trait →
        (∀ path, graph.pathFromRoot parent = .ok path → node ∉ path) ∨
          ∃ other ∈ listed, other.TakesPlace trait above.modulePath := by
  refine and_congr ⟨fun hAll root hRoot => ?_, fun hNone root trait hRoot hTrait => ?_⟩ ?_
  · obtain ⟨trait, hTrait⟩ := exists_traitAt_root hGraph hRoot h
    have hDeclared := hAll root trait hRoot hTrait
    rw [declaredIn_basePath_iff hGraph hRoot h hTrait] at hDeclared
    exact (hDeclared.resolve_left (trait.not_declaredIn_empty _)).2
  · rw [declaredIn_basePath_iff hGraph hRoot h hTrait]
    exact .inr ⟨trait.freeIn_empty _, hNone root hRoot⟩
  · refine forall₄_congr fun parent node above trait =>
      forall₃_congr fun hEdge hAbove hTrait => ?_
    obtain ⟨root, hRoot⟩ := exists_root_of_traitAt hTrait
    rw [declaredIn_parent_iff hGraph hRoot h hEdge hAbove hTrait]
    simp only [Trait.not_declaredIn_empty, Trait.freeIn_empty, false_or, true_and]

/-- The traits that a projection lists are those of the nodes that the root leads to. If
nothing was declared there under its name, the root's trait is declared in the module that all
traits are in exactly when no edge leads to the root; and the trait of a node is declared in
the module of a parent exactly when the node is not on the path to the parent, so that the
edge closes no cycle, or another trait has just that module. -/
theorem Reached.project_declares_iff (hGraph : graph.Reached)
    (h : graph.project traits registry = (next, .ok listed)) :
    (∀ trait, trait ∈ listed ↔ ∃ node, graph.traitAt traits node = .ok trait) ∧
    (∀ root trait, graph.root = some root → graph.traitAt traits root = .ok trait →
      (trait.DeclaredIn next traits.basePath ↔ trait.DeclaredIn registry traits.basePath ∨
        trait.FreeIn registry traits.basePath ∧ graph.parents root = [])) ∧
    ∀ parent node above trait, (parent, node) ∈ graph.edges →
      graph.traitAt traits parent = .ok above → graph.traitAt traits node = .ok trait →
      (trait.DeclaredIn next above.modulePath ↔ trait.DeclaredIn registry above.modulePath ∨
        trait.FreeIn registry above.modulePath ∧
          ((∀ path, graph.pathFromRoot parent = .ok path → node ∉ path) ∨
            ∃ other ∈ listed, other.TakesPlace trait above.modulePath)) := by
  have hWellFormed := hGraph.wellFormed
  refine ⟨fun trait => mem_listed_iff hWellFormed h, fun root trait hRoot hTrait => ?_,
    fun parent node above trait hEdge hAbove hTrait => ?_⟩
  · exact declaredIn_basePath_iff hWellFormed hRoot h hTrait
  · obtain ⟨root, hRoot⟩ := exists_root_of_traitAt hTrait
    exact declaredIn_parent_iff hWellFormed hRoot h hEdge hAbove hTrait

/-- Two endpoints, of which the second hangs from the first. An edge set by hand leads back. -/
def turnedBack : EndpointGraph :=
  ⟨[⟨"/a", "a", .null⟩, ⟨"/a/b", "b", .null⟩], [(1, 0), (0, 1)],
    .ofList [("/a", 0), ("/a/b", 1)], some 0⟩

theorem reached_turnedBack : turnedBack.Reached := by
  have hBuild : build .smallLetters (Table.ofList [("/a", .null), ("/a/b", .null)]) =
      .ok { turnedBack with edges := [(0, 1)] } := by cbv
  have hParent : 1 ∈ List.range 2 := by decide
  have hChild : 0 ∈ List.range 2 := by decide
  exact (Grown.of_build hBuild).reached.link hParent hChild

theorem modulePaths_turnedBack :
    (turnedBack.project plainTraits .empty).2.map (List.map Trait.modulePath) =
      .ok [.ofCrate [["api"], ["a"]], .ofCrate [["api"], ["a"], ["b"]]] := by
  cbv

theorem traits_turnedBack :
    turnedBack.traitAt plainTraits 0 =
      .ok ⟨⟨.ofCrate [["api"], ["a"]], "A"⟩, .ofCrate [["api"], ["a"]], "/a", .null⟩ ∧
    turnedBack.traitAt plainTraits 1 = .ok ⟨⟨.ofCrate [["api"], ["a"], ["b"]], "B"⟩,
      .ofCrate [["api"], ["a"], ["b"]], "/a/b", .null⟩ := by
  constructor <;> cbv

/-- Only the second endpoint's trait is declared, in the module of the first. The first one's
is not declared at the top, because the root has a parent, and not in the second one's. -/
theorem turnedBack_declares :
    ∃ next listed top below, turnedBack.project plainTraits .empty = (next, .ok listed) ∧
      turnedBack.traitAt plainTraits 0 = .ok top ∧ turnedBack.traitAt plainTraits 1 = .ok below ∧
      below.DeclaredIn next top.modulePath ∧ ¬top.DeclaredIn next plainTraits.basePath ∧
      ¬top.DeclaredIn next below.modulePath := by
  obtain ⟨next, listed, hProject, hPaths⟩ := exists_of_map_snd_eq_ok modulePaths_turnedBack
  obtain ⟨hTop, hBelow⟩ := traits_turnedBack
  obtain ⟨-, hRoot, hParent⟩ := reached_turnedBack.project_declares_iff hProject
  have hFirst : turnedBack.pathFromRoot 0 = .ok [0] := by cbv
  have hSecond : turnedBack.pathFromRoot 1 = .ok [0, 1] := by cbv
  have hOff : ∀ path, turnedBack.pathFromRoot 0 = .ok path → 1 ∉ path := by
    intro path hPath
    rw [hFirst, Except.ok.injEq] at hPath
    subst hPath
    decide
  refine ⟨next, listed, _, _, hProject, hTop, hBelow, ?_, ?_, ?_⟩
  · refine (hParent 0 1 _ _ (by decide) hTop hBelow).2 (.inr ⟨Trait.freeIn_empty _ _, .inl hOff⟩)
  · rw [hRoot 0 _ rfl hTop]
    rintro (hKnown | ⟨-, hParents⟩)
    · exact Trait.not_declaredIn_empty _ _ hKnown
    · revert hParents
      decide
  · rw [hParent 1 0 _ _ (by decide) hBelow hTop]
    rintro (hKnown | ⟨-, hNew | ⟨other, hOther, name, hName, hModule⟩⟩)
    · exact Trait.not_declaredIn_empty _ _ hKnown
    · exact hNew _ hSecond (by decide)
    · have hListed := List.mem_map_of_mem (f := Trait.modulePath) hOther
      obtain rfl : ["a"] = name := Option.some.inj hName
      rw [hPaths, hModule] at hListed
      revert hListed
      decide

/-- Not every trait is declared where it is to be: the root's is not if an edge leads to the
root. -/
theorem not_all_declared :
    ¬∀ (graph : EndpointGraph) (traits : TraitNames) (next : Registry) (listed : List Trait),
      graph.Reached → graph.project traits .empty = (next, .ok listed) →
        graph.DeclaresAll traits next := by
  intro hAll
  obtain ⟨next, listed, hProject, -⟩ := exists_of_map_snd_eq_ok modulePaths_turnedBack
  have hDeclares := hAll _ _ _ _ reached_turnedBack hProject
  have hParents := ((declaresAll_iff reached_turnedBack.wellFormed hProject).1 hDeclares).1 0 rfl
  revert hParents
  decide

end EndpointGraph

end CratePlan
