import CratePlan.Plan
import CratePlan.Proofs.Endpoint.Forest
import CratePlan.Proofs.Endpoint.Naming
import CratePlan.Proofs.Endpoint.Projection

/-!
# The traits of a document

The paths of a document are added to a graph one by one, the graph is normalized, and
the tree that comes of it is projected. What additions build can always be normalized,
so a document is never refused because of the tree: what can fail is naming a segment
or writing a name.

## Main statements

* `EndpointGraph.Grown.exists_normalize`: what additions build becomes a tree.
* `ApiDocument.traits_cases`: what the traits of a document come from.
* `ApiDocument.traits_eq_ok`: the modules of the traits, and the declarations.
* `ApiDocument.exists_names_of_traits`: what names the traits.
-/

namespace CratePlan

open Outcome

namespace EndpointGraph

/-- What additions build can be normalized. It has no nodes, or it becomes a tree. -/
theorem Grown.exists_normalize {graph : EndpointGraph} (hGrown : graph.Grown) :
    ∃ settled, graph.normalize = (settled, .ok ()) ∧ settled.endpoints = graph.endpoints ∧
      settled.root = graph.root ∧
      ((graph.root = none ∧ graph.size = 0) ∨
        ∃ root, graph.root = some root ∧ settled.WellFormed ∧ settled.IsTree root) := by
  have hGraph := hGrown.reached.wellFormed
  refine ⟨graph.settle, hGrown.isForest.normalize_eq_ok hGraph, by simp, by simp, ?_⟩
  cases hRoot : graph.root with
  | none =>
      refine .inl ⟨rfl, Nat.eq_zero_of_not_pos fun hPos => ?_⟩
      simpa [hRoot] using hGraph.root_isSome hPos
  | some root => exact .inr ⟨root, rfl, hGraph.settle, hGrown.isForest.isTree_settle hGraph hRoot⟩

theorem build_ne_tree (names : SegmentNames) (paths : Table String Json) (fault : TreeFault) :
    build names paths ≠ .error (.tree fault) := by
  intro h
  obtain ⟨path, -, -, hError⟩ := build_eq_error h
  cases hError

end EndpointGraph

namespace ApiDocument

open EndpointGraph

/-- What the traits of a document come from: an endpoint without a name ends the work,
and otherwise a graph is built and normalized. It has no endpoints, or it has become a tree. -/
theorem traits_cases (document : ApiDocument) (names : TraitNames) (registry : Registry) :
    (∃ error, build names.names document.paths = .error error ∧
      document.traits names registry = (registry, .error error)) ∨
    ∃ graph settled, build names.names document.paths = .ok graph ∧
      graph.normalize = (settled, .ok ()) ∧ settled.endpoints = graph.endpoints ∧
      ((settled.endpoints = [] ∧ document.traits names registry = (registry, .ok [])) ∨
        ∃ root, settled.WellFormed ∧ settled.IsTree root ∧ settled.root = some root ∧
          document.traits names registry = settled.project names registry) := by
  unfold ApiDocument.traits
  cases hBuild : build names.names document.paths with
  | error error => exact .inl ⟨error, rfl, rfl⟩
  | ok graph =>
      obtain ⟨settled, hSettled, hSame, hSameRoot, hRoot⟩ :=
        (Grown.of_build hBuild).exists_normalize
      simp only [hSettled]
      refine .inr ⟨graph, settled, rfl, hSettled, hSame, ?_⟩
      rcases hRoot with ⟨hNone, hSize⟩ | ⟨root, hRoot, hGraph, hTree⟩
      · have hEmpty : settled.endpoints = [] := by
          rw [hSame]
          exact List.length_eq_zero_iff.1 hSize
        exact .inl ⟨hEmpty, by simp [project, hSameRoot, hNone]⟩
      · exact .inr ⟨root, hGraph, hTree, hSameRoot.trans hRoot, rfl⟩

/-- No document is refused for the tree's sake. -/
theorem traits_ne_tree (document : ApiDocument) (names : TraitNames) (registry : Registry)
    (fault : TreeFault) : (document.traits names registry).2 ≠ .error (.tree fault) := by
  rcases traits_cases document names registry with ⟨error, hBuild, hTraits⟩ |
    ⟨-, graph, -, -, -, ⟨-, hTraits⟩ | ⟨root, hGraph, hTree, hRoot, hTraits⟩⟩
  · rw [hTraits]
    intro h
    cases h
    exact build_ne_tree names.names document.paths fault hBuild
  · simp [hTraits]
  · rw [hTraits]
    exact hTree.project_ne_tree hGraph hRoot registry fault

/-- If every module on the way to a trait is that of another one, announcing each trait
in the module above it announces every step of every path. -/
private theorem exists_announces_iff {listed : List Trait} {declaration : Declaration}
    (hLength : ∀ trait ∈ listed, 2 ≤ trait.modulePath.length)
    (hAbove : ∀ trait ∈ listed, ∀ index, 1 ≤ index → index < trait.modulePath.length →
      ∃ above ∈ listed, above.modulePath = trait.modulePath.take (index + 1)) :
    (∃ trait ∈ listed, Announces declaration trait) ↔
      declaration.visibility = .named ∧
        ∃ trait ∈ listed, trait.modulePath.HasStep declaration.parent declaration.words := by
  constructor
  · rintro ⟨trait, hTrait, hPath, hNamed⟩
    obtain ⟨index, hLast, hParent, hName⟩ := ModulePath.append_eq_iff.1 hPath.symm
    have := hLength trait hTrait
    exact ⟨hNamed, trait, hTrait, index, by omega, hName, hParent⟩
  · rintro ⟨hNamed, trait, hTrait, index, hIndex, hName, hParent⟩
    have hLt : index < trait.modulePath.length := (List.getElem?_eq_some_iff.1 hName).1
    obtain ⟨above, hListed, hPath⟩ := hAbove trait hTrait index hIndex hLt
    refine ⟨above, hListed, ?_, hNamed⟩
    rw [hPath, hParent, ModulePath.take_append_getElem? hName]

/-- The traits of a document lie below the module that all traits are in, and each step
of their paths below that module is declared. -/
theorem traits_eq_ok {document : ApiDocument} {names : TraitNames} {registry next : Registry}
    {listed : List Trait} (h : document.traits names registry = (next, .ok listed)) :
    (∀ trait ∈ listed, trait.modulePath.LiesIn names.base.words) ∧
    ∃ declarations : List Declaration, next = declarations.foldl Registry.declare registry ∧
      ∀ declaration, declaration ∈ declarations ↔
        declaration.visibility = .named ∧
          ∃ trait ∈ listed, trait.modulePath.HasStep declaration.parent declaration.words := by
  rcases traits_cases document names registry with ⟨error, -, hTraits⟩ |
    ⟨-, graph, -, -, -, ⟨-, hTraits⟩ | ⟨root, hGraph, hTree, hRoot, hTraits⟩⟩
  · rw [hTraits] at h
    cases h
  · rw [hTraits] at h
    cases h
    exact ⟨by simp, [], rfl, by simp⟩
  · rw [hTraits] at h
    obtain ⟨hAll, hListed, declarations, hNext, hMem⟩ := hTree.project_eq_ok hGraph hRoot h
    refine ⟨fun trait hTrait => ?_, declarations, hNext, fun declaration => ?_⟩
    · obtain ⟨node, -, hAt⟩ := hListed trait hTrait
      exact liesIn_modulePath hGraph hRoot hAt
    · rw [hMem]
      refine exists_announces_iff (fun trait hTrait => ?_) fun trait hTrait index hIndex hLt => ?_
      · obtain ⟨node, -, hAt⟩ := hListed trait hTrait
        exact two_le_length_modulePath hGraph hRoot hAt
      · obtain ⟨node, hNode, hAt⟩ := hListed trait hTrait
        obtain ⟨walk, hWalk⟩ := Walk.of_leads (hTree.leads node hNode)
        exact hTree.exists_above hGraph hRoot hAll hWalk hAt hIndex hLt

/-- Each trait of a document is named after the last segment of a path, and each path has a
trait that is. -/
theorem exists_names_of_traits {document : ApiDocument} {names : TraitNames}
    {registry next : Registry} {listed : List Trait}
    (h : document.traits names registry = (next, .ok listed)) :
    (∀ trait ∈ listed, ∃ path ∈ document.paths.keys, ∃ above last,
      names.Names (Endpoint.ownSegment path) above last trait) ∧
    ∀ path ∈ document.paths.keys, ∃ trait ∈ listed, ∃ above last,
      names.Names (Endpoint.ownSegment path) above last trait := by
  rcases traits_cases document names registry with ⟨error, -, hTraits⟩ |
    ⟨graph, settled, hBuild, -, hSame, hCases⟩
  · rw [hTraits] at h
    cases h
  rw [← forall_summary_iff hBuild (p := fun segment => ∃ trait ∈ listed, ∃ above last,
    names.Names segment above last trait), ← hSame]
  rcases hCases with ⟨hEmpty, hTraits⟩ | ⟨root, hGraph, hTree, hRoot, hTraits⟩
  · rw [hTraits] at h
    cases h
    simp [hEmpty]
  · rw [hTraits] at h
    obtain ⟨hAll, hListed, -⟩ := hTree.project_eq_ok hGraph hRoot h
    constructor
    · intro trait hTrait
      obtain ⟨node, -, hAt⟩ := hListed trait hTrait
      obtain ⟨endpoint, above, last, hEndpoint, hNames⟩ := exists_names hGraph hRoot hAt
      have hMem : endpoint ∈ graph.endpoints := hSame ▸ List.mem_of_getElem? hEndpoint
      obtain ⟨path, hPath, hOwn⟩ := exists_key_of_mem_endpoints hBuild hMem
      exact ⟨path, hPath, above, last, hOwn ▸ hNames⟩
    · intro endpoint hMem
      obtain ⟨node, hNode⟩ := List.mem_iff_getElem?.1 hMem
      have hLt : node < settled.size := (List.getElem?_eq_some_iff.1 hNode).1
      obtain ⟨trait, hTrait, hAt⟩ := hAll node hLt
      obtain ⟨found, above, last, hFound, hNames⟩ := exists_names hGraph hRoot hAt
      obtain rfl : endpoint = found := Option.some.inj (hNode.symm.trans hFound)
      exact ⟨trait, hTrait, above, last, hNames⟩

/-- Whatever is added to a graph, in whatever order, it can be normalized and is a tree
afterwards, if it has a root at all. The paths of a document are only added, so that no
document is refused for the tree's sake. -/
theorem tree_of_additions :
    (∀ graph : EndpointGraph, graph.Grown → ∃ settled, graph.normalize = (settled, .ok ()) ∧
      settled.endpoints = graph.endpoints ∧ settled.root = graph.root ∧
      ((settled.root = none ∧ settled.size = 0) ∨
        ∃ root, settled.root = some root ∧ settled.IsTree root)) ∧
    (∀ (names : SegmentNames) (paths : Table String Json) (graph : EndpointGraph),
      build names paths = .ok graph → graph.Grown) ∧
    ∀ (document : ApiDocument) (names : TraitNames) (registry : Registry) (fault : TreeFault),
      (document.traits names registry).2 ≠ .error (.tree fault) := by
  refine ⟨fun graph hGrown => ?_, fun _ _ _ hBuild => .of_build hBuild, traits_ne_tree⟩
  obtain ⟨settled, hSettled, hSame, hSameRoot, hRoot⟩ := hGrown.exists_normalize
  refine ⟨settled, hSettled, hSame, hSameRoot, ?_⟩
  rcases hRoot with ⟨hNone, hSize⟩ | ⟨root, hRoot, -, hTree⟩
  · exact .inl ⟨hSameRoot.trans hNone, by rw [size, hSame]; exact hSize⟩
  · exact .inr ⟨root, hSameRoot.trans hRoot, hTree⟩

/-- An endpoint that is added before the one that it lies below, and a third one. -/
def upsideDown : EndpointGraph :=
  ⟨[⟨"/a/b", "b", .null⟩, ⟨"/a", "a", .null⟩, ⟨"/c", "c", .null⟩], [],
    .ofList [("/a/b", 0), ("/a", 1), ("/c", 2)], some 0⟩

theorem grown_upsideDown : upsideDown.Grown := by
  have hFirst : EndpointGraph.empty.add .smallLetters "/a/b" .null =
      .ok (⟨[⟨"/a/b", "b", .null⟩], [], .ofList [("/a/b", 0)], some 0⟩, 0) := by cbv
  have hSecond : add ⟨[⟨"/a/b", "b", .null⟩], [], .ofList [("/a/b", 0)], some 0⟩ .smallLetters
      "/a" .null = .ok (⟨[⟨"/a/b", "b", .null⟩, ⟨"/a", "a", .null⟩], [],
        .ofList [("/a/b", 0), ("/a", 1)], some 0⟩, 1) := by cbv
  have hThird : add ⟨[⟨"/a/b", "b", .null⟩, ⟨"/a", "a", .null⟩], [],
      .ofList [("/a/b", 0), ("/a", 1)], some 0⟩ .smallLetters "/c" .null =
      .ok (upsideDown, 2) := by cbv
  exact ((Grown.empty.add hFirst).add hSecond).add hThird

theorem upsideDown_normalizes :
    ∃ settled, upsideDown.normalize = (settled, .ok ()) ∧ settled.IsTree 0 := by
  obtain ⟨settled, hSettled, -, hSameRoot, hRoot⟩ := tree_of_additions.1 _ grown_upsideDown
  refine ⟨settled, hSettled, ?_⟩
  rcases hRoot with ⟨hNone, -⟩ | ⟨root, hRoot, hTree⟩
  · rw [hSameRoot] at hNone
    cases hNone
  · rw [hSameRoot] at hRoot
    cases hRoot
    exact hTree

end ApiDocument

end CratePlan
