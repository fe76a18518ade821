import CratePlan.Proofs.Endpoint.SegmentName
import CratePlan.Proofs.Plan.Listing

/-!
# Traits that share a module

The module of a trait is named by the last segments of the endpoints on the way from the
root, and only by these. What stands between two endpoints in a path and is no endpoint
itself leaves no trace, and neither do braces, and letters of either size are one. So two
endpoints may get one module.

It does not take much to find out whether this happens. In a tree a module is followed
back to the root name by name, so two endpoints can share a module only if on the way
back two endpoints below one parent are called alike.

## Main statements

* `IsTree.eq_of_modulePath_eq`: in a tree whose siblings are told apart, modules are too.
* `traits_nodup_modulePath_iff`: when the traits of a document have modules of their own.
* `not_all_nodup_modulePath`: a document whose traits share a module.
-/

namespace CratePlan

open Outcome

namespace EndpointGraph

variable {graph settled : EndpointGraph} {root : Nat} {traits : TraitNames}

/-- No two endpoints that hang from one endpoint are called by the same words. -/
def SiblingsApart (graph : EndpointGraph) (traits : TraitNames) : Prop :=
  ∀ parent child other name otherName, (parent, child) ∈ graph.edges →
    (parent, other) ∈ graph.edges → graph.Called traits child name →
      graph.Called traits other otherName → name.words = otherName.words → child = other

namespace IsTree

variable (hGraph : graph.WellFormed) (hTree : graph.IsTree root) (hRoot : graph.root = some root)
include hGraph hTree hRoot

/-- A node below another one does not share the module of the root, which is shorter. -/
theorem modulePath_ne_root {parent child : Nat} {top above trait : Trait}
    (hEdge : (parent, child) ∈ graph.edges) (hTop : graph.traitAt traits root = .ok top)
    (hAbove : graph.traitAt traits parent = .ok above)
    (hTrait : graph.traitAt traits child = .ok trait) : top.modulePath ≠ trait.modulePath := by
  intro hSame
  have hLength := two_le_length_modulePath hGraph hRoot hAbove
  obtain ⟨name, -, hTopPath⟩ := modulePath_root hGraph hRoot hTop
  obtain ⟨identifier, -, hPath⟩ := hTree.modulePath_child hGraph hRoot hEdge hAbove hTrait
  rw [hTopPath, hPath] at hSame
  have hSameLength := congrArg ModulePath.length hSame
  rw [ModulePath.length_append, ModulePath.length_append, TraitNames.length_basePath] at hSameLength
  omega

/-- If siblings are told apart, nodes with one module are the same: their parents have
one module too, and so on up to the root. -/
theorem eq_of_modulePath_eq (hApart : graph.SiblingsApart traits)
    (hAll : ∀ node < graph.size, ∃ trait, graph.traitAt traits node = .ok trait)
    {walk : List Nat} {node : Nat} (hWalk : graph.Walk root walk node) :
    ∀ {other : Nat} {trait otherTrait : Trait}, graph.traitAt traits node = .ok trait →
      graph.traitAt traits other = .ok otherTrait →
        trait.modulePath = otherTrait.modulePath → node = other := by
  have hParent : ∀ {node trait}, graph.traitAt traits node = .ok trait → node ≠ root →
      ∃ parent above, (parent, node) ∈ graph.edges ∧ graph.traitAt traits parent = .ok above := by
    intro node trait hTrait hOther
    obtain ⟨parent, hParent⟩ := hTree.parents_other node (lt_size_of_traitAt hTrait) hOther
    have hEdge : (parent, node) ∈ graph.edges := mem_parents.1 (by simp [hParent])
    obtain ⟨above, hAbove⟩ := hAll parent (hGraph.edgesInside _ hEdge).1
    exact ⟨parent, above, hEdge, hAbove⟩
  induction hWalk with
  | here =>
      intro other trait otherTrait hTrait hOtherTrait hSame
      by_contra hOther
      obtain ⟨parent, above, hEdge, hAbove⟩ := hParent hOtherTrait (Ne.symm hOther)
      exact hTree.modulePath_ne_root hGraph hRoot hEdge hTrait hAbove hOtherTrait hSame
  | @step walk parent child _ hEdge ih =>
      intro other trait otherTrait hTrait hOtherTrait hSame
      obtain ⟨above, hAbove⟩ := hAll parent (hGraph.edgesInside _ hEdge).1
      by_cases hOther : other = root
      · subst hOther
        exact absurd hSame.symm
          (hTree.modulePath_ne_root hGraph hRoot hEdge hOtherTrait hAbove hTrait)
      · obtain ⟨otherParent, otherAbove, hOtherEdge, hOtherAbove⟩ := hParent hOtherTrait hOther
        obtain ⟨name, hCalled, hPath⟩ := hTree.modulePath_child hGraph hRoot hEdge hAbove hTrait
        obtain ⟨otherName, hOtherCalled, hOtherPath⟩ :=
          hTree.modulePath_child hGraph hRoot hOtherEdge hOtherAbove hOtherTrait
        rw [hPath, hOtherPath, ModulePath.append_inj] at hSame
        obtain rfl : parent = otherParent := ih hAbove hOtherAbove hSame.1
        exact hApart _ _ _ _ _ hEdge hOtherEdge hCalled hOtherCalled hSame.2

/-- If no two nodes share a module, siblings are told apart. -/
theorem siblingsApart_of_modulePath
    (hAll : ∀ node < graph.size, ∃ trait, graph.traitAt traits node = .ok trait)
    (hModules : ∀ node other trait otherTrait, graph.traitAt traits node = .ok trait →
      graph.traitAt traits other = .ok otherTrait → trait.modulePath = otherTrait.modulePath →
        node = other) : graph.SiblingsApart traits := by
  intro parent child other name otherName hEdge hOtherEdge hCalled hOtherCalled hWords
  obtain ⟨hParent, hChild⟩ := hGraph.edgesInside _ hEdge
  obtain ⟨above, hAbove⟩ := hAll parent hParent
  obtain ⟨trait, hTrait⟩ := hAll child hChild
  obtain ⟨otherTrait, hOtherTrait⟩ := hAll other (hGraph.edgesInside _ hOtherEdge).2
  obtain ⟨found, hFound, hPath⟩ := hTree.modulePath_child hGraph hRoot hEdge hAbove hTrait
  obtain ⟨otherFound, hOtherFound, hOtherPath⟩ :=
    hTree.modulePath_child hGraph hRoot hOtherEdge hAbove hOtherTrait
  refine hModules _ _ _ _ hTrait hOtherTrait ?_
  rw [hPath, hOtherPath, hFound.unique hCalled, hOtherFound.unique hOtherCalled, hWords]

end IsTree

/-- When the traits of what additions have built have modules of their own. -/
theorem Grown.nodup_modulePath_iff (hGrown : graph.Grown)
    (hNormalize : graph.normalize = (settled, .ok ())) {registry next : Registry}
    {listed : List Trait} (hProject : settled.project traits registry = (next, .ok listed)) :
    (listed.map Trait.modulePath).Nodup ↔ settled.SiblingsApart traits := by
  obtain ⟨order, hOrder, hListed, -⟩ := hGrown.exists_order hNormalize hProject
  have hNodup : order.Nodup := hOrder.perm.nodup_iff.2 List.nodup_range
  have hMem : ∀ node, node ∈ order ↔ node < settled.size :=
    fun node => hOrder.perm.mem_iff.trans mem_nodes
  rw [nodup_map_iff_of_forall₂ hListed hNodup]
  obtain ⟨found, hFound, hSame, hSameRoot, hCases⟩ := hGrown.exists_normalize
  obtain rfl : settled = found := congrArg Prod.fst (hNormalize.symm.trans hFound)
  rcases hCases with ⟨-, hSize⟩ | ⟨root, hRoot, hGraph, hTree⟩
  · have hEmpty : settled.size = 0 := by rw [size, hSame]; exact hSize
    have hSettled : graph.settle = settled := congrArg Prod.fst hNormalize
    have hInside : settled.EdgesInside :=
      hSettled ▸ hGrown.reached.wellFormed.settle.edgesInside
    refine iff_of_true (fun node hNode => ?_) fun parent child other _ _ hEdge => ?_
    · exact absurd ((hMem node).1 hNode) (by omega)
    · exact absurd (hInside _ hEdge).1 (by omega)
  · have hRoot : settled.root = some root := hSameRoot.trans hRoot
    have hAll : ∀ node < settled.size, ∃ trait, settled.traitAt traits node = .ok trait := by
      intro node hNode
      obtain ⟨trait, -, hTrait⟩ := exists_right_of_forall₂ hListed ((hMem node).2 hNode)
      exact ⟨trait, hTrait⟩
    constructor
    · intro hModules
      refine hTree.siblingsApart_of_modulePath hGraph hRoot hAll ?_
      intro node other trait otherTrait hTrait hOtherTrait
      exact hModules node ((hMem node).2 (lt_size_of_traitAt hTrait)) other
        ((hMem other).2 (lt_size_of_traitAt hOtherTrait)) trait otherTrait hTrait hOtherTrait
    · intro hApart node hNode other _ trait otherTrait hTrait hOtherTrait hPath
      obtain ⟨walk, hWalk⟩ := Walk.of_leads (hTree.leads node ((hMem node).1 hNode))
      exact hTree.eq_of_modulePath_eq hGraph hRoot hApart hAll hWalk hTrait hOtherTrait hPath

end EndpointGraph

/-! ## The usual settings -/

/-- The names of traits in the usual settings. -/
def TraitNames.usual : TraitNames :=
  ⟨.ofLabel "api", .usual, TraitNames.renamesOf (Table.ofList [("V1", "ServiceRoot")])⟩

theorem TraitNames.ofSettings_default : TraitNames.ofSettings .default = .ok .usual := by
  simp only [TraitNames.ofSettings, SegmentNames.ofSettings_default]
  rfl

namespace ApiDocument

open EndpointGraph

/-- The traits of a document have modules of their own exactly when, in the tree of its
endpoints, no two that hang from one are called by the same words. -/
theorem traits_nodup_modulePath_iff {document : ApiDocument} {names : TraitNames}
    {registry next : Registry} {listed : List Trait}
    (hTraits : document.traits names registry = (next, .ok listed)) :
    ∃ graph settled, build names.names document.paths = .ok graph ∧
      graph.normalize = (settled, .ok ()) ∧
      ((listed.map Trait.modulePath).Nodup ↔ settled.SiblingsApart names) := by
  unfold ApiDocument.traits at hTraits
  cases hBuild : build names.names document.paths with
  | error error => simp [hBuild] at hTraits
  | ok graph =>
      have hGrown := Grown.of_build hBuild
      obtain ⟨settled, hNormalize, -⟩ := hGrown.exists_normalize
      simp only [hBuild, hNormalize] at hTraits
      exact ⟨graph, settled, rfl, hNormalize, hGrown.nodup_modulePath_iff hNormalize hTraits⟩

/-- A document of paths without operations. -/
def ofPaths (paths : List String) : ApiDocument :=
  ⟨Table.empty, Table.ofList (paths.map fun path => (path, .null))⟩

theorem modulePaths_threeTops :
    ((ofPaths ["/a", "/b", "/bc"]).traits .usual .empty).2.map (List.map Trait.modulePath) =
      .ok [.ofCrate [["api"], ["a"]], .ofCrate [["api"], ["a"], ["b"]],
        .ofCrate [["api"], ["a"], ["b"], ["bc"]]] := by
  cbv

theorem threeTops_siblingsApart :
    ∃ next listed graph settled,
      (ofPaths ["/a", "/b", "/bc"]).traits .usual .empty = (next, .ok listed) ∧
      build .usual (ofPaths ["/a", "/b", "/bc"]).paths = .ok graph ∧
      graph.normalize = (settled, .ok ()) ∧ (listed.map Trait.modulePath).Nodup ∧
      settled.SiblingsApart .usual := by
  obtain ⟨next, listed, hTraits, hPaths⟩ := exists_of_map_snd_eq_ok modulePaths_threeTops
  obtain ⟨graph, settled, hBuild, hNormalize, hApart⟩ := traits_nodup_modulePath_iff hTraits
  have hNodup : (listed.map Trait.modulePath).Nodup := by
    rw [hPaths]
    decide
  exact ⟨next, listed, graph, settled, hTraits, hBuild, hNormalize, hNodup, hApart.1 hNodup⟩

theorem modulePaths_lostSegment :
    ((ofPaths ["/a", "/b/x", "/x"]).traits .usual .empty).2.map (List.map Trait.modulePath) =
      .ok [.ofCrate [["api"], ["a"]], .ofCrate [["api"], ["a"], ["x"]],
        .ofCrate [["api"], ["a"], ["x"]]] := by
  cbv

/-- Not all traits of a document have modules of their own: what stands before the last
segment of a path is lost where no endpoint stands there. -/
theorem not_all_nodup_modulePath :
    ¬∀ (settings : Settings) (names : TraitNames) (document : ApiDocument)
      (registry next : Registry) (listed : List Trait),
      TraitNames.ofSettings settings = .ok names →
        document.traits names registry = (next, .ok listed) →
          (listed.map Trait.modulePath).Nodup := by
  intro hAll
  obtain ⟨next, listed, hTraits, hPaths⟩ := exists_of_map_snd_eq_ok modulePaths_lostSegment
  have hNodup := hAll _ _ _ _ _ _ TraitNames.ofSettings_default hTraits
  rw [hPaths] at hNodup
  revert hNodup
  decide

end ApiDocument

end CratePlan
