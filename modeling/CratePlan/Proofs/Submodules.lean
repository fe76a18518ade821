import CratePlan.Proofs.Declaration
import CratePlan.Proofs.Outcome
import CratePlan.Proofs.TableEntries
import Mathlib

/-!
# The order of submodules

A module is told to declare submodules, one after the other, and writes them down in an order
of its own: the named ones come first, and within a visibility they stand in the order of their
names. The order in which they were added shows in one place only. A name that is added twice
keeps the visibility that it was added with first. So a row of additions that asks for each name
with one visibility may come in any order.

A name is added in some spelling, and two spellings with the same words are one name.

## Main statements

* `Module.submodules_eq`: modules that answer alike write down the same.
* `Module.find?_ofAdditions`: the first addition of a name decides.
* `Module.pairwise_precedes_submodules`: the order in which a module writes its submodules down.
* `Module.submodules_eq_mergeSort`: one sort, by visibility and then by name, gives the same.
* `Module.submodules_in_order`: what is written down after a row of additions.
-/

namespace CratePlan

open Outcome

/-! ## Sorted names -/

namespace Words

theorem order_ne_gt_iff {a b : Words} : (a.order b != .gt) = true ↔ a ≤ b := by
  rw [le_iff_lt_or_eq, order, compareOfLessAndEq]
  split
  case isTrue hLess => simp [hLess]
  case isFalse hNot => split <;> simp_all

theorem order_eq_lt_iff {a b : Words} : a.order b = .lt ↔ a < b := by
  rw [order, compareOfLessAndEq]
  split
  case isTrue hLess => simp [hLess]
  case isFalse hNot => split <;> simp_all

/-- Sorted names are in order. -/
theorem pairwise_le_mergeSort (names : List Words) :
    (names.mergeSort fun a b => a.order b != .gt).Pairwise (· ≤ ·) := by
  have hTrans : ∀ a b c : Words, (a.order b != .gt) = true → (b.order c != .gt) = true →
      (a.order c != .gt) = true := by
    intro a b c hFirst hSecond
    rw [order_ne_gt_iff] at hFirst hSecond ⊢
    exact le_trans hFirst hSecond
  have hTotal : ∀ a b : Words, (a.order b != .gt || b.order a != .gt) = true := by
    intro a b
    rw [Bool.or_eq_true, order_ne_gt_iff, order_ne_gt_iff]
    exact le_total a b
  exact (List.pairwise_mergeSort hTrans hTotal names).imp order_ne_gt_iff.1

/-- Sorted names do not show the order in which they came. -/
theorem mergeSort_eq_of_perm {names others : List Words} (h : names.Perm others) :
    names.mergeSort (fun a b => a.order b != .gt) =
      others.mergeSort fun a b => a.order b != .gt := by
  apply List.Perm.eq_of_pairwise (fun _ _ _ _ => le_antisymm) (pairwise_le_mergeSort names)
    (pairwise_le_mergeSort others)
  exact (List.mergeSort_perm ..).trans (h.trans (List.mergeSort_perm ..).symm)

/-- Names that are all different are sorted without a tie. -/
theorem pairwise_lt_mergeSort {names : List Words} (h : names.Nodup) :
    (names.mergeSort fun a b => a.order b != .gt).Pairwise fun a b => a.order b = .lt := by
  have hDistinct : (names.mergeSort fun a b => a.order b != .gt).Nodup :=
    (List.mergeSort_perm ..).nodup_iff.2 h
  apply (List.pairwise_and_iff.2 ⟨pairwise_le_mergeSort names, hDistinct⟩).imp
  intro a b hBoth
  exact order_eq_lt_iff.2 (lt_of_le_of_ne hBoth.1 hBoth.2)

end Words

/-! ## The order in which submodules are written down -/

/-- Named submodules come before anonymous ones, and those of one visibility in the order of
their names. -/
def Submodule.Precedes (first second : Submodule) : Prop :=
  first.visibility = .named ∧ second.visibility = .anonymous ∨
    first.visibility = second.visibility ∧ first.words.order second.words = .lt

/-- Submodules are compared by their visibilities first, and by their names if these tie. -/
def Submodule.order (first second : Submodule) : Ordering :=
  match first.visibility, second.visibility with
  | .named, .anonymous => .lt
  | .anonymous, .named => .gt
  | .named, .named | .anonymous, .anonymous => first.words.order second.words

namespace Submodule

theorem order_eq_lt_iff {first second : Submodule} :
    first.order second = .lt ↔ first.Precedes second := by
  obtain ⟨name, visibility⟩ := first
  obtain ⟨other, otherVisibility⟩ := second
  cases visibility <;> cases otherVisibility <;> simp [order, Precedes]

theorem Precedes.trans {first second third : Submodule} (hFirst : first.Precedes second)
    (hSecond : second.Precedes third) : first.Precedes third := by
  unfold Precedes at hFirst hSecond ⊢
  simp only [Words.order_eq_lt_iff] at hFirst hSecond ⊢
  rcases hFirst with ⟨hNamed, hAnonymous⟩ | ⟨hTie, hLess⟩
  · rcases hSecond with ⟨hAgain, -⟩ | ⟨hTie, -⟩
    · rw [hAnonymous] at hAgain
      contradiction
    · exact .inl ⟨hNamed, hTie ▸ hAnonymous⟩
  · rcases hSecond with ⟨hNamed, hAnonymous⟩ | ⟨hNextTie, hNextLess⟩
    · exact .inl ⟨hTie ▸ hNamed, hAnonymous⟩
    · exact .inr ⟨hTie.trans hNextTie, hLess.trans hNextLess⟩

theorem Precedes.ne {first second : Submodule} (h : first.Precedes second) : first ≠ second := by
  rintro rfl
  rcases h with ⟨hNamed, hAnonymous⟩ | ⟨-, hLess⟩
  · rw [hNamed] at hAnonymous
    contradiction
  · exact lt_irrefl _ (Words.order_eq_lt_iff.1 hLess)

/-- The order compares any two: only submodules that are the same tie. -/
theorem order_ne_gt_iff {first second : Submodule} :
    (first.order second != .gt) = true ↔ first.Precedes second ∨ first = second := by
  obtain ⟨name, visibility⟩ := first
  obtain ⟨other, otherVisibility⟩ := second
  have hNames : (name.order other != .gt) = true ↔ name.order other = .lt ∨ name = other := by
    rw [Words.order_ne_gt_iff, Words.order_eq_lt_iff, le_iff_lt_or_eq]
  cases visibility <;> cases otherVisibility <;> simp [order, Precedes, hNames]

theorem order_total (first second : Submodule) :
    (first.order second != .gt || second.order first != .gt) = true := by
  obtain ⟨name, visibility⟩ := first
  obtain ⟨other, otherVisibility⟩ := second
  have hNames : (name.order other != .gt || other.order name != .gt) = true := by
    rw [Bool.or_eq_true, Words.order_ne_gt_iff, Words.order_ne_gt_iff]
    exact le_total name other
  cases visibility <;> cases otherVisibility
  case named.named => exact hNames
  case anonymous.anonymous => exact hNames
  all_goals rfl

theorem order_trans (first second third : Submodule) (hFirst : (first.order second != .gt) = true)
    (hSecond : (second.order third != .gt) = true) : (first.order third != .gt) = true := by
  rw [order_ne_gt_iff] at hFirst hSecond ⊢
  rcases hFirst with hFirst | rfl
  · rcases hSecond with hSecond | rfl
    · exact .inl (hFirst.trans hSecond)
    · exact .inl hFirst
  · exact hSecond

end Submodule

namespace Module

/-- Modules that answer alike write down the same submodules. -/
theorem submodules_eq {module other : Module}
    (h : ∀ name, module.declared.find? name = other.declared.find? name) :
    module.submodules = other.submodules := by
  have hPerm := Table.perm_entries_iff.2 h
  have hNames : ∀ visibility, module.namesWith visibility = other.namesWith visibility :=
    fun visibility => Words.mergeSort_eq_of_perm ((hPerm.filter _).map Prod.fst)
  rw [submodules, submodules, hNames, hNames]

/-- The names with one visibility are in order, without a tie. -/
theorem pairwise_lt_namesWith (module : Module) (visibility : Visibility) :
    (module.namesWith visibility).Pairwise fun a b => a.order b = .lt := by
  apply Words.pairwise_lt_mergeSort
  exact (List.filter_sublist.map Prod.fst).nodup module.declared.distinct

/-- A module writes its submodules down in order. -/
theorem pairwise_precedes_submodules (module : Module) :
    module.submodules.Pairwise Submodule.Precedes := by
  have hGroup : ∀ visibility, ((module.namesWith visibility).map
      fun name => (⟨name, visibility⟩ : Submodule)).Pairwise Submodule.Precedes := by
    intro visibility
    rw [List.pairwise_map]
    exact (module.pairwise_lt_namesWith visibility).imp fun hLess => .inr ⟨rfl, hLess⟩
  refine List.pairwise_append.2 ⟨hGroup .named, hGroup .anonymous, ?_⟩
  intro first hFirst second hSecond
  obtain ⟨name, -, rfl⟩ := List.mem_map.1 hFirst
  obtain ⟨other, -, rfl⟩ := List.mem_map.1 hSecond
  exact .inl ⟨rfl, rfl⟩

/-- The two groups, each sorted by itself, are what one sort of all that is declared gives. -/
theorem submodules_eq_mergeSort (module : Module) :
    module.submodules =
      (module.declared.entries.map fun entry => ⟨entry.1, entry.2⟩).mergeSort
        fun first second : Submodule => first.order second != .gt := by
  have hSorted : module.submodules.Pairwise
      fun first second => (first.order second != .gt) = true :=
    module.pairwise_precedes_submodules.imp fun h => Submodule.order_ne_gt_iff.2 (.inl h)
  apply List.Perm.eq_of_pairwise _ hSorted
    (List.pairwise_mergeSort Submodule.order_trans Submodule.order_total _)
    (module.perm_submodules.trans (List.mergeSort_perm ..).symm)
  intro first second _ _ hFirst hSecond
  rcases Submodule.order_ne_gt_iff.1 hFirst with hLess | hSame
  · rcases Submodule.order_ne_gt_iff.1 hSecond with hBack | hSame
    · exact absurd rfl (hLess.trans hBack).ne
    · exact hSame.symm
  · exact hSame

/-! ## Additions -/

/-- A name, in some spelling, that is to be declared with a visibility. -/
structure Addition where
  identifier : Identifier
  visibility : Visibility

/-- The words of an addition, which are the name that it is about. -/
def Addition.words (addition : Addition) : Words := addition.identifier.words

/-- Declare the name of an addition. -/
def add (module : Module) (addition : Addition) : Module :=
  module.declare addition.words addition.visibility

/-- The module that a row of additions leaves at a path. -/
def ofAdditions (path : ModulePath) (additions : List Addition) : Module :=
  additions.foldl add (empty path)

/-- What an addition says about a name. -/
def Addition.visibility? (addition : Addition) (name : Words) : Option Visibility :=
  if addition.words = name then some addition.visibility else none

/-- The visibility that a name is first added with. -/
def firstVisibility? (additions : List Addition) (name : Words) : Option Visibility :=
  additions.findSome? (·.visibility? name)

/-- No name is added with both visibilities. -/
def Unanimous (additions : List Addition) : Prop :=
  ∀ first ∈ additions, ∀ second ∈ additions,
    first.words = second.words → first.visibility = second.visibility

theorem Addition.visibility?_eq_some_iff {addition : Addition} {name : Words}
    {visibility : Visibility} :
    addition.visibility? name = some visibility ↔
      addition.words = name ∧ addition.visibility = visibility := by
  unfold visibility?
  by_cases hName : addition.words = name <;> simp [hName]

/-- What is said about one name is the same wherever it is said. -/
theorem Unanimous.agree {additions : List Addition} (h : Unanimous additions) (name : Words) :
    Agree (fun addition : Addition => addition.visibility? name) additions := by
  intro first hFirst second hSecond visibility other hOwn hOther
  obtain ⟨hName, hVisibility⟩ := Addition.visibility?_eq_some_iff.1 hOwn
  obtain ⟨hOtherName, hOtherVisibility⟩ := Addition.visibility?_eq_some_iff.1 hOther
  rw [← hVisibility, ← hOtherVisibility]
  exact h first hFirst second hSecond (hName.trans hOtherName.symm)

/-- An addition decides on its name if nothing has before. -/
theorem find?_add (module : Module) (addition : Addition) (name : Words) :
    (module.add addition).declared.find? name =
      (module.declared.find? name).or (addition.visibility? name) := by
  rw [add, find?_declare, Addition.visibility?]
  by_cases hName : name = addition.words
  · subst hName
    cases hKnown : module.declared.find? addition.words <;> simp
  · simp [hName, Ne.symm hName]

/-- Of a row of additions the first of a name decides, if nothing has before. -/
theorem find?_foldl_add {additions : List Addition} (name : Words) :
    ∀ {module : Module}, (additions.foldl add module).declared.find? name =
      (module.declared.find? name).or (firstVisibility? additions name) := by
  induction additions with
  | nil =>
      intro module
      simp [firstVisibility?]
  | cons first rest ih =>
      intro module
      have hSplit : firstVisibility? (first :: rest) name =
          (first.visibility? name).or (firstVisibility? rest name) := by
        rw [firstVisibility?, List.findSome?_cons]
        cases first.visibility? name <;> rfl
      rw [List.foldl_cons, ih, find?_add, hSplit, Option.or_assoc]

/-- The first addition of a name decides how it is declared. -/
theorem find?_ofAdditions (path : ModulePath) (additions : List Addition) (name : Words) :
    (ofAdditions path additions).declared.find? name = firstVisibility? additions name := by
  show (additions.foldl add (empty path)).declared.find? name = firstVisibility? additions name
  rw [find?_foldl_add]
  rfl

/-- A name is declared when it is added. -/
theorem mem_keys_ofAdditions {path : ModulePath} {additions : List Addition} {name : Words} :
    name ∈ (ofAdditions path additions).declared.keys ↔ name ∈ additions.map Addition.words := by
  have hUnknown : name ∉ (ofAdditions path additions).declared.keys ↔
      name ∉ additions.map Addition.words := by
    rw [← Table.find?_eq_none_iff, find?_ofAdditions, firstVisibility?,
      List.findSome?_eq_none_iff]
    simp [Addition.visibility?]
  exact not_iff_not.1 hUnknown

/-- After a row of additions each name that was added is written down once, with the visibility
that it was added with first. The named ones come before the anonymous ones, and those of one
visibility are strictly increasing. If no name is added with both visibilities, the additions
may come in any order. -/
theorem submodules_in_order (path : ModulePath) (additions : List Addition) :
    (∀ name, ((ofAdditions path additions).submodules.map Submodule.words).count name =
      if name ∈ additions.map Addition.words then 1 else 0) ∧
    (∀ submodule ∈ (ofAdditions path additions).submodules,
      firstVisibility? additions submodule.words = some submodule.visibility) ∧
    (ofAdditions path additions).submodules.Pairwise Submodule.Precedes ∧
    ∀ others, additions.Perm others → Unanimous additions →
      (ofAdditions path others).submodules = (ofAdditions path additions).submodules := by
  have hKeys := (ofAdditions path additions).map_words_submodules
  refine ⟨?_, ?_, pairwise_precedes_submodules _, ?_⟩
  · intro name
    have hDistinct : (ofAdditions path additions).declared.keys.Nodup :=
      (ofAdditions path additions).declared.distinct
    rw [hKeys.count_eq, hDistinct.count]
    simp only [mem_keys_ofAdditions]
  · intro submodule hMem
    rw [← find?_ofAdditions path]
    exact mem_submodules.1 hMem
  · intro others hPerm hUnanimous
    apply submodules_eq
    intro name
    rw [find?_ofAdditions, find?_ofAdditions]
    exact findSome?_eq_of_perm hPerm (hUnanimous.agree name)

/-- Four additions of three names, of which one is spelled in two ways. -/
def fourAdditions : List Addition :=
  [⟨.ofLabel "PowerState", .anonymous⟩, ⟨.ofLabel "v1_0_0", .named⟩, ⟨.ofLabel "a", .named⟩,
    ⟨.ofLabel "power_state", .anonymous⟩]

theorem unanimous_fourAdditions : Unanimous fourAdditions := by
  unfold Unanimous
  decide +kernel

theorem fourAdditions_in_order :
    (ofAdditions .root fourAdditions).submodules =
        [⟨["a"], .named⟩, ⟨["v1", "0", "0"], .named⟩, ⟨["power", "state"], .anonymous⟩] ∧
      fourAdditions.Perm fourAdditions.reverse ∧ Unanimous fourAdditions ∧
      (ofAdditions .root fourAdditions.reverse).submodules =
        (ofAdditions .root fourAdditions).submodules := by
  have hPerm : fourAdditions.Perm fourAdditions.reverse := (List.reverse_perm _).symm
  obtain ⟨-, -, -, hAnyOrder⟩ := submodules_in_order .root fourAdditions
  exact ⟨by cbv, hPerm, unanimous_fourAdditions,
    hAnyOrder _ hPerm unanimous_fourAdditions⟩

end Module

end CratePlan
