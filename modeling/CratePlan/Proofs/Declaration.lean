import CratePlan.Registry

/-!
# What a registry declares

A registry is only written to by declarations, one after the other. What it declares
afterwards does not depend on their order: a declaration that comes too late to decide
the visibility of a name still finds the name declared. So a registry is described by
the members of the list that it was made from, and by induction on that list.

No module is opened without declaring something.

The visibility of a name is another matter, since the first declaration decides it. It can
be said without the order only where all declarations of a name ask for the same.

## Main statements

* `ModulePath.mem_declarations_iff`: what a path asks for.
* `Registry.declares_foldl`: the names that are declared after a row of declarations.
* `Registry.Occupied.foldl`: every module declares something.
* `Module.mem_submodules`, `Module.perm_submodules`: what a module writes down.
* `Registry.shown?_foldl`: the visibility of a name after a row of declarations.
-/

namespace CratePlan

/-! ## Paths -/

namespace ModulePath

/-- The path leads through a module at the top of the crate. -/
def LiesIn (path : ModulePath) (name : Words) : Prop :=
  path.anchor = .crate ∧ path.components[0]? = some name

/-- A name of the path below its first, and the module that the names before it lead to. -/
def HasStep (path parent : ModulePath) (name : Words) : Prop :=
  ∃ index, 1 ≤ index ∧ path.components[index]? = some name ∧ parent = path.take index

theorem LiesIn.display_take_zero {path : ModulePath} {name : Words} (h : path.LiesIn name) :
    (path.take 0).display = root.display := by
  simp [take, display, parts, root, h.1]

/-- The beginnings of a path lie where it lies, unless nothing is left of it. -/
theorem LiesIn.take {path : ModulePath} {name : Words} (h : path.LiesIn name) {index : Nat}
    (hIndex : 1 ≤ index) : (path.take index).LiesIn name := by
  refine ⟨h.1, ?_⟩
  rw [ModulePath.take, List.getElem?_take_of_lt hIndex]
  exact h.2

/-- A path lies where its continuations lie, unless nothing is left of it. -/
theorem LiesIn.of_append {path : ModulePath} {name top : Words} (h : (path.append name).LiesIn top)
    (hPath : 0 < path.length) : path.LiesIn top := by
  have hTop := h.2
  rw [components_append, List.getElem?_append_left hPath] at hTop
  exact ⟨h.1, hTop⟩

/-- A path that is continued by several names. -/
theorem foldl_append {α : Type} (name : α → Words) (items : List α) :
    ∀ path : ModulePath, items.foldl (fun path item => path.append (name item)) path =
      ⟨path.anchor, path.components ++ items.map name⟩ := by
  induction items with
  | nil => intro path; simp
  | cons first rest ih =>
      intro path
      rw [List.foldl_cons, ih]
      simp

theorem take_of_length_le {path : ModulePath} {n : Nat} (h : path.length ≤ n) :
    path.take n = path := by
  simp [take, List.take_of_length_le (show path.components.length ≤ n from h)]

/-- The beginnings of a path stay what they are when it is continued. -/
theorem take_append_of_le {path : ModulePath} {name : Words} {n : Nat} (h : n ≤ path.length) :
    (path.append name).take n = path.take n := by
  simp [take, append, List.take_append_of_le_length (show n ≤ path.components.length from h)]

theorem append_inj {parent other : ModulePath} {name otherName : Words} :
    parent.append name = other.append otherName ↔ parent = other ∧ name = otherName := by
  constructor
  · intro h
    have hTake := congrArg (fun path => path.components.dropLast) h
    have hLast := congrArg ModulePath.last? h
    have hAnchor := congrArg ModulePath.anchor h
    simp only [components_append, List.dropLast_concat, last?_append, Option.some.injEq,
      anchor_append] at hTake hLast hAnchor
    cases parent
    cases other
    exact ⟨by simp_all, hLast⟩
  · rintro ⟨rfl, rfl⟩
    rfl

/-- One more name of a path. -/
theorem take_append_getElem? {path : ModulePath} {index : Nat} {name : Words}
    (h : path.components[index]? = some name) :
    path.take (index + 1) = (path.take index).append name := by
  simp [take, append, List.take_add_one, h]

/-- The parent and the name of a module determine its path. -/
theorem append_eq_iff {parent path : ModulePath} {name : Words} :
    parent.append name = path ↔
      ∃ index, path.length = index + 1 ∧ parent = path.take index ∧
        path.components[index]? = some name := by
  constructor
  · rintro rfl
    exact ⟨parent.length, by simp, by simp, by simp [length]⟩
  · rintro ⟨index, hLength, rfl, hName⟩
    rw [← take_append_getElem? hName, take_of_length_le (Nat.le_of_eq hLength)]

/-- A path asks for its steps, and for the last of them to be anonymous. -/
theorem mem_declarations_iff {path : ModulePath} {declaration : Declaration} :
    declaration ∈ path.declarations ↔ ∃ index, 1 ≤ index ∧
      path.components[index]? = some declaration.words ∧ declaration.parent = path.take index ∧
        declaration.visibility = if index + 1 = path.length then .anonymous else .named := by
  have hMem : ∀ name index, (name, index) ∈ path.components.zipIdx.tail ↔
      1 ≤ index ∧ path.components[index]? = some name := by
    intro name index
    rw [List.tail_zipIdx, List.mk_mem_zipIdx_iff_le_and_getElem?_sub, List.getElem?_tail]
    refine and_congr_right fun hIndex => ?_
    rw [show index - (0 + 1) + 1 = index by omega]
  obtain ⟨parent, words, visibility⟩ := declaration
  simp only [declarations, List.mem_map, Prod.exists, hMem, Declaration.mk.injEq]
  constructor
  · rintro ⟨name, index, ⟨hIndex, hName⟩, rfl, rfl, rfl⟩
    exact ⟨index, hIndex, hName, rfl, rfl⟩
  · rintro ⟨index, hIndex, hName, rfl, rfl⟩
    exact ⟨words, index, ⟨hIndex, hName⟩, rfl, rfl, rfl⟩

/-- A path asks for its steps, each with a visibility. -/
theorem exists_mem_declarations_iff {path parent : ModulePath} {name : Words} :
    (∃ visibility, ⟨parent, name, visibility⟩ ∈ path.declarations) ↔ path.HasStep parent name := by
  simp only [mem_declarations_iff]
  constructor
  · rintro ⟨visibility, index, hIndex, hName, hParent, -⟩
    exact ⟨index, hIndex, hName, hParent⟩
  · rintro ⟨index, hIndex, hName, hParent⟩
    exact ⟨_, index, hIndex, hName, hParent, rfl⟩

end ModulePath

/-! ## Registries -/

namespace Registry

/-- The module under a key declares a name. -/
def Declares (registry : Registry) (key : String) (name : Words) : Prop :=
  ∃ module, registry.find? key = some module ∧ module.declares name = true

/-- Every module declares something. -/
def Occupied (registry : Registry) : Prop :=
  ∀ key module, registry.find? key = some module → ∃ name, module.declares name = true

theorem not_declares_empty (key : String) (name : Words) : ¬empty.Declares key name := by
  rintro ⟨module, hModule, -⟩
  cases hModule

theorem occupied_empty : empty.Occupied := by
  intro key module hModule
  cases hModule

/-- A module that is told to declare a name declares it, and what it did before. -/
theorem declares_module_declare {module : Module} {name other : Words} {visibility : Visibility} :
    (module.declare name visibility).declares other = true ↔
      module.declares other = true ∨ name = other := by
  simp only [Module.declare, Module.declares, Table.contains, Table.keys_insertNew,
    decide_eq_true_eq]
  split
  case isTrue hKnown =>
    refine ⟨.inl, ?_⟩
    rintro (hOther | rfl)
    · exact hOther
    · exact hKnown
  case isFalse => simp [eq_comm]

/-- A declaration adds one name to one module. -/
theorem declares_declare {registry : Registry} {declaration : Declaration} {key : String}
    {name : Words} :
    (registry.declare declaration).Declares key name ↔
      registry.Declares key name ∨
        (declaration.parent.display = key ∧ declaration.words = name) := by
  unfold Declares declare
  simp only [find?_visit]
  by_cases hKey : key = declaration.parent.display
  · subst hKey
    simp only [if_true, Option.some.injEq, exists_eq_left', declares_module_declare, true_and]
    refine or_congr_left ?_
    cases registry.find? declaration.parent.display with
    | none => simp [Module.empty, Module.declares, Table.contains]
    | some module => simp
  · simp [hKey, Ne.symm hKey]

theorem Occupied.declare {registry : Registry} (hRegistry : registry.Occupied)
    (declaration : Declaration) : (registry.declare declaration).Occupied := by
  intro key module hModule
  rw [Registry.declare, find?_visit] at hModule
  split at hModule
  case isTrue =>
    rw [Option.some.injEq] at hModule
    subst hModule
    exact ⟨declaration.words, declares_module_declare.2 (.inr rfl)⟩
  case isFalse => exact hRegistry key module hModule

/-- A row of declarations adds their names to their modules. -/
theorem declares_foldl {declarations : List Declaration} {key : String} {name : Words} :
    ∀ {registry : Registry}, (declarations.foldl declare registry).Declares key name ↔
      registry.Declares key name ∨ ∃ declaration ∈ declarations,
        declaration.parent.display = key ∧ declaration.words = name := by
  induction declarations with
  | nil => simp
  | cons first rest ih =>
      intro registry
      rw [List.foldl_cons, ih, declares_declare]
      simp [or_assoc]

/-- However long a row of declarations is, every module declares something. -/
theorem Occupied.foldl {declarations : List Declaration} :
    ∀ {registry : Registry}, registry.Occupied →
      (declarations.foldl Registry.declare registry).Occupied := by
  induction declarations with
  | nil => exact fun hRegistry => hRegistry
  | cons first rest ih => exact fun hRegistry => ih (hRegistry.declare first)

end Registry

/-! ## Submodules -/

namespace Module

/-- The names with a visibility are those that were declared with it. -/
theorem mem_namesWith {module : Module} {visibility : Visibility} {name : Words} :
    name ∈ module.namesWith visibility ↔ module.declared.find? name = some visibility := by
  rw [namesWith, List.mem_mergeSort, Table.find?_eq_some_iff]
  simp only [List.mem_map, List.mem_filter, decide_eq_true_eq, Prod.exists, exists_and_right,
    exists_eq_right]

/-- A module writes down each declared name with its visibility. -/
theorem mem_submodules {module : Module} {submodule : Submodule} :
    submodule ∈ module.submodules ↔
      module.declared.find? submodule.words = some submodule.visibility := by
  obtain ⟨name, visibility⟩ := submodule
  have hNamed : (⟨name, visibility⟩ : Submodule) ∈ module.submodules ↔
      name ∈ module.namesWith visibility := by
    cases visibility <;> simp [submodules]
  rw [hNamed, mem_namesWith]

/-- The submodules that a module writes down are the declared ones in another order. -/
theorem perm_submodules (module : Module) :
    module.submodules.Perm (module.declared.entries.map fun entry => ⟨entry.1, entry.2⟩) := by
  have hGroup : ∀ visibility, ((module.namesWith visibility).map
      fun name => (⟨name, visibility⟩ : Submodule)).Perm
        ((module.declared.entries.filter fun entry => entry.2 = visibility).map
          fun entry => ⟨entry.1, entry.2⟩) := by
    intro visibility
    apply ((List.mergeSort_perm ..).map _).trans
    rw [List.map_map]
    apply List.Perm.of_eq
    apply List.map_congr_left
    intro entry hMem
    have hVisibility : entry.2 = visibility := by simpa using (List.mem_filter.1 hMem).2
    simp [hVisibility]
  have hOther : (fun entry : Words × Visibility => decide (entry.2 = .anonymous)) =
      fun entry => !decide (entry.2 = .named) := by
    funext entry
    cases entry.2 <;> rfl
  apply ((hGroup .named).append (hGroup .anonymous)).trans
  rw [← List.map_append, hOther]
  exact (List.filter_append_perm _ _).map _

/-- The names that a module writes down are the declared ones in another order. -/
theorem map_words_submodules (module : Module) :
    (module.submodules.map Submodule.words).Perm module.declared.keys := by
  apply (module.perm_submodules.map Submodule.words).trans
  rw [List.map_map]
  exact .refl _

/-- A name is declared exactly if a submodule is written down under it. -/
theorem declares_iff_exists_submodule {module : Module} {name : Words} :
    module.declares name = true ↔ ∃ submodule ∈ module.submodules, submodule.words = name := by
  rw [← List.mem_map, module.map_words_submodules.mem_iff]
  simp [declares, Table.contains]

end Module

/-! ## Visibilities -/

/-- The declaration is about a name in the module under a key. -/
def Declaration.Concerns (declaration : Declaration) (key : String) (name : Words) : Prop :=
  declaration.parent.display = key ∧ declaration.words = name

instance (declaration : Declaration) (key : String) (name : Words) :
    Decidable (declaration.Concerns key name) :=
  inferInstanceAs (Decidable (_ ∧ _))

namespace Registry

/-- The visibility with which the module under a key declares a name. -/
def shown? (registry : Registry) (key : String) (name : Words) : Option Visibility :=
  (registry.find? key).bind fun module => module.declared.find? name

/-- The module at a path shows a submodule with a visibility. -/
def Shows (registry : Registry) (path : ModulePath) (name : Words) (visibility : Visibility) :
    Prop :=
  ∃ module, registry.at? path = some module ∧ ⟨name, visibility⟩ ∈ module.submodules

theorem shows_iff {registry : Registry} {path : ModulePath} {name : Words}
    {visibility : Visibility} : registry.Shows path name visibility ↔
      registry.shown? path.display name = some visibility := by
  simp only [Shows, shown?, at?, Option.bind_eq_some_iff, Module.mem_submodules]

/-- A declaration decides the visibility of its name, unless that is decided. -/
theorem shown?_declare {registry : Registry} {declaration : Declaration} {key : String}
    {name : Words} :
    (registry.declare declaration).shown? key name =
      (registry.shown? key name).or
        (if declaration.Concerns key name then some declaration.visibility else none) := by
  unfold shown? declare Declaration.Concerns
  rw [find?_visit]
  by_cases hKey : key = declaration.parent.display
  · subst hKey
    rw [if_pos rfl, Option.bind_some, Module.find?_declare]
    by_cases hName : name = declaration.words
    · subst hName
      cases registry.find? declaration.parent.display with
      | none => simp [Module.empty]
      | some module =>
          cases hOld : module.declared.find? declaration.words <;> simp [hOld]
    · cases registry.find? declaration.parent.display with
      | none => simp [hName, Ne.symm hName, Module.empty]
      | some module => simp [hName, Ne.symm hName]
  · simp [hKey, Ne.symm hKey]

/-- The first declaration of a row that is about a name decides its visibility. -/
theorem shown?_foldl {declarations : List Declaration} {key : String} {name : Words} :
    ∀ {registry : Registry}, (declarations.foldl declare registry).shown? key name =
      (registry.shown? key name).or
        ((declarations.find? fun declaration => declaration.Concerns key name).map
          Declaration.visibility) := by
  induction declarations with
  | nil => simp
  | cons first rest ih =>
      intro registry
      rw [List.foldl_cons, ih, shown?_declare, Option.or_assoc, List.find?_cons]
      by_cases hFirst : first.Concerns key name <;> simp [hFirst]

/-- Declarations that all ask for one visibility show a name with it if it was shown so before,
or if it was not shown at all and one of them is about it. -/
theorem shown?_foldl_eq_some_iff {declarations : List Declaration} {visibility : Visibility}
    (hSame : ∀ declaration ∈ declarations, declaration.visibility = visibility)
    {registry : Registry} {key : String} {name : Words} :
    (declarations.foldl declare registry).shown? key name = some visibility ↔
      registry.shown? key name = some visibility ∨ registry.shown? key name = none ∧
        ∃ declaration ∈ declarations, declaration.Concerns key name := by
  rw [shown?_foldl]
  cases registry.shown? key name with
  | some shown => simp
  | none =>
      simp only [Option.none_or, reduceCtorEq, false_or, true_and, Option.map_eq_some_iff]
      constructor
      · rintro ⟨declaration, hFirst, -⟩
        have hConcerns := List.find?_some hFirst
        exact ⟨declaration, List.mem_of_find?_eq_some hFirst, by simpa using hConcerns⟩
      · rintro ⟨declaration, hMem, hConcerns⟩
        have hSome : (declarations.find? fun other => other.Concerns key name).isSome = true :=
          List.find?_isSome.2 ⟨declaration, hMem, decide_eq_true hConcerns⟩
        obtain ⟨first, hFirst⟩ := Option.isSome_iff_exists.1 hSome
        exact ⟨first, hFirst, hSame first (List.mem_of_find?_eq_some hFirst)⟩

/-- What a row of declarations shows, one of them has asked for. -/
theorem exists_of_shown? {declarations : List Declaration} {key : String} {name : Words}
    {visibility : Visibility}
    (h : (declarations.foldl declare .empty).shown? key name = some visibility) :
    ∃ declaration ∈ declarations, declaration.Concerns key name ∧
      declaration.visibility = visibility := by
  rw [shown?_foldl] at h
  obtain ⟨declaration, hFirst, hVisibility⟩ := Option.map_eq_some_iff.1 h
  have hConcerns := List.find?_some hFirst
  exact ⟨declaration, List.mem_of_find?_eq_some hFirst, by simpa using hConcerns, hVisibility⟩

/-- A name that is asked for with one visibility only is shown with it. -/
theorem shown?_of_agree {declarations : List Declaration} {declaration : Declaration}
    (hMem : declaration ∈ declarations)
    (hAgree : ∀ other ∈ declarations, other.Concerns declaration.parent.display declaration.words →
      other.visibility = declaration.visibility) :
    (declarations.foldl declare .empty).shown? declaration.parent.display declaration.words =
      some declaration.visibility := by
  cases hShown : (declarations.foldl declare .empty).shown? declaration.parent.display
      declaration.words with
  | none =>
      rw [shown?_foldl, Option.or_eq_none_iff, Option.map_eq_none_iff, List.find?_eq_none] at hShown
      have hOwn : declaration.Concerns declaration.parent.display declaration.words := ⟨rfl, rfl⟩
      exact absurd hOwn (by simpa using hShown.2 declaration hMem)
  | some visibility =>
      obtain ⟨other, hOther, hConcerns, rfl⟩ := exists_of_shown? hShown
      rw [hAgree other hOther hConcerns]

end Registry

end CratePlan
