import CratePlan.Proofs.Declaration
import CratePlan.Proofs.ModuleName
import Mathlib.Data.List.Nodup

/-!
# What is written for a path

A registry finds its modules by what is written for their paths. This is safe because a path
whose names can be written is known from its display: two colons separate the names, which
have none, and each name is known from what is written for it. That the path begins at the
root of the crate is known from the word `crate` in front, since a module of that name is
written with a mark.

## Main statements

* `ModulePath.Nameable.display_inj`: the display of a path determines it.
* `ModulePath.LiesIn.eq_of_display_eq`: it determines the module at the top, whatever the
  names below that one are.
* `ModulePath.LiesIn.display_inj`: it determines the names below a module, whatever is
  written for the module.
* `Registry.at?_visitAll`: a module is what the visits to its own path have made of it.
* `ModulePath.display_tells_apart`: both, and what a module writes down for its submodules.
-/

namespace CratePlan

/-! ## Names -/

/-- A name that has been marked is none of those that begin a path. -/
theorem escapeKeyword_ne_crate (name : String) : escapeKeyword name ≠ "crate" := by
  unfold escapeKeyword
  split
  case isTrue hPath =>
      have hAll : ∀ keyword ∈ pathKeywords, keyword ++ "_" ≠ "crate" := by decide
      exact hAll name hPath
  case isFalse hPath =>
      split
      case isTrue hRaw =>
          have hAll : ∀ keyword ∈ rawKeywords, "r#" ++ keyword ≠ "crate" := by decide
          exact hAll name hRaw
      case isFalse =>
          rintro rfl
          exact hPath (by decide)

/-- The marks of reserved words add two characters to those of a name. -/
theorem mem_escapeKeyword {name : String} {c : Char} (h : c ∈ (escapeKeyword name).toList) :
    c ∈ name.toList ∨ c ∈ ['_', 'r', '#'] := by
  unfold escapeKeyword at h
  split at h
  case isTrue =>
      rw [String.toList_append] at h
      rcases List.mem_append.1 h with hName | hMark
      · exact .inl hName
      · have hUnderscore : c = '_' := by simpa using hMark
        exact .inr (by simp [hUnderscore])
  case isFalse =>
      split at h
      case isTrue =>
          rw [String.toList_append] at h
          rcases List.mem_append.1 h with hMark | hName
          · have hSign : c = 'r' ∨ c = '#' := by simpa using hMark
            exact .inr (by simp [hSign])
          · exact .inl hName
      case isFalse => exact .inl h

namespace Words

/-- No colon is written for a module. -/
theorem NamesModule.not_colon {words : Words} (h : words.NamesModule) :
    ∀ c ∈ words.moduleName.toList, (':' == c) = false := by
  intro c hc
  refine beq_false_of_ne ?_
  rintro rfl
  rcases mem_escapeKeyword hc with hName | hMark
  · rcases isAlphanum_or_of_mem_display h.writable hName with hLetter | hMark
    · cases hLetter
    · cases hMark
  · revert hMark
    decide

theorem NamesModule.moduleName_ne_nil {words : Words} (h : words.NamesModule) :
    words.moduleName.toList ≠ [] := by
  obtain ⟨c, rest, hDisplay, -, -⟩ := h.exists_display_eq_cons
  unfold moduleName escapeKeyword
  split
  case isTrue => simp
  case isFalse => split <;> simp [hDisplay]

/-- Rows of names are known from what is written for each. -/
theorem map_moduleName_inj {names : List Words} (hNames : ∀ words ∈ names, words.NamesModule) :
    ∀ {others : List Words}, (∀ words ∈ others, words.NamesModule) →
      names.map moduleName = others.map moduleName → names = others := by
  induction names with
  | nil =>
      intro others _ h
      exact (List.map_eq_nil_iff.1 h.symm).symm
  | cons first names ih =>
      intro others hOthers h
      obtain ⟨hFirst, hNames⟩ := List.forall_mem_cons.1 hNames
      cases others with
      | nil => cases h
      | cons other others =>
          obtain ⟨hOther, hOthers⟩ := List.forall_mem_cons.1 hOthers
          obtain ⟨hHead, hTail⟩ := List.cons.inj h
          rw [hFirst.moduleName_inj hOther hHead, ih hNames hOthers hTail]

end Words

/-! ## Paths -/

namespace ModulePath

/-- Every name of the path can be written as a module. -/
def Nameable (path : ModulePath) : Prop :=
  ∀ words ∈ path.components, words.NamesModule

theorem Nameable.take {path : ModulePath} (h : path.Nameable) (n : Nat) : (path.take n).Nameable :=
  fun words hWords => h words (List.mem_of_mem_take hWords)

theorem toList_display (path : ModulePath) :
    path.display.toList = [':', ':'].intercalate (path.parts.map String.toList) :=
  String.toList_intercalate

/-- The display of a path is put together from texts that are not empty and have no colon. -/
theorem Nameable.part {path : ModulePath} (h : path.Nameable) :
    ∀ text ∈ path.parts.map String.toList, text ≠ [] ∧ ∀ c ∈ text, (':' == c) = false := by
  have hNames : ∀ text ∈ (path.components.map Words.moduleName).map String.toList,
      text ≠ [] ∧ ∀ c ∈ text, (':' == c) = false := by
    intro text hText
    obtain ⟨name, hName, rfl⟩ := List.mem_map.1 hText
    obtain ⟨words, hWords, rfl⟩ := List.mem_map.1 hName
    exact ⟨(h words hWords).moduleName_ne_nil, (h words hWords).not_colon⟩
  have hColon : "crate".toList.all (fun c => !(':' == c)) = true := by decide
  have hCrate : "crate".toList ≠ [] ∧ ∀ c ∈ "crate".toList, (':' == c) = false :=
    ⟨by decide, fun c hc => by simpa using List.all_eq_true.1 hColon c hc⟩
  unfold parts
  cases path.anchor with
  | crate => exact List.forall_mem_cons.2 ⟨hCrate, hNames⟩
  | relative => exact hNames

/-- Nothing is written for a path only if it has no parts. -/
theorem Nameable.display_eq_nil_iff {path : ModulePath} (h : path.Nameable) :
    path.display.toList = [] ↔ path.parts.map String.toList = [] := by
  rw [toList_display]
  constructor
  · intro hEmpty
    cases hParts : path.parts.map String.toList with
    | nil => rfl
    | cons first rest =>
        rw [hParts, Text.intercalate_cons_eq] at hEmpty
        have hFirst : first ≠ [] := (h.part first (hParts ▸ List.mem_cons_self ..)).1
        exact absurd (List.append_eq_nil_iff.1 hEmpty).1 hFirst
  · intro hParts
    rw [hParts]
    rfl

/-- The display of a path determines its parts. -/
theorem Nameable.parts_eq {path other : ModulePath} (h : path.Nameable) (hOther : other.Nameable)
    (hDisplay : path.display = other.display) : path.parts = other.parts := by
  have hTexts : path.parts.map String.toList = other.parts.map String.toList := by
    by_cases hEmpty : path.parts.map String.toList = []
    · have hNothing : other.display.toList = [] := by
        rw [← hDisplay]
        exact h.display_eq_nil_iff.2 hEmpty
      rw [hEmpty, hOther.display_eq_nil_iff.1 hNothing]
    · have hOtherSome : other.parts.map String.toList ≠ [] := by
        rw [ne_eq, ← hOther.display_eq_nil_iff, ← hDisplay, h.display_eq_nil_iff]
        exact hEmpty
      have hJoined : [':', ':'].intercalate (path.parts.map String.toList) =
          [':', ':'].intercalate (other.parts.map String.toList) := by
        rw [← toList_display, ← toList_display, hDisplay]
      have hMark : (':' == ':') = true := rfl
      exact Text.intercalate_inj hMark (fun text hText => (h.part text hText).2)
        (fun text hText => (hOther.part text hText).2) hEmpty hOtherSome hJoined
  exact List.map_injective_iff.2 (fun _ _ => String.toList_inj.1) hTexts

/-- The display of a path determines it. -/
theorem Nameable.display_inj {path other : ModulePath} (h : path.Nameable)
    (hOther : other.Nameable) (hDisplay : path.display = other.display) : path = other := by
  have hParts := h.parts_eq hOther hDisplay
  obtain ⟨anchor, names⟩ := path
  obtain ⟨otherAnchor, otherNames⟩ := other
  -- A module that is called `crate` is not written so.
  have hMarked : ∀ names others : List Words, "crate" :: names.map Words.moduleName ≠
      others.map Words.moduleName := by
    intro names others hEq
    cases others with
    | nil => cases hEq
    | cons first others => exact escapeKeyword_ne_crate _ (List.cons.inj hEq).1.symm
  cases anchor with
  | crate =>
      cases otherAnchor with
      | crate =>
          have hNames : names.map Words.moduleName = otherNames.map Words.moduleName :=
            (List.cons.inj hParts).2
          exact congrArg (mk .crate) (Words.map_moduleName_inj h hOther hNames)
      | relative => exact absurd hParts (hMarked names otherNames)
  | relative =>
      cases otherAnchor with
      | crate => exact absurd hParts.symm (hMarked otherNames names)
      | relative => exact congrArg (mk .relative) (Words.map_moduleName_inj h hOther hParts)

/-! ## Paths below one module -/

/-- The names below the first can be written as modules. -/
def NameableBelow (path : ModulePath) : Prop :=
  ∀ words ∈ path.components.tail, words.NamesModule

theorem NameableBelow.namesModule {path : ModulePath} (h : path.NameableBelow)
    {index : Nat} {name : Words} (hIndex : 1 ≤ index)
    (hName : path.components[index]? = some name) : name.NamesModule := by
  obtain ⟨below, rfl⟩ := Nat.exists_eq_add_of_le' hIndex
  refine h name (List.mem_of_getElem? (i := below) ?_)
  rw [List.getElem?_tail, hName]

theorem NameableBelow.of_append {path : ModulePath} {name : Words}
    (h : (path.append name).NameableBelow) : path.NameableBelow := by
  intro words hWords
  refine h words ?_
  rw [components_append]
  cases hComponents : path.components with
  | nil => simp [hComponents] at hWords
  | cons first rest =>
      rw [hComponents, List.tail_cons] at hWords
      exact List.mem_append_left [name] hWords

theorem LiesIn.components_eq {path : ModulePath} {name : Words} (h : path.LiesIn name) :
    path.components = name :: path.components.tail :=
  List.eq_cons_of_mem_head? (List.head?_eq_getElem? ▸ h.2)

/-- All names of a path can be written when the one at the top can, too. -/
theorem NameableBelow.nameable {path : ModulePath} {name : Words} (h : path.NameableBelow)
    (hLies : path.LiesIn name) (hName : name.NamesModule) : path.Nameable := by
  unfold Nameable
  rw [hLies.components_eq]
  exact List.forall_mem_cons.2 ⟨hName, h⟩

/-- What is written for the top of a path stands in front of what is written below it. -/
theorem LiesIn.toList_display_eq {path : ModulePath} {name : Words} (h : path.LiesIn name) :
    path.display.toList = "crate::".toList ++ (name.moduleName.toList ++
      ((path.components.tail.map Words.moduleName).map String.toList).flatMap
        fun text => [':', ':'] ++ text) := by
  rw [toList_display, parts, h.1, h.components_eq]
  exact Text.intercalate_cons_eq _ _ _

/-- The display of a path shows the module at its top, whatever the names below that are. -/
theorem LiesIn.eq_of_display_eq {path other : ModulePath} {name otherName : Words}
    (h : path.LiesIn name) (hOther : other.LiesIn otherName) (hName : name.NamesModule)
    (hOtherName : otherName.NamesModule) (hDisplay : path.display = other.display) :
    name = otherName := by
  have hText := h.toList_display_eq
  rw [hDisplay, hOther.toList_display_eq] at hText
  have hMark : (':' == ':') = true := rfl
  obtain ⟨hSame, -⟩ := Text.append_inj_of_head? hOtherName.not_colon hName.not_colon
    (Text.head?_flatMap_append hMark _) (Text.head?_flatMap_append hMark _)
    (List.append_cancel_left hText)
  exact (hOtherName.moduleName_inj hName (String.toList_inj.1 hSame)).symm

/-- Below one module a path is known from its display, whatever is written for the module. -/
theorem LiesIn.display_inj {path other : ModulePath} {name : Words} (h : path.LiesIn name)
    (hOther : other.LiesIn name) (hBelow : path.NameableBelow) (hOtherBelow : other.NameableBelow)
    (hDisplay : path.display = other.display) : path = other := by
  have hText := h.toList_display_eq
  rw [hDisplay, hOther.toList_display_eq] at hText
  have hColon : ∀ {path : ModulePath}, path.NameableBelow →
      ∀ text ∈ (path.components.tail.map Words.moduleName).map String.toList,
        ∀ c ∈ text, (':' == c) = false := by
    intro path hPath text hMem
    obtain ⟨written, hWritten, rfl⟩ := List.mem_map.1 hMem
    obtain ⟨words, hWords, rfl⟩ := List.mem_map.1 hWritten
    exact (hPath words hWords).not_colon
  have hMark : (':' == ':') = true := rfl
  have hTexts := Text.flatMap_append_inj hMark (hColon hOtherBelow) (hColon hBelow)
    (List.append_cancel_left (List.append_cancel_left hText))
  have hNames := List.map_injective_iff.2 (fun _ _ => String.toList_inj.1) hTexts
  have hTail := Words.map_moduleName_inj hBelow hOtherBelow hNames.symm
  have hComponents : path.components = other.components := by
    rw [h.components_eq, hOther.components_eq, hTail]
  obtain ⟨anchor, names⟩ := path
  obtain ⟨otherAnchor, otherNames⟩ := other
  rw [mk.injEq]
  exact ⟨h.1.trans hOther.1.symm, hComponents⟩

/-- A path below the root is not written as the root is. -/
theorem LiesIn.display_ne_root {path : ModulePath} {name : Words} (h : path.LiesIn name) :
    path.display ≠ root.display := by
  intro hDisplay
  have hText := h.toList_display_eq
  have hRoot : root.display.toList = "crate".toList := by decide
  rw [hDisplay, hRoot] at hText
  have hLength := congrArg List.length hText
  simp at hLength

end ModulePath

/-! ## Registries -/

namespace Registry

/-- Change modules one after the other, each at its path. -/
def visitAll (visits : List (ModulePath × (Module → Module))) (registry : Registry) : Registry :=
  visits.foldl (fun registry visit => registry.visit visit.1 visit.2) registry

/-- A module is what the visits to its own path have made of it. -/
theorem at?_visitAll {path : ModulePath} (hPath : path.Nameable)
    {visits : List (ModulePath × (Module → Module))}
    (hVisits : ∀ visit ∈ visits, visit.1.Nameable) :
    ∀ {registry other : Registry}, registry.at? path = other.at? path →
      (registry.visitAll visits).at? path =
        (other.visitAll (visits.filter fun visit => visit.1 = path)).at? path := by
  induction visits with
  | nil => exact fun hSame => hSame
  | cons first rest ih =>
      intro registry other hSame
      obtain ⟨hFirst, hRest⟩ := List.forall_mem_cons.1 hVisits
      by_cases hOwn : first.1 = path
      · rw [List.filter_cons_of_pos (by simpa using hOwn)]
        refine ih hRest ?_
        unfold at? at hSame ⊢
        rw [find?_visit, find?_visit, hOwn, if_pos rfl, if_pos rfl, hSame]
      · rw [List.filter_cons_of_neg (by simpa using hOwn)]
        refine ih hRest ?_
        have hKey : path.display ≠ first.1.display :=
          fun hDisplay => hOwn (hPath.display_inj hFirst hDisplay).symm
        unfold at? at hSame ⊢
        rw [find?_visit, if_neg hKey, hSame]

end Registry

/-- A module whose submodules can be written writes down no name twice. -/
theorem Module.nodup_names_submodules {module : Module}
    (h : ∀ words ∈ module.declared.keys, words.NamesModule) :
    (module.submodules.map Submodule.name).Nodup := by
  have hWords := module.map_words_submodules
  have hDistinct : (module.submodules.map Submodule.words).Nodup :=
    hWords.nodup_iff.2 module.declared.distinct
  have hNames : module.submodules.map Submodule.name =
      (module.submodules.map Submodule.words).map Words.moduleName := by
    rw [List.map_map]
    rfl
  rw [hNames]
  refine List.Nodup.map_on (fun words hMem others hOtherMem hSame => ?_) hDistinct
  have hNameable := h words (hWords.mem_iff.1 hMem)
  have hOtherNameable := h others (hWords.mem_iff.1 hOtherMem)
  exact hNameable.moduleName_inj hOtherNameable hSame

namespace ModulePath

/-- Of paths whose names can be written, two are displayed alike only if they are the same. So
in a registry a module is what the visits to its own path have made of it, and no visit to
another path. And a module whose submodules can be written writes down no name twice. -/
theorem display_tells_apart :
    (∀ path other : ModulePath, path.Nameable → other.Nameable →
      (path.display = other.display ↔ path = other)) ∧
    (∀ (registry : Registry) (visits : List (ModulePath × (Module → Module))) (path : ModulePath),
      path.Nameable → (∀ visit ∈ visits, visit.1.Nameable) →
        (registry.visitAll visits).at? path =
          (registry.visitAll (visits.filter fun visit => visit.1 = path)).at? path) ∧
    ∀ module : Module, (∀ words ∈ module.declared.keys, words.NamesModule) →
      (module.submodules.map Submodule.name).Nodup := by
  refine ⟨fun path other hPath hOther => ?_, fun registry visits path hPath hVisits => ?_,
    fun module hModule => module.nodup_names_submodules hModule⟩
  · exact ⟨hPath.display_inj hOther, fun hSame => congrArg display hSame⟩
  · exact Registry.at?_visitAll hPath hVisits rfl

/-- A module named `self` below the root of the crate. -/
def selfOfCrate : ModulePath := .ofCrate [["self"]]

/-- A module named `self` below one that is named `crate` and lies where the path is written. -/
def selfOfModule : ModulePath := ⟨.relative, [["crate"], ["self"]]⟩

theorem nameable_selves : selfOfCrate.Nameable ∧ selfOfModule.Nameable := by
  have hSelf : Words.ofLabel "self" = ["self"] := by decide +kernel
  have hCrate : Words.ofLabel "crate" = ["crate"] := by decide +kernel
  have hSelfNamed : Words.NamesModule ["self"] :=
    hSelf ▸ Words.namesModule_ofLabel (by decide +kernel)
  have hCrateNamed : Words.NamesModule ["crate"] :=
    hCrate ▸ Words.namesModule_ofLabel (by decide +kernel)
  have hLast : ∀ words ∈ [["self"]], Words.NamesModule words :=
    List.forall_mem_singleton.2 hSelfNamed
  exact ⟨hLast, List.forall_mem_cons.2 ⟨hCrateNamed, hLast⟩⟩

theorem selves_apart :
    selfOfCrate.Nameable ∧ selfOfModule.Nameable ∧
      selfOfCrate.display ≠ selfOfModule.display ∧
      (∀ registry : Registry, (registry.visitAll
          [(selfOfModule, fun module => module.declare ["a"] .named),
            (selfOfCrate, fun module => module.declare ["b"] .anonymous)]).at? selfOfCrate =
        (registry.visitAll
          [(selfOfCrate, fun module => module.declare ["b"] .anonymous)]).at? selfOfCrate) ∧
      (((Module.empty .root).declare ["self"] .named).submodules.map Submodule.name).Nodup := by
  obtain ⟨hOfCrate, hOfModule⟩ := nameable_selves
  obtain ⟨hDisplay, hRegistry, hNames⟩ := display_tells_apart
  have hOther : selfOfCrate ≠ selfOfModule := by decide
  refine ⟨hOfCrate, hOfModule, fun h => hOther ((hDisplay _ _ hOfCrate hOfModule).1 h),
    fun registry => ?_, hNames _ fun words hWords => ?_⟩
  · exact hRegistry registry [(selfOfModule, _), (selfOfCrate, _)] selfOfCrate hOfCrate
      (by simp [hOfCrate, hOfModule])
  · exact hOfCrate words hWords

end ModulePath

end CratePlan
