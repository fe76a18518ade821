import CratePlan.Proofs.Declaration

/-!
# What a registry remembers of its calls

A registry is told to open a module, to declare one name in a module, or to register a path,
which declares every name of the path in the module above it. The calls come in any order and
may touch one module many times, and a name may be asked for with both visibilities.

What the registry holds afterwards can be said from the row of calls alone. Read each call as
the declarations that it makes. The first of them that is about a name in a module decides how
the name is shown, and the modules stand in the order in which they were first mentioned. For
this a module is what its path is displayed as: two paths that are displayed alike are one
module, which keeps the path that was mentioned first.

`Records` is what holds between a registry and the calls so far. It is kept by each of them.
A path that has been registered finds all of its names declared from then on, and to declare
a name again changes nothing, so neither does registering the path again.

## Main statements

* `ModulePath.getElem?_declarations`: what registering a path declares, in order.
* `Records.carryOut`: a call is recorded.
* `register_eq_self`: a path whose names are all declared is registered without a change.
* `holds_what_was_first`: what a registry holds after a row of calls.
-/

namespace CratePlan

/-- Of the names of a path, all but the first are declared, each in the module that the names
before it lead to. The last is anonymous and the others are named. -/
theorem ModulePath.getElem?_declarations (path : ModulePath) (index : Nat) :
    path.declarations[index]? = (path.components[index + 1]?).map fun words =>
      ⟨path.take (index + 1), words,
        if index + 2 = path.length then .anonymous else .named⟩ := by
  rw [declarations, List.getElem?_map, List.getElem?_tail, List.getElem?_zipIdx, Option.map_map]
  simp only [Nat.zero_add]
  rfl

namespace Registry

/-! ## Calls -/

/-- What a registry can be told. -/
inductive Call where
  /-- Make sure that there is a module at a path. -/
  | touch (path : ModulePath)
  /-- Declare one name in a module. -/
  | declare (declaration : Declaration)
  /-- Declare every module that a path leads through. -/
  | register (path : ModulePath)

/-- Do what a call says. -/
def carryOut (registry : Registry) : Call → Registry
  | .touch path => registry.touch path
  | .declare declaration => registry.declare declaration
  | .register path => registry.register path

/-- The registry that a row of calls leaves. -/
def ofCalls (calls : List Call) : Registry :=
  calls.foldl carryOut .empty

/-- The declarations that a call makes, in order. -/
def Call.declarations : Call → List Declaration
  | touch _ => []
  | declare declaration => [declaration]
  | register path => path.declarations

/-- The modules that a call mentions as those that declare something, or may do so later. -/
def Call.parents : Call → List ModulePath
  | touch path => [path]
  | declare declaration => [declaration.parent]
  | register path => path.declarations.map Declaration.parent

variable {registry : Registry} {declared : List Declaration} {mentioned : List ModulePath}

/-! ## What holds after each call -/

/-- The registry holds what the declarations have asked for first, in modules that stand in the
order in which they were mentioned. -/
structure Records (registry : Registry) (declared : List Declaration)
    (mentioned : List ModulePath) : Prop where
  shown : ∀ key name, registry.shown? key name =
    (declared.find? fun declaration => declaration.Concerns key name).map Declaration.visibility
  keys : registry.modules.keys = (mentioned.map ModulePath.display).eraseDups
  paths : ∀ key module, registry.find? key = some module → module.path.display = key

theorem records_empty : empty.Records [] [] where
  shown _ _ := rfl
  keys := rfl
  paths _ _ h := by cases h

/-- An opened module declares nothing by that. -/
theorem shown?_touch (path : ModulePath) (key : String) (name : Words) :
    (registry.touch path).shown? key name = registry.shown? key name := by
  unfold shown? touch
  rw [find?_visit]
  by_cases hKey : key = path.display
  · subst hKey
    rw [if_pos rfl]
    cases registry.find? path.display <;> rfl
  · rw [if_neg hKey]

/-- One more text is kept if it is new. -/
theorem eraseDups_concat (texts : List String) (text : String) :
    (texts ++ [text]).eraseDups =
      if text ∈ texts then texts.eraseDups else texts.eraseDups ++ [text] := by
  rw [List.eraseDups_append, List.cons_removeAll]
  by_cases hKnown : text ∈ texts
  · simp [hKnown]
  · simp [hKnown, List.eraseDups_cons]

/-- A module that is visited for the first time comes behind those mentioned before. -/
theorem Records.keys_visit (h : registry.Records declared mentioned) (path : ModulePath)
    (change : Module → Module) :
    (registry.visit path change).modules.keys =
      ((mentioned ++ [path]).map ModulePath.display).eraseDups := by
  rw [Registry.keys_visit, h.keys, List.map_append, List.map_singleton, eraseDups_concat]
  simp only [List.mem_eraseDups]

/-- A module stays at its path, whatever is changed in it. -/
theorem Records.paths_visit (h : registry.Records declared mentioned) {path : ModulePath}
    {change : Module → Module} (hChange : ∀ module, (change module).path = module.path)
    {key : String} {module : Module}
    (hFind : (registry.visit path change).find? key = some module) :
    module.path.display = key := by
  rw [find?_visit] at hFind
  split at hFind
  case isTrue hKey =>
      rw [Option.some.injEq] at hFind
      rw [← hFind, hChange, hKey]
      cases hOld : registry.find? path.display with
      | none => rfl
      | some old => exact h.paths _ _ hOld
  case isFalse => exact h.paths _ _ hFind

theorem Records.touch (h : registry.Records declared mentioned) (path : ModulePath) :
    (registry.touch path).Records declared (mentioned ++ [path]) where
  shown key name := (shown?_touch path key name).trans (h.shown key name)
  keys := h.keys_visit path id
  paths _ _ hFind := h.paths_visit (fun _ => rfl) hFind

theorem Records.declare (h : registry.Records declared mentioned) (declaration : Declaration) :
    (registry.declare declaration).Records (declared ++ [declaration])
      (mentioned ++ [declaration.parent]) where
  shown key name := by
    rw [shown?_declare, h.shown, List.find?_append, Option.map_or]
    by_cases hConcerns : declaration.Concerns key name <;> simp [hConcerns]
  keys := h.keys_visit declaration.parent _
  paths _ _ hFind := h.paths_visit (fun module => module.path_declare _ _) hFind

/-- A row of declarations is recorded one by one. -/
theorem Records.foldl_declare {declarations : List Declaration} :
    ∀ {registry : Registry} {declared : List Declaration} {mentioned : List ModulePath},
      registry.Records declared mentioned →
        (declarations.foldl Registry.declare registry).Records (declared ++ declarations)
          (mentioned ++ declarations.map Declaration.parent) := by
  induction declarations with
  | nil =>
      intro registry declared mentioned h
      simpa using h
  | cons first rest ih =>
      intro registry declared mentioned h
      simpa using ih (h.declare first)

/-- A call is recorded with the declarations that it makes and the modules that it mentions. -/
theorem Records.carryOut (h : registry.Records declared mentioned) (call : Call) :
    (registry.carryOut call).Records (declared ++ call.declarations)
      (mentioned ++ call.parents) := by
  cases call with
  | touch path =>
      rw [Call.declarations, List.append_nil]
      exact h.touch path
  | declare declaration => exact h.declare declaration
  | register path => exact h.foldl_declare

/-- However long a row of calls is, it is recorded. -/
theorem Records.foldl_carryOut {calls : List Call} :
    ∀ {registry : Registry} {declared : List Declaration} {mentioned : List ModulePath},
      registry.Records declared mentioned →
        (calls.foldl Registry.carryOut registry).Records
          (declared ++ calls.flatMap Call.declarations)
          (mentioned ++ calls.flatMap Call.parents) := by
  induction calls with
  | nil =>
      intro registry declared mentioned h
      simpa using h
  | cons first rest ih =>
      intro registry declared mentioned h
      simpa using ih (h.carryOut first)

theorem records_ofCalls (calls : List Call) :
    (ofCalls calls).Records (calls.flatMap Call.declarations) (calls.flatMap Call.parents) := by
  unfold ofCalls
  simpa using records_empty.foldl_carryOut

/-! ## Registering again -/

/-- A name that is declared is not declared again. -/
theorem declare_eq_self {declaration : Declaration}
    (h : (registry.shown? declaration.parent.display declaration.words).isSome = true) :
    registry.declare declaration = registry := by
  obtain ⟨visibility, hShown⟩ := Option.isSome_iff_exists.1 h
  obtain ⟨module, hModule, hName⟩ := Option.bind_eq_some_iff.1 hShown
  have hSame : module.declare declaration.words declaration.visibility = module := by
    rw [Module.declare, Table.insertNew_of_find? hName]
  rw [Registry.declare, visit, at?, hModule, Option.getD_some, hSame,
    Table.insert_of_find? hModule]

/-- A path whose names are all declared is registered without a change. -/
theorem register_eq_self {path : ModulePath}
    (h : ∀ declaration ∈ path.declarations,
      (registry.shown? declaration.parent.display declaration.words).isSome = true) :
    registry.register path = registry := by
  unfold register
  revert h
  induction path.declarations with
  | nil => exact fun _ => rfl
  | cons first rest ih =>
      intro h
      obtain ⟨hFirst, hRest⟩ := List.forall_mem_cons.1 h
      rw [List.foldl_cons, declare_eq_self hFirst]
      exact ih hRest

/-- What a registry has been told to declare, it shows. -/
theorem Records.isSome_shown? (h : registry.Records declared mentioned) {declaration : Declaration}
    (hMem : declaration ∈ declared) :
    (registry.shown? declaration.parent.display declaration.words).isSome = true := by
  have hOwn : declaration.Concerns declaration.parent.display declaration.words := ⟨rfl, rfl⟩
  rw [h.shown, Option.isSome_map, List.find?_isSome]
  exact ⟨declaration, hMem, decide_eq_true hOwn⟩

/-- After a row of calls a registry shows each name as the first declaration of it in its module
has asked for, and no other name. Its modules stand in the order in which they were first
mentioned, each under the display of its path. And a path that has been registered changes
nothing when it is registered again, whatever has happened since. -/
theorem holds_what_was_first (calls : List Call) :
    (∀ key name, (ofCalls calls).shown? key name =
      ((calls.flatMap Call.declarations).find? fun declaration =>
        declaration.Concerns key name).map Declaration.visibility) ∧
    (ofCalls calls).modules.keys =
      ((calls.flatMap Call.parents).map ModulePath.display).eraseDups ∧
    (ofCalls calls).modules.keys =
      (ofCalls calls).modules.values.map (fun module => module.path.display) ∧
    (∀ path later, (ofCalls (calls ++ .register path :: later)).register path =
      ofCalls (calls ++ .register path :: later)) ∧
    ∀ (path : ModulePath) (index : Nat), path.declarations[index]? =
      (path.components[index + 1]?).map fun words => ⟨path.take (index + 1), words,
        if index + 2 = path.length then .anonymous else .named⟩ := by
  have hRecords := records_ofCalls calls
  refine ⟨hRecords.shown, hRecords.keys, ?_, fun path later => ?_,
    ModulePath.getElem?_declarations⟩
  · rw [Table.keys, Table.values, List.map_map]
    apply List.map_congr_left
    intro entry hEntry
    exact (hRecords.paths _ _ (Table.find?_eq_some_iff.2 hEntry)).symm
  · apply register_eq_self
    intro declaration hMem
    have hCall : .register path ∈ calls ++ .register path :: later := by simp
    apply (records_ofCalls (calls ++ .register path :: later)).isSome_shown?
    exact List.mem_flatMap.2 ⟨.register path, hCall, hMem⟩

/-- A name that was declared by hand keeps its visibility when a path is registered. -/
example : (ofCalls [.declare ⟨.ofCrate [["a"]], ["b"], .named⟩, .touch .root,
    .register (.ofCrate [["a"], ["b"]])]).shown? "crate::a" ["b"] = some .named := by
  rfl

end Registry

end CratePlan
