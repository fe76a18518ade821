import CratePlan.Proofs.Outcome
import CratePlan.Schema.Resolver

/-!
# Where a match is placed

Of the steps from a match to its type and its module, each asks whether one name can be
written, and none asks twice for different things. So the outcome is known without the
steps: which names have to be writable, and what comes of them.

## Main statements

* `typePath_eq_ok_iff`: when a match has a type, and which.
* `modulePath_eq_ok_iff`: the module that defines it.
-/

namespace CratePlan

open Outcome

/-- The modules of a match and its model can be written. -/
structure SchemaMatch.Writable (found : SchemaMatch) : Prop where
  modules : ∀ component ∈ found.module, component.words.writable = true
  model : found.model.words.writable = true

namespace Resolver

variable {resolver : Resolver} {found : SchemaMatch}

/-- The modules on the way are asked one after the other. -/
theorem forIn_render_eq_ok_iff {components : List Identifier} {done : PUnit} :
    (forIn components PUnit.unit fun component _ => do
      let _ ← component.render .snake
      pure (ForInStep.yield PUnit.unit) : Except CaseError PUnit) = .ok done ↔
      ∀ component ∈ components, component.words.writable = true := by
  induction components with
  | nil => simp [pure, Except.pure]
  | cons component rest ih =>
      rw [List.forIn_cons]
      simp only [bind_eq_ok_iff, List.forall_mem_cons]
      constructor
      · rintro ⟨step, ⟨text, hText, hStep⟩, hRest⟩
        cases hStep
        exact ⟨(Identifier.render_eq_ok_iff.1 hText).1, ih.1 hRest⟩
      · rintro ⟨hFirst, hRest⟩
        exact ⟨.yield .unit, ⟨_, Identifier.render_eq_ok_iff.2 ⟨hFirst, rfl⟩, rfl⟩, ih.2 hRest⟩

/-- A match has a type when it can be written. -/
theorem typePath_eq_ok_iff {type : TypePath} :
    resolver.typePath found = .ok type ↔ found.Writable ∧
      type = ⟨resolver.parentPath found, String.ofList (found.model.words.spelled .pascal)⟩ := by
  rw [typePath, bind_eq_ok_iff]
  simp only [forIn_render_eq_ok_iff, TypePath.ofIdentifier, map_eq_ok_iff,
    Identifier.render_eq_ok_iff]
  constructor
  · rintro ⟨-, hModules, name, ⟨hModel, rfl⟩, rfl⟩
    exact ⟨⟨hModules, hModel⟩, rfl⟩
  · rintro ⟨⟨hModules, hModel⟩, rfl⟩
    exact ⟨.unit, hModules, _, ⟨hModel, rfl⟩, rfl⟩

/-- The type of a match is defined in a module named after the model. -/
theorem modulePath_eq_ok_iff {path : ModulePath} :
    resolver.modulePath found = .ok path ↔ found.Writable ∧
      path = (resolver.parentPath found).append found.model.words := by
  simp only [modulePath, bind_eq_ok_iff, Identifier.render_eq_ok_iff, typePath_eq_ok_iff]
  constructor
  · rintro ⟨type, ⟨hWritable, rfl⟩, name, -, hPath⟩
    cases hPath
    exact ⟨hWritable, rfl⟩
  · rintro ⟨hWritable, rfl⟩
    exact ⟨_, ⟨hWritable, rfl⟩, _, ⟨hWritable.model, rfl⟩, rfl⟩

end Resolver

end CratePlan
