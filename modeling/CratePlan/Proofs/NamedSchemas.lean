import CratePlan.Proofs.Renaming
import CratePlan.Yaml.Input

/-!
# Schemas that are called by their keys

A schema carries its name and its reference, and the table that lists it has the name as its key.
Nothing in the type keeps the three in step: a schema is resolved by its reference, a model is
listed under the key, and its canonical type is found by looking up the key and then reading the
reference. They agree because every way to write a schema sets all three from one text. A document
is read, or schemas are added to it one by one, and a rename makes the schema anew.

## Main statements

* `ApiDocument.IsNamed.renameAll`: renames keep keys, names and references in step.
* `Yaml.yields_readApiDocument`: so does reading.
* `ApiDocument.Filled.isNamed`: they are in step in every document that is filled.
-/

namespace CratePlan

namespace ApiDocument

variable {schemas : Table String Schema}

/-- Every schema is called and referred to by its key. -/
def IsNamed (schemas : Table String Schema) : Prop :=
  ∀ key schema, schemas.find? key = some schema → schema = Schema.ofName key schema.properties

theorem isNamed_empty : IsNamed Table.empty := by
  intro key schema h
  cases h

/-- Schemas that are made of their keys. -/
theorem isNamed_mapValues (lists : Table String (List String)) :
    IsNamed (lists.mapValues Schema.ofName) := by
  intro key schema h
  obtain ⟨entry, -, hEntry⟩ := List.mem_map.1 (Table.find?_eq_some_iff.1 h)
  obtain ⟨rfl, rfl⟩ := Prod.mk.inj hEntry
  rfl

theorem IsNamed.insert (h : IsNamed schemas) (name : String) (properties : List String) :
    IsNamed (schemas.insert name (Schema.ofName name properties)) := by
  intro key schema hFind
  rw [Table.find?_insert] at hFind
  by_cases hKey : key = name
  · rw [if_pos hKey, Option.some.injEq] at hFind
    subst hKey hFind
    rfl
  · rw [if_neg hKey] at hFind
    exact h key schema hFind

theorem IsNamed.erase (h : IsNamed schemas) (name : String) : IsNamed (schemas.erase name) := by
  intro key schema hFind
  rw [Table.find?_erase] at hFind
  by_cases hKey : key = name
  · rw [if_pos hKey] at hFind
    cases hFind
  · rw [if_neg hKey] at hFind
    exact h key schema hFind

/-- A rename changes the key, the name and the reference together. -/
theorem IsNamed.renameSchema (h : IsNamed schemas) (old new : String) :
    IsNamed (renameSchema schemas old new) := by
  unfold ApiDocument.renameSchema
  cases schemas.find? old with
  | none => exact h
  | some schema => exact (h.erase old).insert new schema.properties

theorem IsNamed.renameAll (renames : List (String × String)) :
    ∀ {schemas : Table String Schema}, IsNamed schemas → IsNamed (renameAll schemas renames) := by
  induction renames with
  | nil =>
      intro schemas h
      exact h
  | cons first rest ih =>
      intro schemas h
      exact ih (h.renameSchema first.1 first.2)

/-- The names of schemas that are called by their keys are the keys. -/
theorem IsNamed.map_name (h : IsNamed schemas) : schemas.values.map Schema.name = schemas.keys := by
  rw [Table.values, Table.keys, List.map_map]
  refine List.map_congr_left fun entry hEntry => ?_
  have hOwn := h entry.1 entry.2 (Table.find?_eq_some_iff.2 hEntry)
  rw [Function.comp_apply, hOwn, Schema.name_ofName]

end ApiDocument

/-! ## Reading -/

namespace Yaml

variable {α β : Type}

/-- Whatever is read has a property. -/
def Yields (reading : Reading α) (P : α → Prop) : Prop :=
  ∀ left value rest, reading.run left = some (value, rest) → P value

theorem Yields.pure {P : α → Prop} {value : α} (h : P value) : Yields (pure value) P := by
  intro left other rest hRun
  rw [StateT.run_pure] at hRun
  cases hRun
  exact h

theorem Yields.bind {first : Reading α} {next : α → Reading β} {P : α → Prop} {Q : β → Prop}
    (hFirst : Yields first P) (hNext : ∀ value, P value → Yields (next value) Q) :
    Yields (first >>= next) Q := by
  intro left result rest hRun
  rw [StateT.run_bind] at hRun
  obtain ⟨⟨value, middle⟩, hValue, hRest⟩ := Option.bind_eq_some_iff.1 hRun
  exact hNext value (hFirst left value middle hValue) middle result rest hRest

theorem yields_true (reading : Reading α) : Yields reading fun _ => True := by
  intro left value rest hRun
  trivial

theorem Yields.of_read? {document : Document} {reading : Node → Reading α} {P : α → Prop}
    (h : Yields (reading document.root) P) {value : α}
    (hRead : document.read? reading = some value) : P value := by
  obtain ⟨⟨found, rest⟩, hRun, rfl⟩ := Option.map_eq_some_iff.1 hRead
  exact h _ found rest hRun

theorem yields_readSchemas (document : Document) (node : Node) :
    Yields (readSchemas document node) ApiDocument.IsNamed := by
  unfold readSchemas
  refine (yields_true _).bind fun fields _ => ?_
  match fields with
  | [] => exact .pure ApiDocument.isNamed_empty
  | (_, schemas) :: _ =>
      refine (yields_true _).bind fun lists _ => ?_
      exact .pure (ApiDocument.isNamed_mapValues lists)

theorem yields_readApiDocument (document : Document) (node : Node) :
    Yields (readApiDocument document node) fun read => ApiDocument.IsNamed read.schemas := by
  unfold readApiDocument
  refine (yields_true _).bind fun fields _ => ?_
  -- What is read for the paths behind the schemas does not matter to these.
  cases fields.lookup "components" with
  | none =>
      refine (Yields.pure ApiDocument.isNamed_empty).bind fun schemas hNamed => ?_
      cases fields.lookup "paths" <;> exact (yields_true _).bind fun paths _ => .pure hNamed
  | some components =>
      refine (yields_readSchemas document components).bind fun schemas hNamed => ?_
      cases fields.lookup "paths" <;> exact (yields_true _).bind fun paths _ => .pure hNamed

end Yaml

/-! ## Documents that are filled -/

namespace ApiDocument

/-- A document as it can come about: it begins without schemas and paths, or is read, and schemas
and paths are added. -/
inductive Filled : ApiDocument → Prop
  | empty : Filled .empty
  | read {text : String} {document : ApiDocument} : ofYaml? text = some document → Filled document
  | schema {document : ApiDocument} (name : String) (properties : List String) :
      Filled document → Filled (document.addSchema name properties)
  | path {document : ApiDocument} (path : String) (payload : Json) :
      Filled document → Filled (document.addPath path payload)

theorem Filled.isNamed {document : ApiDocument} (h : document.Filled) :
    IsNamed document.schemas := by
  induction h with
  | empty => exact isNamed_empty
  | @read text document hText =>
      obtain ⟨source, -, hRead⟩ := Option.bind_eq_some_iff.1 hText
      exact (Yaml.yields_readApiDocument source source.root).of_read? hRead
  | schema name properties _ ih => exact ih.insert name properties
  | path path payload _ ih => exact ih

end ApiDocument

end CratePlan
