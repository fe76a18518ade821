import CratePlan.ApiDocument
import CratePlan.Proofs.TableEntries
import CratePlan.Settings
import Mathlib.Data.List.Perm.Subperm

/-!
# Renames of schemas

A rename takes a schema out of its place and adds it under another name, with the properties that
it has. The renames of a table are carried out one after the other, each on what those before it
have left: a schema may be renamed twice, or take a name that another one has just given up.

Schemas are looked up by name, so a rename does not depend on their order. What it may depend on is
whether a schema has the new name already. That schema is replaced, and its properties are gone.
The account is exact: the property lists before are those afterwards together with those of the
schemas that were replaced on the way. So all schemas are kept unless a rename meets one.

## Main statements

* `perm_renameSchemas`: renames keep the entries of two tables the same.
* `perm_propertyLists_renameAll`: the account of property lists.
* `keepsSchemas_iff`: when renames keep all schemas.
* `not_all_schemas_kept`: the usual renames on a document that loses a schema.
-/

namespace CratePlan

namespace ApiDocument

variable {schemas others : Table String Schema}

/-- Carry out the renames of a list, one after the other. -/
def renameAll (schemas : Table String Schema) (renames : List (String × String)) :
    Table String Schema :=
  renames.foldl (fun schemas entry => renameSchema schemas entry.1 entry.2) schemas

theorem schemas_renameSchemas (document : ApiDocument) (renames : Table String String) :
    (document.renameSchemas renames).schemas = renameAll document.schemas renames.entries :=
  rfl

/-! ## What a look-up sees -/

/-- A renamed schema is found under its new name and not under its old one. -/
theorem find?_renameSchema (schemas : Table String Schema) (old new key : String) :
    (renameSchema schemas old new).find? key =
      match schemas.find? old with
      | none => schemas.find? key
      | some schema =>
        if key = new then some (Schema.ofName new schema.properties)
        else if key = old then none
        else schemas.find? key := by
  unfold renameSchema
  cases schemas.find? old with
  | none => rfl
  | some schema => simp only [Table.find?_insert, Table.find?_erase]

/-- A rename looks schemas up, so that it does the same to two tables that answer alike. -/
theorem perm_renameSchema (h : schemas.entries.Perm others.entries) (old new : String) :
    (renameSchema schemas old new).entries.Perm (renameSchema others old new).entries := by
  rw [Table.perm_entries_iff] at h ⊢
  intro key
  rw [find?_renameSchema, find?_renameSchema, h old, h key]

theorem perm_renameAll (renames : List (String × String)) :
    ∀ {schemas others : Table String Schema}, schemas.entries.Perm others.entries →
      (renameAll schemas renames).entries.Perm (renameAll others renames).entries := by
  induction renames with
  | nil =>
      intro schemas others h
      exact h
  | cons first rest ih =>
      intro schemas others h
      exact ih (perm_renameSchema h first.1 first.2)

/-- However many renames there are, the schemas stay the same. -/
theorem perm_renameSchemas {document other : ApiDocument}
    (h : document.schemas.entries.Perm other.schemas.entries) (renames : Table String String) :
    (document.renameSchemas renames).schemas.entries.Perm
      (other.renameSchemas renames).schemas.entries :=
  perm_renameAll renames.entries h

/-! ## Schemas that are replaced -/

/-- The property lists of all schemas. -/
def propertyLists (schemas : Table String Schema) : List (List String) :=
  schemas.values.map Schema.properties

/-- The schema that a rename replaces, if there is one. -/
def replaced? (schemas : Table String Schema) (old new : String) : Option Schema :=
  match schemas.find? old with
  | none => none
  | some _ => (schemas.erase old).find? new

/-- The schemas that renames replace on the way. -/
def replacedBy (schemas : Table String Schema) : List (String × String) → List Schema
  | [] => []
  | (old, new) :: renames =>
    (replaced? schemas old new).toList ++ replacedBy (renameSchema schemas old new) renames

/-- A rename replaces nothing unless it finds its old name and its new one, and they differ. -/
theorem replaced?_eq_none_iff {old new : String} :
    replaced? schemas old new = none ↔
      (old ≠ new → old ∈ schemas.keys → new ∉ schemas.keys) := by
  unfold replaced?
  cases hOld : schemas.find? old with
  | none =>
      have hMissing : old ∉ schemas.keys := Table.find?_eq_none_iff.1 hOld
      simp [hMissing]
  | some schema =>
      have hKnown : old ∈ schemas.keys := by
        by_contra hMissing
        rw [Table.find?_eq_none_iff.2 hMissing] at hOld
        cases hOld
      rw [Table.find?_eq_none_iff, Table.keys_erase, List.mem_filter]
      by_cases hSame : new = old
      · simp [hSame]
      · simp [hSame, Ne.symm hSame, hKnown]

/-- One rename keeps all property lists but that of the schema that it replaces. -/
theorem perm_propertyLists_renameSchema (schemas : Table String Schema) (old new : String) :
    (propertyLists schemas).Perm ((replaced? schemas old new).toList.map Schema.properties ++
      propertyLists (renameSchema schemas old new)) := by
  have hOld := schemas.perm_values_erase old
  unfold propertyLists replaced? renameSchema
  cases hFind : schemas.find? old with
  | none => exact List.Perm.refl _
  | some schema =>
      rw [hFind] at hOld
      have hNew := (schemas.erase old).perm_values_erase new
      have hAdded :=
        (schemas.erase old).perm_values_insert new (Schema.ofName new schema.properties)
      have hSplit := (hOld.trans (hNew.cons schema)).map Schema.properties
      have hLast := (hAdded.map Schema.properties).append_left
        (((schemas.erase old).find? new).toList.map Schema.properties)
      simp only [List.map_append, List.map_cons, Schema.properties_ofName] at hSplit hLast
      exact hSplit.trans (List.perm_middle.symm.trans hLast.symm)

/-- Renames keep all property lists but those of the schemas that they replace. -/
theorem perm_propertyLists_renameAll (renames : List (String × String)) :
    ∀ schemas : Table String Schema, (propertyLists schemas).Perm
      ((replacedBy schemas renames).map Schema.properties ++
        propertyLists (renameAll schemas renames)) := by
  induction renames with
  | nil =>
      intro schemas
      exact List.Perm.refl _
  | cons first rest ih =>
      intro schemas
      have hFirst := perm_propertyLists_renameSchema schemas first.1 first.2
      have hRest := ih (renameSchema schemas first.1 first.2)
      rw [replacedBy, List.map_append, List.append_assoc]
      exact hFirst.trans (hRest.append_left _)

/-- Nothing is replaced on the way exactly if no single rename replaces something. -/
theorem replacedBy_eq_nil_iff (renames : List (String × String)) :
    ∀ schemas : Table String Schema, replacedBy schemas renames = [] ↔
      ∀ before old new after, renames = before ++ (old, new) :: after →
        replaced? (renameAll schemas before) old new = none := by
  induction renames with
  | nil =>
      intro schemas
      simp [replacedBy]
  | cons first rest ih =>
      intro schemas
      rw [replacedBy, List.append_eq_nil_iff, Option.toList_eq_nil_iff, ih]
      constructor
      · intro hNone before old new after hSplit
        cases before with
        | nil =>
            obtain ⟨rfl, -⟩ := List.cons_eq_cons.1 hSplit
            exact hNone.1
        | cons head tail =>
            obtain ⟨rfl, hTail⟩ := List.cons_eq_cons.1 hSplit
            exact hNone.2 tail old new after hTail
      · intro hNone
        refine ⟨hNone [] first.1 first.2 rest rfl, ?_⟩
        intro before old new after hSplit
        exact hNone (first :: before) old new after (congrArg (first :: ·) hSplit)

/-! ## Schemas that are kept -/

/-- The renames leave as many schemas as there were, and the property list of each schema is that
of a schema of its own afterwards. -/
structure KeepsSchemas (document : ApiDocument) (renames : Table String String) : Prop where
  size_eq : (document.renameSchemas renames).schemas.size = document.schemas.size
  lists : (propertyLists document.schemas).Subperm
    (propertyLists (document.renameSchemas renames).schemas)

/-- Renames keep all schemas exactly if none of them, when its turn comes, finds a schema of its
old name and another one of its new name. -/
theorem keepsSchemas_iff (document : ApiDocument) (renames : Table String String) :
    document.KeepsSchemas renames ↔
      ∀ before old new after, renames.entries = before ++ (old, new) :: after → old ≠ new →
        old ∈ (renameAll document.schemas before).keys →
          new ∉ (renameAll document.schemas before).keys := by
  have hAccount := perm_propertyLists_renameAll renames.entries document.schemas
  have hNone := replacedBy_eq_nil_iff renames.entries document.schemas
  simp only [replaced?_eq_none_iff] at hNone
  rw [← hNone]
  constructor
  · intro hKeeps
    -- A schema that is replaced is missing in the number, since no rename adds one.
    have hSize := hKeeps.size_eq
    have hLength := hAccount.length_eq
    simp only [propertyLists, Table.values, List.length_append, List.length_map] at hLength
    rw [schemas_renameSchemas, Table.size, Table.size] at hSize
    exact List.eq_nil_of_length_eq_zero (by omega)
  · intro hReplaced
    rw [hReplaced, List.map_nil, List.nil_append] at hAccount
    refine ⟨?_, hAccount.subperm⟩
    have hLength := hAccount.length_eq
    simp only [propertyLists, Table.values, List.length_map] at hLength
    exact hLength.symm

/-- A chain of renames keeps its schemas if it begins at its end. -/
theorem chain_keepsSchemas :
    ((empty.addSchema "A" ["x"]).addSchema "B" ["y"]).KeepsSchemas
      (Table.ofList [("B", "C"), ("A", "B")]) := by
  rw [keepsSchemas_iff]
  intro before old new after hSplit
  match before with
  | [] =>
      obtain ⟨hRename, -⟩ := List.cons_eq_cons.1 hSplit
      cases hRename
      decide
  | [first] =>
      obtain ⟨rfl, hTail⟩ := List.cons_eq_cons.1 hSplit
      obtain ⟨hRename, -⟩ := List.cons_eq_cons.1 hTail
      cases hRename
      decide
  | first :: second :: more =>
      have hTwo : (Table.ofList [("B", "C"), ("A", "B")]).entries.length = 2 := rfl
      have hLength := hTwo.symm.trans (congrArg List.length hSplit)
      simp only [List.length_append, List.length_cons] at hLength
      omega

/-- Not all schemas are kept: here the usual renames find a schema that has the new name. -/
theorem not_all_schemas_kept :
    ¬∀ (document : ApiDocument) (renames : Table String String), document.KeepsSchemas renames := by
  intro hAll
  have hKeeps := hAll ((empty.addSchema "RedfishError_error" ["error"]).addSchema
    "RedfishRedfishError" ["code"]) Settings.default.schemaRenames
  have hSize := hKeeps.size_eq
  revert hSize
  decide

end ApiDocument

end CratePlan
