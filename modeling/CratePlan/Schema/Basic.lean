import CratePlan.Table

/-!
# Schemas

Of a schema, naming needs its name, the reference by which the rest of a document
points to it, and the names of its properties.
-/

namespace CratePlan

/-- A schema of a document. -/
structure Schema where
  name : String
  /-- How the rest of the document points to it. -/
  reference : String
  properties : List String
deriving Repr, DecidableEq, Inhabited

namespace Schema

/-- All references to schemas begin like this. -/
def referenceStart : String := "#/components/schemas/"

/-- The schema with a name and properties. -/
def ofName (name : String) (properties : List String) : Schema :=
  ⟨name, referenceStart ++ name, properties⟩

/-- The schema has a property. -/
def hasProperty (schema : Schema) (property : String) : Bool :=
  schema.properties.contains property

@[simp] theorem name_ofName (name : String) (properties : List String) :
    (ofName name properties).name = name := rfl

@[simp] theorem properties_ofName (name : String) (properties : List String) :
    (ofName name properties).properties = properties := rfl

end Schema

end CratePlan
