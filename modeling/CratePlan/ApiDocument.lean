import CratePlan.Json.Basic
import CratePlan.Schema.Basic

/-!
# Documents

A document describes an interface by its schemas and by the operations at each of
its paths. Both are tables: adding a name that is there already replaces what it
stood for, at its place.

Some schemas have no name in the source of a document and get one from the tool
that wrote it. The settings give these better names. A renamed schema leaves its
place and is added anew under the other name.
-/

namespace CratePlan

/-- The schemas and paths of a document. -/
structure ApiDocument where
  schemas : Table String Schema
  paths : Table String Json
deriving Inhabited

namespace ApiDocument

/-- The document without schemas and paths. -/
def empty : ApiDocument := ⟨Table.empty, Table.empty⟩

/-- Add a schema. -/
def addSchema (document : ApiDocument) (name : String) (properties : List String) : ApiDocument :=
  { document with schemas := document.schemas.insert name (Schema.ofName name properties) }

/-- Add a path. -/
def addPath (document : ApiDocument) (path : String) (payload : Json) : ApiDocument :=
  { document with paths := document.paths.insert path payload }

/-- Give one schema another name, if it is there. -/
def renameSchema (schemas : Table String Schema) (old new : String) : Table String Schema :=
  match schemas.find? old with
  | none => schemas
  | some schema => (schemas.erase old).insert new (Schema.ofName new schema.properties)

/-- Carry out renames, one after the other. -/
def renameSchemas (document : ApiDocument) (renames : Table String String) : ApiDocument :=
  { document with
    schemas := renames.entries.foldl
      (fun schemas entry => renameSchema schemas entry.1 entry.2) document.schemas }

end ApiDocument

end CratePlan
