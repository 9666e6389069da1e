import LakeCatalog.Backend
import LakeCatalog.Catalog.Records
import LakeCatalog.Text.Quoted

/-!
# Catalogs and tables

A catalog has a name and, optionally, a warehouse: the location below which tables are put that
have no place of their own.  A table is what a catalog answers when it is asked for one: the
state that was read, and where it was read from.
-/

namespace LakeCatalog

/-- A catalog.  Listings are given up after `pageBudget` pages. -/
structure Catalog where
  name : String
  warehouse : Option String := none
  pageBudget : Nat
deriving DecidableEq

/-- A table as it was when it was loaded. -/
structure Table where
  name : TableName
  metadata : Metadata
  metadataLocation : String
  catalog : Catalog
deriving DecidableEq

/-- What a new table is to be like. -/
structure TableCreation where
  schema : Schema
  location : Option String := none
  partitionSpec : Option PartitionSpec := none
  sortOrder : Option SortOrder := none
  properties : Properties := .empty
deriving DecidableEq

/-- A proposal for the next state of a table. -/
structure TableCommit where
  name : TableName
  baseMetadataLocation : String
  metadata : Metadata
deriving DecidableEq

/-- The description of a table for people: its name, where its state was read, and the catalog. -/
def Table.describe (t : Table) : String :=
  "Table \x7b ident: TableIdent \x7b namespace: NamespaceIdent("
    ++ Text.Quoted.quote t.name.space.text ++ "), name: " ++ Text.Quoted.quote t.name.table
    ++ " \x7d, metadata_location: " ++ Text.Quoted.quote t.metadataLocation
    ++ ", catalog: " ++ Text.Quoted.quote t.catalog.name ++ ", .. \x7d"

namespace Catalog

/-- The segments without a leading one that names the catalog, if at least `least` are given. -/
def withoutOwnName (c : Catalog) (least : Nat) (ss : List String) : List String :=
  match ss with
  | s :: rest => if least ≤ ss.length ∧ s = c.name then rest else ss
  | [] => []

/-- The table that a dotted text names; the name of the catalog may stand in front. -/
def tableName (c : Catalog) (identifier : String) : Except NameError TableName :=
  TableName.ofSegments (c.withoutOwnName 3 (segments identifier))

/-- The namespace that a dotted text names; the name of the catalog may stand in front. -/
def namespaceName (c : Catalog) (identifier : String) : Except NameError NamespaceName :=
  NamespaceName.ofSegments (c.withoutOwnName 2 (segments identifier))

end Catalog

end LakeCatalog
