import LakeCatalog.Error
import LakeCatalog.Record

/-!
# Properties and records

How the catalog's view of a table or namespace is kept in a record of the metastore.

A table of this catalog is a record that is marked with the table format and carries the
location of the current metadata file among its parameters.  The properties of a namespace are
the parameters of its record, but for two that have a place of their own there.

* `TableRecord.ofMetadata`, `TableRecord.metadataLocation` — the record of a new table, and the
  location in a record, which has to be marked;
* `TableRecord.renamed` — a record under another name;
* `DatabaseRecord.ofProperties`, `DatabaseRecord.properties` — the record of a namespace with
  some properties, and the properties in a record.
-/

namespace LakeCatalog

/-! ### Names of parameters -/

/-- The parameter that marks the format of a table. -/
def tableTypeKey : String := "table_type"

/-- The parameter with the location of the current metadata file. -/
def metadataLocationKey : String := "metadata_location"

/-- The mark of the table format, in any case of letters. -/
def formatMark : String := "ICEBERG"

/-- The property that is kept as the description of a record. -/
def descriptionKey : String := "Description"

/-- The property that is kept as the location of a record. -/
def locationKey : String := "location"

/-! ### Tables -/

/-- Whether two texts are the same but for the case of ASCII letters. -/
def sameLetters (a b : String) : Bool :=
  a.toList.map Text.lower = b.toList.map Text.lower

namespace TableRecord

/-- The record of a new table whose current metadata file lies at a location. -/
def ofMetadata (name metadataLocation : String) (properties : Properties) : TableRecord where
  name := name
  tableType := some TableKind.external.word
  description := properties.get? descriptionKey
  parameters :=
    (SortedMap.empty.insert tableTypeKey formatMark).insert metadataLocationKey metadataLocation

/-- The record under another name.  Its database is settled when it is created there. -/
def renamed (name : String) (source : TableRecord) : TableRecord :=
  { source with name := name, databaseName := none }

/-- The location of the current metadata file, if the record is marked as a table of this
catalog. -/
def metadataLocation (name : TableName) (r : TableRecord) : Except CatalogError String :=
  let space := r.databaseName.getD name.space.text
  let found := r.parameters.get? tableTypeKey
  if found.any (sameLetters · formatMark) then
    match r.parameters.get? metadataLocationKey with
    | some location => .ok location
    | none => .error (.missingProperty space r.name metadataLocationKey)
  else .error (.notThisFormat space r.name found)

end TableRecord

/-! ### Namespaces -/

namespace DatabaseRecord

/-- The record of a namespace with some properties. -/
def ofProperties (name : String) (properties : Properties) : DatabaseRecord where
  name := name
  description := properties.get? descriptionKey
  locationUri := properties.get? locationKey
  parameters := (properties.erase descriptionKey).erase locationKey

/-- The properties in the record of a namespace: its own places come before parameters of the
same name. -/
def properties (r : DatabaseRecord) : Properties :=
  let p := match r.locationUri with
    | some location => r.parameters.insert locationKey location
    | none => r.parameters
  match r.description with
  | some description => p.insert descriptionKey description
  | none => p

end DatabaseRecord

end LakeCatalog
