import LakeCatalog.Table.FieldType

/-!
# Schemas, partitions and sort orders

The parts of table metadata that say how rows look, how they are split into partitions and in
which order they are kept.  Each part has an id, under which a table may hold several of them,
and a form in metadata that is written with `toJson` and read with `ofJson?`.
-/

namespace LakeCatalog

/-! ### Schemas -/

/-- The fields of a table. -/
structure Schema where
  id : Int32
  identifierFieldIds : Option (List Int32) := none
  fields : List Field
deriving DecidableEq

namespace Schema

/-- The form of a schema in metadata. -/
def toJson (s : Schema) : Json :=
  Json.record [some ("type", .str "struct"), some ("schema-id", .ofInt32 s.id),
    s.identifierFieldIds.map fun ids => ("identifier-field-ids", .arr (ids.map .ofInt32)),
    some ("fields", .arr (Field.toJsonList s.fields))]

/-- The parts of the schema that an object describes, all but its id. -/
def partsOfJson? (ms : List (String × Json)) : Option (Option (List Int32) × List Field) := do
  let ids ← Json.optional ms "identifier-field-ids" (Json.listOf? Json.int32?)
  let fields ← Json.required ms "fields" Field.listOfJson?
  pure (ids, fields)

/-- The schema that an object describes. -/
def ofJson? (j : Json) : Option Schema := do
  let ms ← j.members?
  let id ← Json.required ms "schema-id" Json.int32?
  let parts ← partsOfJson? ms
  pure ⟨id, parts.1, parts.2⟩

/-- The schema that an object describes, filed under its id.  A schema without an id has the id
zero, and is filed under its place in a list. -/
def ofJsonAt? (index : Int32) (j : Json) : Option (Int32 × Schema) := do
  let ms ← j.members?
  let id ← Json.optional ms "schema-id" Json.int32?
  let parts ← partsOfJson? ms
  pure (id.getD index, ⟨id.getD 0, parts.1, parts.2⟩)

end Schema

/-! ### Transforms -/

/-- How the value of a field becomes a partition or sort key. -/
inductive Transform where
  | identity
  | year
  | month
  | day
  | hour
  | void
  | bucket (count : UInt32)
  | truncate (width : UInt32)
deriving DecidableEq, Repr

namespace Transform

/-- The transforms without parameters, with their names. -/
def plain : List (String × Transform) :=
  [("identity", identity), ("year", year), ("month", month), ("day", day), ("hour", hour),
    ("void", void)]

/-- The text of a transform. -/
def text : Transform → String
  | identity => "identity"
  | year => "year"
  | month => "month"
  | day => "day"
  | hour => "hour"
  | void => "void"
  | bucket n => "bucket[" ++ Text.Numeral.text n.toNat ++ "]"
  | truncate n => "truncate[" ++ Text.Numeral.text n.toNat ++ "]"

/-- The transform of a text. -/
def ofText? (s : String) : Option Transform :=
  let cs := s.toList
  if startsWith "bucket" cs then (readUInt32? (parameterText "bucket[" ']' cs)).map bucket
  else if startsWith "truncate" cs then
    (readUInt32? (parameterText "truncate[" ']' cs)).map truncate
  else Entries.lookup s plain

/-- The transform that a text value names. -/
def ofJson? (j : Json) : Option Transform := j.text?.bind ofText?

end Transform

/-! ### Partitions -/

/-- A partition key made from a field. -/
structure PartitionField where
  sourceId : Int32
  fieldId : Int32
  name : String
  transform : Transform
deriving DecidableEq

/-- How a table is split into partitions. -/
structure PartitionSpec where
  id : Int32
  fields : List PartitionField
deriving DecidableEq

namespace PartitionField

/-- The form of a partition key in metadata. -/
def toJson (f : PartitionField) : Json :=
  .obj [("source-id", .ofInt32 f.sourceId), ("field-id", .ofInt32 f.fieldId),
    ("name", .str f.name), ("transform", .str f.transform.text)]

/-- The partition key that a record describes. -/
def ofJson? (j : Json) : Option PartitionField := do
  let ms ← j.record? ["source-id", "field-id", "name", "transform"]
  let sourceId ← Json.required ms "source-id" Json.int32?
  let fieldId ← Json.required ms "field-id" Json.int32?
  let name ← Json.required ms "name" Json.text?
  let transform ← Json.required ms "transform" Transform.ofJson?
  pure ⟨sourceId, fieldId, name, transform⟩

end PartitionField

namespace PartitionSpec

/-- The split into a single partition. -/
def unpartitioned : PartitionSpec := ⟨0, []⟩

/-- The form of the fields alone. -/
def fieldsToJson (s : PartitionSpec) : Json := .arr (s.fields.map PartitionField.toJson)

/-- The form of a partition spec in metadata. -/
def toJson (s : PartitionSpec) : Json :=
  .obj [("spec-id", .ofInt32 s.id), ("fields", s.fieldsToJson)]

/-- The partition spec that a record describes. -/
def ofJson? (j : Json) : Option PartitionSpec := do
  let ms ← j.record? ["spec-id", "fields"]
  let id ← Json.required ms "spec-id" Json.int32?
  let fields ← Json.required ms "fields" (Json.listOf? PartitionField.ofJson?)
  pure ⟨id, fields⟩

end PartitionSpec

/-! ### Sort orders -/

/-- Which values come first. -/
inductive SortDirection where
  | ascending
  | descending
deriving DecidableEq, Repr

/-- Where missing values stand. -/
inductive NullOrder where
  | first
  | last
deriving DecidableEq, Repr

namespace SortDirection

/-- The word for a direction. -/
def text : SortDirection → String
  | ascending => "asc"
  | descending => "desc"

/-- The direction of a word. -/
def ofJson? (j : Json) : Option SortDirection :=
  j.word?.bind fun s => [ascending, descending].find? fun d => d.text = s

end SortDirection

namespace NullOrder

/-- The words for a place of missing values. -/
def text : NullOrder → String
  | first => "nulls-first"
  | last => "nulls-last"

/-- The place of missing values in words. -/
def ofJson? (j : Json) : Option NullOrder :=
  j.word?.bind fun s => [first, last].find? fun o => o.text = s

end NullOrder

/-- A sort key made from a field. -/
structure SortField where
  sourceId : Int32
  transform : Transform
  direction : SortDirection
  nullOrder : NullOrder
deriving DecidableEq

/-- The order in which rows are kept. -/
structure SortOrder where
  id : Int32
  fields : List SortField
deriving DecidableEq

namespace SortField

/-- The form of a sort key in metadata. -/
def toJson (f : SortField) : Json :=
  .obj [("source-id", .ofInt32 f.sourceId), ("transform", .str f.transform.text),
    ("direction", .str f.direction.text), ("null-order", .str f.nullOrder.text)]

/-- The sort key that a record describes. -/
def ofJson? (j : Json) : Option SortField := do
  let ms ← j.record? ["source-id", "transform", "direction", "null-order"]
  let sourceId ← Json.required ms "source-id" Json.int32?
  let transform ← Json.required ms "transform" Transform.ofJson?
  let direction ← Json.required ms "direction" SortDirection.ofJson?
  let nullOrder ← Json.required ms "null-order" NullOrder.ofJson?
  pure ⟨sourceId, transform, direction, nullOrder⟩

end SortField

namespace SortOrder

/-- No order. -/
def unsorted : SortOrder := ⟨0, []⟩

/-- The form of a sort order in metadata. -/
def toJson (o : SortOrder) : Json :=
  .obj [("order-id", .ofInt32 o.id), ("fields", .arr (o.fields.map SortField.toJson))]

/-- The sort order that a record describes. -/
def ofJson? (j : Json) : Option SortOrder := do
  let ms ← j.record? ["order-id", "fields"]
  let id ← Json.required ms "order-id" Json.int32?
  let fields ← Json.required ms "fields" (Json.listOf? SortField.ofJson?)
  pure ⟨id, fields⟩

end SortOrder

end LakeCatalog
