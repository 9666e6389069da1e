import LakeCatalog.Json.Reader
import LakeCatalog.Json.Record

/-!
# Shapes of messages

A remote metastore describes the members of its messages by shapes.  An answer is accepted when
every member that its shape knows has a value of the right kind, at any depth and whether or not
anybody reads it; members that the shape does not know are passed over, and null stands for a
member that is missing.  Inside lists and maps null is not accepted.

Answers are read with more patience than files: numbers may begin with zeros, and what is passed
over may hold texts with bad escapes.

* `Shape` — the shapes;
* `tableMembers`, `databaseShape` — the shapes of the records that are answered;
* `decode`, `decodeRecord?` — the value of a shape that a spelling describes.
-/

namespace LakeCatalog.Glue

open Json (Spelled)

/-- The kinds of values.  A document is any value; the record of a table refers to itself. -/
inductive Shape where
  | string
  | boolean
  | int32
  | int64
  | timestamp
  | document
  | list (item : Shape)
  | map (value : Shape)
  | structure (members : List (String × Shape))
  | table

/-! ### The records of a metastore -/

namespace Shape

/-- Texts under the names of a record. -/
def strings (names : List String) : List (String × Shape) := names.map (·, string)

/-- A record that holds texts only. -/
def stringRecord (names : List String) : Shape := .structure (strings names)

/-- A column. -/
def column : Shape :=
  .structure (strings ["Name", "Type", "Comment"] ++ [("Parameters", .map .string)])

/-- How rows are laid out. -/
def serdeInfo : Shape :=
  .structure (strings ["Name", "SerializationLibrary"] ++ [("Parameters", .map .string)])

/-- Values that are stored apart from others. -/
def skewedInfo : Shape :=
  .structure [("SkewedColumnNames", .list .string), ("SkewedColumnValues", .list .string),
    ("SkewedColumnValueLocationMaps", .map .string)]

/-- A schema that is registered elsewhere. -/
def schemaReference : Shape :=
  .structure [("SchemaId", stringRecord ["SchemaArn", "SchemaName", "RegistryName"]),
    ("SchemaVersionId", .string), ("SchemaVersionNumber", .int64)]

/-- Where and how data is stored. -/
def storageDescriptor : Shape :=
  .structure (strings ["Location", "InputFormat", "OutputFormat"] ++
    [("Columns", .list column), ("AdditionalLocations", .list .string),
      ("Compressed", .boolean), ("NumberOfBuckets", .int32), ("SerdeInfo", serdeInfo),
      ("BucketColumns", .list .string),
      ("SortColumns", .list (.structure [("Column", .string), ("SortOrder", .int32)])),
      ("Parameters", .map .string), ("SkewedInfo", skewedInfo),
      ("StoredAsSubDirectories", .boolean), ("SchemaReference", schemaReference)])

/-- An error of a background task. -/
def errorDetail : Shape := stringRecord ["ErrorCode", "ErrorMessage"]

/-- A view in several dialects. -/
def viewDefinition : Shape :=
  .structure (strings ["Definer", "ViewVersionToken", "LastRefreshType"] ++
    [("IsProtected", .boolean), ("SubObjects", .list .string),
    ("ViewVersionId", .int64), ("RefreshSeconds", .int64),
    ("SubObjectVersionIds", .list .int64), ("SparkPipelineInfo", .map .string),
    ("Representations", .list (.structure (strings ["Dialect", "DialectVersion",
      "ViewOriginalText", "ViewExpandedText", "ValidationConnection"] ++
        [("IsStale", .boolean)])))])

/-- A field of a table that describes itself. -/
def icebergField : Shape :=
  .structure (strings ["Name", "Doc"] ++ [("Id", .int32), ("Required", .boolean),
    ("Type", .document), ("InitialDefault", .document), ("WriteDefault", .document)])

/-- The fields of a table that describes itself. -/
def icebergSchema : Shape :=
  .structure [("SchemaId", .int32), ("IdentifierFieldIds", .list .int32), ("Type", .string),
    ("Fields", .list icebergField)]

/-- How a table that describes itself is split into partitions. -/
def icebergPartitionSpec : Shape :=
  .structure [("SpecId", .int32), ("Fields", .list (.structure
    (strings ["Transform", "Name"] ++ [("SourceId", .int32), ("FieldId", .int32)])))]

/-- In which order a table that describes itself is kept. -/
def icebergSortOrder : Shape :=
  .structure [("OrderId", .int32), ("Fields", .list (.structure
    (strings ["Transform", "Direction", "NullOrder"] ++ [("SourceId", .int32)])))]

/-- What a table says about itself. -/
def icebergTableMetadata : Shape :=
  .structure (strings ["FormatVersion", "TableUuid", "Location"] ++
    [("Schemas", .list icebergSchema), ("PartitionSpecs", .list icebergPartitionSpec),
      ("SortOrders", .list icebergSortOrder), ("Properties", .map .string)])

/-- The state of a background task on a table. -/
def tableStatus : Shape :=
  .structure (strings ["RequestedBy", "UpdatedBy", "Action", "State"] ++
    [("RequestTime", .timestamp), ("UpdateTime", .timestamp), ("Error", errorDetail),
      ("Details", .structure [("RequestedChange", .table),
        ("ViewValidations", .list (.structure (strings ["Dialect", "DialectVersion",
          "ViewValidationText", "State"] ++
            [("UpdateTime", .timestamp), ("Error", errorDetail)])))])])

end Shape

/-- The members of the record of a table. -/
def tableMembers : List (String × Shape) :=
  Shape.strings ["Name", "DatabaseName", "Description", "Owner", "ViewOriginalText",
    "ViewExpandedText", "TableType", "CreatedBy", "CatalogId", "VersionId"] ++
    [("CreateTime", .timestamp), ("UpdateTime", .timestamp), ("LastAccessTime", .timestamp),
      ("LastAnalyzedTime", .timestamp), ("Retention", .int32),
      ("StorageDescriptor", Shape.storageDescriptor), ("PartitionKeys", .list Shape.column),
      ("Parameters", .map .string), ("IsRegisteredWithLakeFormation", .boolean),
      ("TargetTable", Shape.stringRecord ["CatalogId", "DatabaseName", "Name", "Region"]),
      ("FederatedTable", Shape.stringRecord ["Identifier", "DatabaseIdentifier",
        "ConnectionName", "ConnectionType"]),
      ("ViewDefinition", Shape.viewDefinition), ("IsMultiDialectView", .boolean),
      ("IsMaterializedView", .boolean), ("IcebergTableMetadata", Shape.icebergTableMetadata),
      ("RLSProperties", .structure []), ("Status", Shape.tableStatus)]

/-- The shape of the record of a database. -/
def databaseShape : Shape :=
  .structure (Shape.strings ["Name", "Description", "LocationUri", "CatalogId"] ++
    [("Parameters", .map .string), ("CreateTime", .timestamp),
      ("CreateTableDefaultPermissions", .list (.structure
        [("Principal", Shape.stringRecord ["DataLakePrincipalIdentifier"]),
          ("Permissions", .list .string)])),
      ("TargetDatabase", Shape.stringRecord ["CatalogId", "DatabaseName", "Region"]),
      ("FederatedDatabase", Shape.stringRecord ["Identifier", "ConnectionName",
        "ConnectionType"])])

/-! ### Numbers -/

open Decimal (Spelling)

/-- A number in an answer.  Leading zeros are good, and so is a point without digits on one of its
sides; without a point and an exponent the digits have to fit 64 bits. -/
def number? (cs : List Char) : Option Spelling := do
  let s ← Spelling.ofText? cs
  if s.isNumber ∧ (s.isPlain → s.integer.natAbs < 0x10000000000000000) then some s else none

/-- The whole number that is meant: as it is spelled where 64 bits are enough, and in double
precision otherwise. -/
def whole? (s : Spelling) : Option Int :=
  if s.isPlain ∧ Json.IsWord s.integer then some s.integer else s.value.whole?

/-- Whether a number is whole and fits 32 bits. -/
def isInt32 (i : Int) : Bool := -0x80000000 ≤ i && i < 0x80000000

/-- Whether a number is whole and fits 64 bits.  In double precision the greatest number of 64
bits is its successor. -/
def isInt64 (s : Spelling) (i : Int) : Bool :=
  -0x8000000000000000 ≤ i && (i < 0x8000000000000000 || (!s.isPlain && i = 0x8000000000000000))

/-- The value of a number of some shape. -/
def numberOf? (shape : Shape) (cs : List Char) : Option Json := do
  let s ← number? cs
  match shape with
  | .int32 => ((whole? s).filter isInt32).map .int
  | .int64 => ((whole? s).filter (isInt64 s)).map .int
  | .timestamp => if s.value.isFinite then some (.decimal s.value) else none
  | .document => some (.decimal s.value)
  | _ => none

/-! ### Values -/

/-- Known members may be nested this deep. -/
def maxDepth : Nat := 128

/-- Values that are passed over may be nested this deep. -/
def maxSkippedDepth : Nat := 256

mutual

/-- Whether a value can be passed over, with room for so many containers inside each other: its
numbers have to be good, its texts and names are not looked at. -/
def isSkippable (room : Nat) : Spelled → Bool
  | .number cs => (number? cs).isSome
  | .arr vs => match room with
    | 0 => false
    | room + 1 => areSkippable room vs
  | .obj ms => match room with
    | 0 => false
    | room + 1 => membersAreSkippable room ms
  | _ => true

/-- Whether all items can be passed over. -/
def areSkippable (room : Nat) : List Spelled → Bool
  | [] => true
  | v :: vs => isSkippable room v && areSkippable room vs

/-- Whether the values of all members can be passed over. -/
def membersAreSkippable (room : Nat) : List (List Char × Spelled) → Bool
  | [] => true
  | (_, v) :: ms => isSkippable room v && membersAreSkippable room ms

end

/-- The shape of a container of some shape, for its items or for a member. -/
def Shape.item? : Shape → Option Shape
  | .list item => some item
  | .document => some .document
  | _ => none

/-- What the members of an object of some shape are: values under any name, or the known members
of a record. -/
inductive Members where
  | values (shape : Shape)
  | known (members : List (String × Shape))

/-- The members of a shape. -/
def Shape.members? : Shape → Option Members
  | .map value => some (.values value)
  | .document => some (.values .document)
  | .structure members => some (.known members)
  | .table => some (.known tableMembers)
  | _ => none

/-- Whether null may stand inside a list or a map of values of a shape. -/
def Shape.allowsNull : Shape → Bool
  | .document => true
  | _ => false

mutual

/-- The value of some shape that a spelling describes, with room for so many containers inside
each other.  Null stands for a missing value of any shape. -/
def decode (room : Nat) (shape : Shape) : Spelled → Option Json
  | .null => some .null
  | .bool b => match shape with
    | .boolean | .document => some (.bool b)
    | _ => none
  | .number cs => numberOf? shape cs
  | .text cs => match shape with
    | .string | .document => (Json.textValue? cs).map .str
    | _ => none
  | .arr vs => match room, shape.item? with
    | room + 1, some item => (decodeItems room item vs).map .arr
    | _, _ => none
  | .obj ms => match room, shape.members? with
    | room + 1, some members => (decodeMembers room members ms).map .obj
    | _, _ => none

/-- The items of a list. -/
def decodeItems (room : Nat) (shape : Shape) : List Spelled → Option (List Json)
  | [] => some []
  | v :: vs =>
    match decode room shape v, decodeItems room shape vs with
    | some .null, some js => if shape.allowsNull then some (.null :: js) else none
    | some j, some js => some (j :: js)
    | _, _ => none

/-- The members of an object.  Of a record the members that it does not know are dropped. -/
def decodeMembers (room : Nat) (members : Members) :
    List (List Char × Spelled) → Option (List (String × Json))
  | [] => some []
  | (k, v) :: ms =>
    match Json.textValue? k, decodeMembers room members ms with
    | some k, some js =>
      match members with
      | .values shape =>
        match decode room shape v with
        | some .null => if shape.allowsNull then some ((k, .null) :: js) else none
        | some j => some ((k, j) :: js)
        | none => none
      | .known shapes =>
        match Entries.lookup k shapes with
        | some shape => (decode room shape v).map fun j => (k, j) :: js
        | none => if isSkippable maxSkippedDepth v then some js else none
    | _, _ => none

end

/-- The members of a record that a spelling describes. -/
def decodeRecord? (members : List (String × Shape)) : Spelled → Option (List (String × Json))
  | .obj ms => decodeMembers (maxDepth - 1) (.known members) ms
  | _ => none

end LakeCatalog.Glue
