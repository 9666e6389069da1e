import LakeCatalog.Json.Reader
import LakeCatalog.Table.Layout
import LakeCatalog.Table.Snapshot
import LakeCatalog.Uuid

/-!
# Table metadata

The state of a table as it stands in its current metadata file.  Files come in two versions.
Version 2 is what new tables get; a file of version 1 spells several things twice, once for
readers that know a single schema and partition spec, and leaves out what can be derived.

* `Metadata` — the state, with schemas, partition specs, sort orders and snapshots by id;
* `Metadata.initial` — the state of a new table;
* `Metadata.toJson`, `Metadata.ofJson?` — the form in files of either version;
* `Metadata.write?`, `Metadata.read?` — the content of a metadata file.
-/

namespace LakeCatalog

/-- The versions of metadata files. -/
inductive FormatVersion where
  | v1
  | v2
deriving DecidableEq, Repr

/-- The state of a table. -/
structure Metadata where
  formatVersion : FormatVersion
  tableUuid : Uuid
  location : String
  lastSequenceNumber : Int64 := 0
  lastUpdatedMs : Int64
  lastColumnId : Int32 := 0
  schemas : SortedMap Int32 Schema
  currentSchemaId : Int32
  partitionSpecs : SortedMap Int32 PartitionSpec
  defaultSpecId : Int32 := 0
  lastPartitionId : Int32 := 0
  properties : SortedMap String String := .empty
  currentSnapshotId : Option Int64 := none
  snapshots : SortedMap Int64 Snapshot := .empty
  snapshotLog : List SnapshotLogEntry := []
  metadataLog : List MetadataLogEntry := []
  sortOrders : SortedMap Int32 SortOrder
  defaultSortOrderId : Int32 := 0
  refs : SortedMap String SnapshotRef := .empty
deriving DecidableEq

/-- What makes the metadata of a new table its own: identifiers that nothing else has, and the
time. -/
structure Fresh where
  fileId : Uuid
  tableId : Uuid
  nowMs : Int64
deriving DecidableEq

namespace Metadata

/-- The location of a new metadata file of a table. -/
def fileLocation (fileId : Uuid) (tableLocation : String) : String :=
  Text.trimRight '/' tableLocation ++ "/metadata/00000-" ++ fileId.text ++ ".metadata.json"

/-- The state of a new table.  The given schema is current; a given partition spec and a given
sort order are filed under the default id zero, whatever their own ids say. -/
def initial (fresh : Fresh) (location : String) (schema : Schema)
    (partitionSpec : Option PartitionSpec) (sortOrder : Option SortOrder)
    (properties : SortedMap String String) : Metadata where
  formatVersion := .v2
  tableUuid := fresh.tableId
  location := location
  lastUpdatedMs := fresh.nowMs
  schemas := .ofList [(schema.id, schema)]
  currentSchemaId := schema.id
  partitionSpecs := .ofList [(0, partitionSpec.getD .unpartitioned)]
  properties := properties
  sortOrders := .ofList [(0, sortOrder.getD .unsorted)]

/-- Things by their ids; of two with one id the later counts. -/
def byId {κ α : Type} [LT κ] [DecidableEq κ] [DecidableLT κ] [KeyOrder κ] (id : α → κ)
    (as : List α) : SortedMap κ α :=
  .ofList (as.map fun a => (id a, a))

/-! ### Writing -/

/-- A member for a list that is left out when it is empty. -/
def nonEmptyList {α : Type} (name : String) (f : α → Json) (as : List α) :
    Option (String × Json) :=
  if as.isEmpty then none else some (name, .arr (as.map f))

/-- A member for texts that is left out when there are none. -/
def nonEmptyTexts (m : SortedMap String String) : Option (String × Json) :=
  if m.isEmpty then none else some ("properties", .ofTextMap m)

/-- The id of the current snapshot, or minus one. -/
def snapshotIdToJson (m : Metadata) : Json := .ofInt64 (m.currentSnapshotId.getD (-1))

/-- The form of a state in files of version 2. -/
def toJsonV2 (m : Metadata) : Json :=
  Json.record [some ("format-version", .int 2), some ("table-uuid", .str m.tableUuid.text),
    some ("location", .str m.location),
    some ("last-sequence-number", .ofInt64 m.lastSequenceNumber),
    some ("last-updated-ms", .ofInt64 m.lastUpdatedMs),
    some ("last-column-id", .ofInt32 m.lastColumnId),
    some ("schemas", .arr (m.schemas.values.map Schema.toJson)),
    some ("current-schema-id", .ofInt32 m.currentSchemaId),
    some ("partition-specs", .arr (m.partitionSpecs.values.map PartitionSpec.toJson)),
    some ("default-spec-id", .ofInt32 m.defaultSpecId),
    some ("last-partition-id", .ofInt32 m.lastPartitionId),
    nonEmptyTexts m.properties,
    some ("current-snapshot-id", m.snapshotIdToJson),
    some ("snapshots", .arr (m.snapshots.values.map Snapshot.toJson)),
    nonEmptyList "snapshot-log" SnapshotLogEntry.toJson m.snapshotLog,
    nonEmptyList "metadata-log" MetadataLogEntry.toJson m.metadataLog,
    some ("sort-orders", .arr (m.sortOrders.values.map SortOrder.toJson)),
    some ("default-sort-order-id", .ofInt32 m.defaultSortOrderId),
    if m.refs.isEmpty then none
    else some ("refs", .obj (m.refs.entries.map fun e => (e.1, e.2.toJson)))]

/-- The schemas in the order of their own ids. -/
def schemasById (m : Metadata) : List Schema :=
  m.schemas.values.mergeSort fun a b => a.id ≤ b.id

/-- The form of a state in files of version 1, which need the current schema. -/
def toJsonV1? (m : Metadata) : Option Json := do
  let schema ← m.schemas.get? m.currentSchemaId
  let partitionFields := match m.partitionSpecs.get? m.defaultSpecId with
    | some spec => spec.fieldsToJson
    | none => .arr []
  pure <| Json.record [some ("format-version", .int 1),
    some ("table-uuid", .str m.tableUuid.text), some ("location", .str m.location),
    some ("last-updated-ms", .ofInt64 m.lastUpdatedMs),
    some ("last-column-id", .ofInt32 m.lastColumnId),
    some ("schema", schema.toJson),
    some ("schemas", .arr (m.schemasById.map Schema.toJson)),
    some ("current-schema-id", .ofInt32 m.currentSchemaId),
    some ("partition-spec", partitionFields),
    some ("partition-specs", .arr (m.partitionSpecs.values.map PartitionSpec.toJson)),
    some ("default-spec-id", .ofInt32 m.defaultSpecId),
    some ("last-partition-id", .ofInt32 m.lastPartitionId),
    nonEmptyTexts m.properties,
    some ("current-snapshot-id", m.snapshotIdToJson),
    some ("snapshots", .arr (m.snapshots.values.map Snapshot.toJsonV1)),
    nonEmptyList "snapshot-log" SnapshotLogEntry.toJson m.snapshotLog,
    nonEmptyList "metadata-log" MetadataLogEntry.toJson m.metadataLog,
    some ("sort-orders", .arr (m.sortOrders.values.map SortOrder.toJson)),
    some ("default-sort-order-id", .ofInt32 m.defaultSortOrderId)]

/-- The form of a state in files of its version. -/
def toJson? (m : Metadata) : Option Json :=
  match m.formatVersion with
  | .v1 => m.toJsonV1?
  | .v2 => some m.toJsonV2

/-- The content of the metadata file of a state. -/
def write? (m : Metadata) : Option ByteArray := m.toJson?.map fun j => j.render.toUTF8

/-! ### Reading -/

/-- The mark of a version. -/
def version? (n : Int) (ms : List (String × Json)) : Option Unit :=
  Json.required ms "format-version" fun j =>
    match j with
    | .int i => if i = n then some () else none
    | _ => none

/-- A UUID given as a text. -/
def uuid? (j : Json) : Option Uuid := j.text?.bind Uuid.ofText?

/-- A member with a list, where missing means empty. -/
def listMember {α : Type} (ms : List (String × Json)) (name : String) (f : Json → Option α) :
    Option (List α) :=
  Json.defaulted ms name [] (Json.listOf? f)

/-- The name of the branch that the current snapshot is on. -/
def mainBranch : String := "main"

/-- Minus one stands for no snapshot. -/
def noMinusOne (i : Option Int64) : Option Int64 := i.filter fun i => i ≠ -1

/-- The names of the members of a file of version 2, without the last. -/
def namesV2 : List String :=
  ["format-version", "table-uuid", "location", "last-sequence-number", "last-updated-ms",
    "last-column-id", "schemas", "current-schema-id", "partition-specs", "default-spec-id",
    "last-partition-id", "properties", "current-snapshot-id", "snapshots", "snapshot-log",
    "metadata-log", "sort-orders", "default-sort-order-id"]

/-- The state that a record of version 2 describes. -/
def ofJsonV2? (j : Json) : Option Metadata := do
  let ms ← j.recordWith? namesV2 ["refs"]
  version? 2 ms
  let tableUuid ← Json.required ms "table-uuid" uuid?
  let location ← Json.required ms "location" Json.text?
  let lastSequenceNumber ← Json.required ms "last-sequence-number" Json.int64?
  let lastUpdatedMs ← Json.required ms "last-updated-ms" Json.int64?
  let lastColumnId ← Json.required ms "last-column-id" Json.int32?
  let schemas ← Json.required ms "schemas" (Json.listOf? Schema.ofJson?)
  let currentSchemaId ← Json.required ms "current-schema-id" Json.int32?
  let partitionSpecs ← Json.required ms "partition-specs" (Json.listOf? PartitionSpec.ofJson?)
  let defaultSpecId ← Json.required ms "default-spec-id" Json.int32?
  let lastPartitionId ← Json.required ms "last-partition-id" Json.int32?
  let properties ← Json.defaulted ms "properties" .empty Json.textMap?
  let currentSnapshotId ← Json.optional ms "current-snapshot-id" Json.int64?
  let snapshots ← Json.optional ms "snapshots" (Json.listOf? Snapshot.ofJson?)
  let snapshotLog ← listMember ms "snapshot-log" SnapshotLogEntry.ofJson?
  let metadataLog ← listMember ms "metadata-log" MetadataLogEntry.ofJson?
  let sortOrders ← Json.required ms "sort-orders" (Json.listOf? SortOrder.ofJson?)
  let defaultSortOrderId ← Json.required ms "default-sort-order-id" Json.int32?
  let refs ← Json.defaulted ms "refs" [] fun j => do
    (← j.members?).mapM fun m => (SnapshotRef.ofJson? m.2).map (m.1, ·)
  let schemas := byId Schema.id schemas
  let current := noMinusOne currentSnapshotId
  let refs := SortedMap.ofList refs
  if schemas.contains currentSchemaId then
    pure {
      formatVersion := .v2
      tableUuid, location, lastSequenceNumber, lastUpdatedMs, lastColumnId, schemas
      currentSchemaId
      partitionSpecs := byId PartitionSpec.id partitionSpecs
      defaultSpecId, lastPartitionId, properties
      currentSnapshotId := current
      snapshots := byId Snapshot.id (snapshots.getD [])
      snapshotLog, metadataLog
      sortOrders := byId SortOrder.id sortOrders
      defaultSortOrderId
      refs := match current with
        | some id =>
          if refs.contains mainBranch then refs
          else refs.insert mainBranch { snapshotId := id }
        | none => refs }
  else none

/-- Schemas that may lack an id, each with the id under which it is filed. -/
def schemasV1? (j : Json) : Option (List (Int32 × Schema)) :=
  match j with
  | .arr js =>
    (js.zip (List.range js.length)).mapM fun p => Schema.ofJsonAt? (Int32.ofNat p.2) p.1
  | _ => none

/-- The largest id of some things. -/
def largest? (ids : List Int32) : Option Int32 :=
  ids.foldl (fun m i => match m with
    | some n => some (if n < i then i else n)
    | none => some i) none

/-- The names of the members of a file of version 1. -/
def namesV1 : List String :=
  ["format-version", "table-uuid", "location", "last-updated-ms", "last-column-id", "schema",
    "schemas", "current-schema-id", "partition-spec", "partition-specs", "default-spec-id",
    "last-partition-id", "properties", "current-snapshot-id", "snapshots", "snapshot-log",
    "metadata-log", "sort-orders", "default-sort-order-id"]

/-- The state that a record of version 1 describes. -/
def ofJsonV1? (j : Json) : Option Metadata := do
  let ms ← j.record? namesV1
  version? 1 ms
  let tableUuid ← Json.optional ms "table-uuid" uuid?
  let location ← Json.required ms "location" Json.text?
  let lastUpdatedMs ← Json.required ms "last-updated-ms" Json.int64?
  let lastColumnId ← Json.required ms "last-column-id" Json.int32?
  let schema ← Json.required ms "schema" (Schema.ofJsonAt? 0)
  let schemas ← Json.optional ms "schemas" schemasV1?
  let currentSchemaId ← Json.optional ms "current-schema-id" Json.int32?
  let partitionSpec ← Json.required ms "partition-spec" (Json.listOf? PartitionField.ofJson?)
  let partitionSpecs ← Json.optional ms "partition-specs" (Json.listOf? PartitionSpec.ofJson?)
  let defaultSpecId ← Json.optional ms "default-spec-id" Json.int32?
  let lastPartitionId ← Json.optional ms "last-partition-id" Json.int32?
  let properties ← Json.defaulted ms "properties" .empty Json.textMap?
  let currentSnapshotId ← Json.optional ms "current-snapshot-id" Json.int64?
  let snapshots ← Json.optional ms "snapshots" (Json.listOf? Snapshot.ofJsonV1?)
  let snapshotLog ← listMember ms "snapshot-log" SnapshotLogEntry.ofJson?
  let metadataLog ← listMember ms "metadata-log" MetadataLogEntry.ofJson?
  let sortOrders ← Json.optional ms "sort-orders" (Json.listOf? SortOrder.ofJson?)
  let defaultSortOrderId ← Json.optional ms "default-sort-order-id" Json.int32?
  let schemas := SortedMap.ofList (schemas.getD [schema])
  let specs := byId PartitionSpec.id (partitionSpecs.getD [⟨0, partitionSpec⟩])
  let lastSpecId := (largest? specs.keys).getD 0
  pure {
    formatVersion := .v1
    tableUuid := tableUuid.getD .nil
    location, lastUpdatedMs, lastColumnId, schemas
    currentSchemaId := currentSchemaId.getD ((largest? schemas.keys).getD 0)
    partitionSpecs := specs
    defaultSpecId := defaultSpecId.getD lastSpecId
    lastPartitionId := lastPartitionId.getD lastSpecId
    properties
    currentSnapshotId := noMinusOne currentSnapshotId
    snapshots := byId Snapshot.id (snapshots.getD [])
    snapshotLog, metadataLog
    sortOrders := byId SortOrder.id (sortOrders.getD [])
    defaultSortOrderId := defaultSortOrderId.getD 0 }

/-- The state that a record describes, of whichever version it is. -/
def ofJson? (j : Json) : Option Metadata := (ofJsonV2? j).or (ofJsonV1? j)

/-- The state in a metadata file. -/
def read? (content : ByteArray) : Option Metadata := (Json.parseBytes? content).bind ofJson?

end Metadata

end LakeCatalog
