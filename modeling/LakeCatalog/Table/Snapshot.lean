import LakeCatalog.Json.Record

/-!
# Snapshots

The parts of table metadata that say which states a table has had: the snapshots, the names
that point to them, and the logs of what was current when.

A metadata file of version 1 has snapshots without a sequence number, and may leave out the list
of manifests and the summary.
-/

namespace LakeCatalog

/-- What a snapshot did to the rows. -/
inductive SnapshotOperation where
  | append
  | replace
  | overwrite
  | delete
deriving DecidableEq, Repr

namespace SnapshotOperation

/-- The word for an operation. -/
def text : SnapshotOperation → String
  | append => "append"
  | replace => "replace"
  | overwrite => "overwrite"
  | delete => "delete"

/-- The operation of a word. -/
def ofJson? (j : Json) : Option SnapshotOperation :=
  j.word?.bind fun s => [append, replace, overwrite, delete].find? fun o => o.text = s

end SnapshotOperation

/-- What a snapshot did, and further remarks. -/
structure SnapshotSummary where
  operation : SnapshotOperation := .append
  other : SortedMap String String := .empty
deriving DecidableEq

namespace SnapshotSummary

/-- The form of a summary in metadata. -/
def toJson (s : SnapshotSummary) : Json :=
  .obj (("operation", .str s.operation.text) :: s.other.entries.map fun e => (e.1, .str e.2))

/-- The summary that an object describes: every member but the operation is a remark. -/
def ofJson? (j : Json) : Option SnapshotSummary := do
  let ms ← j.members?
  let operation ← Json.required ms "operation" SnapshotOperation.ofJson?
  let other ← Json.textMap? (.obj (ms.filter fun m => m.1 ≠ "operation"))
  pure ⟨operation, other⟩

end SnapshotSummary

/-- A state of a table. -/
structure Snapshot where
  id : Int64
  parentId : Option Int64 := none
  sequenceNumber : Int64
  timestampMs : Int64
  manifestList : String
  summary : SnapshotSummary
  schemaId : Option Int32 := none
deriving DecidableEq

namespace Snapshot

/-- The members that come before the sequence number and after it. -/
def membersToJson (s : Snapshot) (sequenceNumber : Option Json) : Json :=
  Json.record [some ("snapshot-id", .ofInt64 s.id),
    s.parentId.map fun i => ("parent-snapshot-id", .ofInt64 i),
    sequenceNumber.map fun n => ("sequence-number", n),
    some ("timestamp-ms", .ofInt64 s.timestampMs), some ("manifest-list", .str s.manifestList),
    some ("summary", s.summary.toJson), s.schemaId.map fun i => ("schema-id", .ofInt32 i)]

/-- The form of a snapshot in metadata of version 2. -/
def toJson (s : Snapshot) : Json := s.membersToJson (some (.ofInt64 s.sequenceNumber))

/-- The form of a snapshot in metadata of version 1. -/
def toJsonV1 (s : Snapshot) : Json := s.membersToJson none

/-- The snapshot that a record of version 2 describes. -/
def ofJson? (j : Json) : Option Snapshot := do
  let ms ← j.record? ["snapshot-id", "parent-snapshot-id", "sequence-number", "timestamp-ms",
    "manifest-list", "summary", "schema-id"]
  let id ← Json.required ms "snapshot-id" Json.int64?
  let parentId ← Json.optional ms "parent-snapshot-id" Json.int64?
  let sequenceNumber ← Json.required ms "sequence-number" Json.int64?
  let timestampMs ← Json.required ms "timestamp-ms" Json.int64?
  let manifestList ← Json.required ms "manifest-list" Json.text?
  let summary ← Json.required ms "summary" SnapshotSummary.ofJson?
  let schemaId ← Json.optional ms "schema-id" Json.int32?
  pure ⟨id, parentId, sequenceNumber, timestampMs, manifestList, summary, schemaId⟩

/-- The snapshot that a record of version 1 describes.  A list of single manifests is read
and dropped. -/
def ofJsonV1? (j : Json) : Option Snapshot := do
  let ms ← j.record? ["snapshot-id", "parent-snapshot-id", "timestamp-ms", "manifest-list",
    "manifests", "summary", "schema-id"]
  let id ← Json.required ms "snapshot-id" Json.int64?
  let parentId ← Json.optional ms "parent-snapshot-id" Json.int64?
  let timestampMs ← Json.required ms "timestamp-ms" Json.int64?
  let manifestList ← Json.optional ms "manifest-list" Json.text?
  let _ ← Json.optional ms "manifests" (Json.listOf? Json.text?)
  let summary ← Json.optional ms "summary" SnapshotSummary.ofJson?
  let schemaId ← Json.optional ms "schema-id" Json.int32?
  pure ⟨id, parentId, 0, timestampMs, manifestList.getD "", summary.getD {}, schemaId⟩

end Snapshot

/-- How long what a name points to is kept. -/
inductive Retention where
  | branch (minSnapshotsToKeep : Option Int32) (maxSnapshotAgeMs maxRefAgeMs : Option Int64)
  | tag (maxRefAgeMs : Int64)
deriving DecidableEq

/-- A name for a snapshot. -/
structure SnapshotRef where
  snapshotId : Int64
  retention : Retention := .branch none none none
deriving DecidableEq

namespace SnapshotRef

/-- The form of a name in metadata. -/
def toJson (r : SnapshotRef) : Json :=
  let members := match r.retention with
    | .branch minSnapshots maxSnapshotAge maxRefAge =>
      [some ("type", .str "branch"),
        minSnapshots.map fun i => ("min-snapshots-to-keep", .ofInt32 i),
        maxSnapshotAge.map fun i => ("max-snapshot-age-ms", .ofInt64 i),
        maxRefAge.map fun i => ("max-ref-age-ms", .ofInt64 i)]
    | .tag maxRefAge => [some ("type", .str "tag"), some ("max-ref-age-ms", .ofInt64 maxRefAge)]
  Json.record (some ("snapshot-id", .ofInt64 r.snapshotId) :: members)

/-- The kinds of names. -/
def kinds : List String := ["branch", "tag"]

/-- A kind of names: its word, or its place among the kinds. -/
def kind? : Json → Option String
  | .str s => kinds.find? (· = s)
  | .int i => if 0 ≤ i then kinds[i.toNat]? else none
  | _ => none

/-- The name that an object describes. -/
def ofJson? (j : Json) : Option SnapshotRef := do
  let ms ← j.members?
  let snapshotId ← Json.required ms "snapshot-id" Json.int64?
  let kind ← Json.required ms "type" kind?
  if kind = "branch" then
    let minSnapshots ← Json.optional ms "min-snapshots-to-keep" Json.int32?
    let maxSnapshotAge ← Json.optional ms "max-snapshot-age-ms" Json.int64?
    let maxRefAge ← Json.optional ms "max-ref-age-ms" Json.int64?
    pure ⟨snapshotId, .branch minSnapshots maxSnapshotAge maxRefAge⟩
  else
    let maxRefAge ← Json.required ms "max-ref-age-ms" Json.int64?
    pure ⟨snapshotId, .tag maxRefAge⟩

end SnapshotRef

/-- When a snapshot became current. -/
structure SnapshotLogEntry where
  snapshotId : Int64
  timestampMs : Int64
deriving DecidableEq

namespace SnapshotLogEntry

/-- The form of an entry in metadata. -/
def toJson (e : SnapshotLogEntry) : Json :=
  .obj [("snapshot-id", .ofInt64 e.snapshotId), ("timestamp-ms", .ofInt64 e.timestampMs)]

/-- The entry that a record describes. -/
def ofJson? (j : Json) : Option SnapshotLogEntry := do
  let ms ← j.record? ["snapshot-id", "timestamp-ms"]
  let snapshotId ← Json.required ms "snapshot-id" Json.int64?
  let timestampMs ← Json.required ms "timestamp-ms" Json.int64?
  pure ⟨snapshotId, timestampMs⟩

end SnapshotLogEntry

/-- When a metadata file became current. -/
structure MetadataLogEntry where
  metadataFile : String
  timestampMs : Int64
deriving DecidableEq

namespace MetadataLogEntry

/-- The form of an entry in metadata. -/
def toJson (e : MetadataLogEntry) : Json :=
  .obj [("metadata-file", .str e.metadataFile), ("timestamp-ms", .ofInt64 e.timestampMs)]

/-- The entry that a record describes. -/
def ofJson? (j : Json) : Option MetadataLogEntry := do
  let ms ← j.record? ["metadata-file", "timestamp-ms"]
  let metadataFile ← Json.required ms "metadata-file" Json.text?
  let timestampMs ← Json.required ms "timestamp-ms" Json.int64?
  pure ⟨metadataFile, timestampMs⟩

end MetadataLogEntry

end LakeCatalog
