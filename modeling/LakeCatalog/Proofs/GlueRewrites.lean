import LakeCatalog.Proofs.GlueRoundTrip

/-!
# Records that are read, changed and written back

A table is renamed by reading its record and registering it under the new name, and the properties
of a namespace are updated by reading its record and replacing it.  A remote metastore takes what it
is sent for the whole record, and its records have more members than the client knows: what the
client does not know is not sent, and is lost.

* `Response.Shows` — an answer tells of a record, with all the members that it has there;
* `tableOfGlue_tableToGlue`, `databaseOfGlue_databaseToGlue` — what is sent is read as what it was
  made of;
* `SendsTable`, `SendsDatabase` — which members of a record are sent again, and which are not;
* `Action.Rewrites` — an action that reads a record first, and then writes one;
* `rewrites_keep_known` — the two operations, for every answer;
* `rewrites_lose_members` — a table and a database that lose members.
-/

namespace LakeCatalog.Glue

open Metastore (Call)

/-! ### Answers that tell of a record -/

/-- An answer is accepted and tells of a record, which has these members. -/
structure Response.Shows (r : Response) (key : String) (shape : Shape) (ms : List (String × Json)) :
    Prop where
  good : r.Good
  members : ∃ js, answerOf r [(key, shape)] = .ok js ∧ recordOf js key = some ms

section Shows

variable {r : Response} {key : String} {shape : Shape} {ms : List (String × Json)}

theorem Response.Shows.getTable (h : r.Shows "Table" .table ms) (a b : String) :
    replyTo (.getTable a b) (some r) = .ok (tableOfGlue (.obj ms)) := by
  obtain ⟨js, hjs, hrecord⟩ := h.members
  have hsuccess : successOf (.getTable a b) r = .ok (tableOfGlue (.obj ms)) := by
    show (answerOf r [("Table", .table)]).bind _ = _
    rw [hjs]
    simp only [Except.bind, hrecord]
  exact (if_pos h.good).trans hsuccess

theorem Response.Shows.getDatabase (h : r.Shows "Database" databaseShape ms) (a : String) :
    replyTo (.getDatabase a) (some r) = .ok (databaseOfGlue (.obj ms)) := by
  obtain ⟨js, hjs, hrecord⟩ := h.members
  have hsuccess : successOf (.getDatabase a) r = .ok (databaseOfGlue (.obj ms)) := by
    show (answerOf r [("Database", databaseShape)]).bind _ = _
    rw [hjs]
    simp only [Except.bind, hrecord]
  exact (if_pos h.good).trans hsuccess

/-- A record that is spelled out in an answer is shown when its members are accepted as they are. -/
theorem shows_render (hwhole : (Json.obj [(key, .obj ms)]).Whole)
    (haccepted : decodeRecord? [(key, shape)] (Json.obj [(key, .obj ms)]).spelled
      = some [(key, .obj ms)]) :
    Response.Shows { text := (Json.obj [(key, .obj ms)]).render } key shape ms where
  good := ⟨Nat.le_refl 200, (by decide : 200 < 300)⟩
  members := by
    refine ⟨[(key, .obj ms)], ?_, recordOf_single ms⟩
    unfold answerOf
    rw [bodyOf_render hwhole, Option.bind_some, haccepted]

end Shows

/-! ### What is sent is read as what it was made of -/

/-- The names of the members of a table that are sent. -/
def sentTableNames : List String :=
  ["Name", "Description", "Owner", "TableType", "Parameters", "StorageDescriptor"]

/-- The names of the members of a descriptor that are sent. -/
def sentDescriptorNames : List String :=
  ["Columns", "Location", "InputFormat", "OutputFormat", "Compressed", "NumberOfBuckets",
    "SerdeInfo", "BucketColumns", "Parameters", "StoredAsSubDirectories"]

/-- No member is sent but the fields of a record. -/
theorem lastMember_present {fields : List (String × Option Json)} {k : String}
    (hk : k ∉ fields.map (·.1)) : lastMember (present fields) k = none := by
  have hnone : Entries.lookup k (present fields).reverse = none := by
    refine Entries.lookup_eq_none_iff.2 ?_
    rintro m hm rfl
    obtain ⟨f, hf, hsome⟩ := List.mem_filterMap.1 (List.mem_reverse.1 hm)
    obtain ⟨j, -, rfl⟩ := Option.map_eq_some_iff.1 hsome
    exact hk (List.mem_map_of_mem hf)
  unfold lastMember
  rw [hnone]

theorem nodup_tableFields (t : TableRecord) : ((tableFields t).map (·.1)).Nodup := by
  simp [tableFields]

/-- A table is read back from what is sent of it; the database is named beside it. -/
theorem tableOfGlue_tableToGlue (t : TableRecord) :
    tableOfGlue (tableToGlue t) = { t with databaseName := none } := by
  have htells := tells_present (nodup_tableFields t)
  rw [tableToGlue_eq]
  generalize present (tableFields t) = ms at htells
  have hname : textOf ms "Name" = some t.name := (htells "Name").textOf
  have hdatabase : textOf ms "DatabaseName" = none := (htells "DatabaseName").textOf (s := none)
  have hdescription : textOf ms "Description" = t.description := (htells "Description").textOf
  have howner : textOf ms "Owner" = t.owner := (htells "Owner").textOf
  have htype : textOf ms "TableType" = t.tableType := (htells "TableType").textOf
  have hparameters : parametersOf ms = t.parameters := (htells "Parameters").parametersOf_value
  have hdescriptor : (recordOf ms "StorageDescriptor").map descriptorOfGlue
      = t.storageDescriptor :=
    (htells "StorageDescriptor").nested descriptorToGlue_eq descriptorOfGlue_present
  unfold tableOfGlue
  simp only [Json.members?, Option.getD_some, hname, hdatabase, hdescription, howner, htype,
    hparameters, hdescriptor]

theorem databaseOfGlue_databaseToGlue (d : DatabaseRecord) :
    databaseOfGlue (databaseToGlue d) = d := by
  have hnodup : ((databaseFields d).map (·.1)).Nodup := by simp [databaseFields]
  rw [databaseToGlue_eq]
  exact databaseOfGlue_of_tells fun name _ => tells_present hnodup name

/-! ### Which members are sent again -/

/-- Of the members of a record, those of some names are sent again; a member of another name is
the same in what is sent only if the record does not have it. -/
def LosesOthers (names : List String) (ms input : List (String × Json)) : Prop :=
  ∀ k, k ∉ names → (lastMember input k = lastMember ms k ↔ lastMember ms k = none)

theorem losesOthers_present (fields : List (String × Option Json)) (ms : List (String × Json)) :
    LosesOthers (fields.map (·.1)) ms (present fields) := by
  intro k hk
  rw [lastMember_present hk]
  exact eq_comm

/-- What is sent of a table in an answer when it is registered under a name. -/
structure SendsTable (name : String) (ms input : List (String × Json)) : Prop where
  /-- All that the client reads is as it was, but for the name. -/
  known : tableOfGlue (.obj input) = (tableOfGlue (.obj ms)).renamed name
  /-- Other members of the table are lost, -/
  table : LosesOthers sentTableNames ms input
  /-- and so are other members of its descriptor. -/
  descriptor : ∀ d, recordOf ms "StorageDescriptor" = some d →
    ∃ d', recordOf input "StorageDescriptor" = some d' ∧ LosesOthers sentDescriptorNames d d'

theorem sendsTable (name : String) (ms : List (String × Json)) :
    SendsTable name ms (present (tableFields ((tableOfGlue (.obj ms)).renamed name))) where
  known := by
    rw [← tableToGlue_eq, tableOfGlue_tableToGlue]
    rfl
  table := losesOthers_present (tableFields _) ms
  descriptor := by
    intro d hd
    have hdescriptor : (tableOfGlue (.obj ms)).storageDescriptor = some (descriptorOfGlue d) := by
      show (recordOf ms "StorageDescriptor").map descriptorOfGlue = _
      rw [hd]
      rfl
    have htells := tells_present
      (nodup_tableFields ((tableOfGlue (.obj ms)).renamed name)) "StorageDescriptor"
    have hsent : (Entries.lookup "StorageDescriptor"
          (tableFields ((tableOfGlue (.obj ms)).renamed name))).join
        = (some (descriptorOfGlue d)).map fun d => .obj (present (descriptorFields d)) := by
      show ((tableOfGlue (.obj ms)).storageDescriptor).map descriptorToGlue = _
      rw [hdescriptor, Option.map_some, descriptorToGlue_eq]
      rfl
    rw [hsent] at htells
    exact ⟨_, htells.recordOf (o := some (descriptorOfGlue d)),
      losesOthers_present (descriptorFields _) d⟩

/-- What is sent of a database in an answer when its properties are updated. -/
structure SendsDatabase (name : String) (removals : KeySet) (updates : Properties)
    (ms input : List (String × Json)) : Prop where
  /-- The properties are those that the client reads, with the update. -/
  known : databaseOfGlue (.obj input) = .ofProperties name
    (Catalog.applyUpdate removals updates (databaseOfGlue (.obj ms)).properties)
  /-- Other members of the database are lost. -/
  database : LosesOthers databaseNames ms input

theorem sendsDatabase (name : String) (removals : KeySet) (updates : Properties)
    (ms : List (String × Json)) :
    SendsDatabase name removals updates ms (present (databaseFields (.ofProperties name
      (Catalog.applyUpdate removals updates (databaseOfGlue (.obj ms)).properties)))) where
  known := by rw [← databaseToGlue_eq, databaseOfGlue_databaseToGlue]
  database := losesOthers_present (databaseFields _) ms

/-! ### Reading first, and then writing -/

end LakeCatalog.Glue

namespace LakeCatalog

open Glue (Response Client requestOf replyTo)
open Metastore (Call)

/-- The question with which a program begins, if it asks any. -/
def Program.question? {I : Interface} {α : Type} : Program I α → Option I.Query
  | .ask q _ => some q
  | .done _ | .exhausted => none

/-- An action asks for a record, and when it is given an answer, it makes another call. -/
structure Action.Rewrites {α : Type} (a : Action α) (get : Call) (r : Response) (put : Call) :
    Prop where
  asks : ∃ next, a.run = .ask (.metastore get) next ∧
    (next (replyTo get (some r))).question? = some (.metastore put)

namespace Catalog

variable {r : Response} {ms : List (String × Json)}

/-- A rename reads the record of a table and adds it under the new name. -/
theorem renameTable_rewrites (c : Catalog) {source : TableName} (target : TableName)
    {location : String} (hr : r.Shows "Table" .table ms)
    (hlocation : (Glue.tableOfGlue (.obj ms)).metadataLocation source = .ok location) :
    (c.renameTable source target).Rewrites (.getTable source.space.text source.table) r
      (.createTable target.space.text ((Glue.tableOfGlue (.obj ms)).renamed target.table)) := by
  refine ⟨_, rfl, ?_⟩
  rw [hr.getTable]
  have hchecked : ∀ rest : Action Table,
      (Action.ofExcept ((Glue.tableOfGlue (.obj ms)).metadataLocation source) >>=
        fun _ => rest).run = rest.run := by
    intro rest
    rw [hlocation]
    rfl
  exact congrArg Program.question? (hchecked _)

/-- An update of properties reads the record of a database and replaces it. -/
theorem updateNamespace_rewrites (n : NamespaceName) {removals : KeySet} {updates : Properties}
    (hoverlap : overlap removals updates = []) (hr : r.Shows "Database" Glue.databaseShape ms) :
    (updateNamespace n removals updates).Rewrites (.getDatabase n.text) r
      (.updateDatabase n.text (.ofProperties n.text
        (applyUpdate removals updates (Glue.databaseOfGlue (.obj ms)).properties))) := by
  rw [Site.updateNamespace_eq hoverlap]
  refine ⟨_, rfl, ?_⟩
  rw [hr.getDatabase]
  rfl

end Catalog

namespace Glue

/-- **What the client knows of a record is written back, and nothing else.**  Whatever members an
answer tells of a table, a rename sends what is read of them under the new name; whatever it tells
of a database, an update sends the properties that are read with the update.  Of all other members,
those of the descriptor of a table included, none is sent that was there. -/
theorem rewrites_keep_known (client : Client) :
    (∀ (c : Catalog) (source target : TableName) (r : Response) (ms : List (String × Json))
      (location : String), r.Shows "Table" .table ms →
      (tableOfGlue (.obj ms)).metadataLocation source = .ok location →
      ∃ put input,
        (c.renameTable source target).Rewrites (.getTable source.space.text source.table) r put ∧
        (requestOf client put).operation = "CreateTable" ∧
        (requestOf client put).Says "TableInput" (.obj input) ∧
        SendsTable target.table ms input) ∧
    ∀ (n : NamespaceName) (removals : KeySet) (updates : Properties) (r : Response)
      (ms : List (String × Json)), Catalog.overlap removals updates = [] →
      r.Shows "Database" databaseShape ms →
      ∃ put input,
        (Catalog.updateNamespace n removals updates).Rewrites (.getDatabase n.text) r put ∧
        (requestOf client put).operation = "UpdateDatabase" ∧
        (requestOf client put).Says "DatabaseInput" (.obj input) ∧
        SendsDatabase n.text removals updates ms input := by
  constructor
  · intro c source target r ms location hr hlocation
    exact ⟨_, _, c.renameTable_rewrites target hr hlocation, rfl, says_tableInput client _ _,
      sendsTable target.table ms⟩
  · intro n removals updates r ms hoverlap hr
    exact ⟨_, _, Catalog.updateNamespace_rewrites n hoverlap hr, rfl, says_databaseInput rfl,
      sendsDatabase n.text removals updates ms⟩

/-! ### A table and a database that lose members -/

/-- A descriptor with members that the client does not know. -/
def sortedFiles : List (String × Json) :=
  [("Location", .str "s3://b/log"),
    ("AdditionalLocations", .arr [.str "s3://b/old"]),
    ("SortColumns", .arr [.obj [("Column", .str "id"), ("SortOrder", .int 1)]]),
    ("SkewedInfo", .obj [("SkewedColumnNames", .arr [.str "id"])]),
    ("SchemaReference", .obj [("SchemaVersionNumber", .int 3)])]

/-- A table with members that the client does not know. -/
def oldLog : List (String × Json) :=
  [("Name", .str "log"), ("Owner", .str "analyst"), ("Retention", .int 30),
    ("PartitionKeys", .arr [.obj [("Name", .str "day"), ("Type", .str "date")]]),
    ("ViewOriginalText", .str "select 1"), ("ViewExpandedText", .str "select 1"),
    ("Parameters", .obj [("metadata_location", .str "s3://b/log/m.json"),
      ("table_type", .str "ICEBERG")]),
    ("StorageDescriptor", .obj sortedFiles)]

/-- A database with members that the client does not know. -/
def linkedSpace : List (String × Json) :=
  [("Name", .str "db"), ("Parameters", .obj [("team", .str "a")]),
    ("CreateTableDefaultPermissions", .arr [.obj [("Permissions", .arr [.str "ALL"])]]),
    ("TargetDatabase", .obj [("DatabaseName", .str "shared")])]

/-- The answer that tells of a record. -/
def telling (key : String) (ms : List (String × Json)) : Response :=
  { text := (Json.obj [(key, .obj ms)]).render }

theorem shows_oldLog : (telling "Table" oldLog).Shows "Table" .table oldLog :=
  shows_render (by decide +kernel) (by with_unfolding_all rfl)

theorem shows_linkedSpace :
    (telling "Database" linkedSpace).Shows "Database" databaseShape linkedSpace :=
  shows_render (by decide +kernel) (by with_unfolding_all rfl)

/-- The name of the table. -/
def logName : TableName := ⟨⟨"db", isSegment_db⟩, "log", by decide⟩

/-- The name that it is given. -/
def archiveName : TableName := ⟨⟨"db", isSegment_db⟩, "archive", by decide⟩

/-- What is sent of the table when it is renamed. -/
def sentLog : List (String × Json) :=
  [("Name", .str "archive"), ("Owner", .str "analyst"),
    ("Parameters", .obj [("metadata_location", .str "s3://b/log/m.json"),
      ("table_type", .str "ICEBERG")]),
    ("StorageDescriptor", .obj [("Columns", .arr []), ("Location", .str "s3://b/log"),
      ("BucketColumns", .arr [])])]

/-- What is sent of the database when a property is set. -/
def sentSpace : List (String × Json) :=
  [("Name", .str "db"), ("Parameters", .obj [("owner", .str "b"), ("team", .str "a")])]

/-- The update that sets the property. -/
def ownerUpdate : Properties := .ofList [("owner", "b")]

theorem metadataLocation_oldLog :
    (tableOfGlue (.obj oldLog)).metadataLocation logName = .ok "s3://b/log/m.json" := by
  rfl

theorem tableFields_oldLog :
    present (tableFields ((tableOfGlue (.obj oldLog)).renamed "archive")) = sentLog := by
  rfl

theorem databaseFields_linkedSpace :
    present (databaseFields (.ofProperties "db" (Catalog.applyUpdate .empty ownerUpdate
      (databaseOfGlue (.obj linkedSpace)).properties))) = sentSpace := by
  rfl

/-- **Members are lost.**  A rename sends none of the members of the table and of its descriptor
that the client does not know, and an update none of those of the database. -/
theorem rewrites_lose_members :
    (∃ put, (Catalog.renameTable ⟨"lake", none, 1⟩ logName archiveName).Rewrites
        (.getTable "db" "log") (telling "Table" oldLog) put ∧
      (requestOf {} put).operation = "CreateTable" ∧
      (requestOf {} put).Says "TableInput" (.obj sentLog)) ∧
    (∀ k ∈ ["Retention", "PartitionKeys", "ViewOriginalText", "ViewExpandedText"],
      lastMember sentLog k ≠ lastMember oldLog k) ∧
    (∃ d, recordOf oldLog "StorageDescriptor" = some sortedFiles ∧
      recordOf sentLog "StorageDescriptor" = some d ∧
      ∀ k ∈ ["SortColumns", "SkewedInfo", "SchemaReference", "AdditionalLocations"],
        lastMember d k ≠ lastMember sortedFiles k) ∧
    (∃ put, (Catalog.updateNamespace ⟨"db", isSegment_db⟩ .empty ownerUpdate).Rewrites
        (.getDatabase "db") (telling "Database" linkedSpace) put ∧
      (requestOf {} put).operation = "UpdateDatabase" ∧
      (requestOf {} put).Says "DatabaseInput" (.obj sentSpace)) ∧
    ∀ k ∈ ["CreateTableDefaultPermissions", "TargetDatabase"],
      lastMember sentSpace k ≠ lastMember linkedSpace k := by
  refine ⟨?_, ?_, ⟨_, rfl, rfl, ?_⟩, ?_, ?_⟩
  · have hrename := Catalog.renameTable_rewrites ⟨"lake", none, 1⟩ archiveName shows_oldLog
      metadataLocation_oldLog
    refine ⟨_, hrename, rfl, ?_⟩
    rw [← tableFields_oldLog]
    exact says_tableInput {} "db" _
  · simp only [List.forall_mem_cons]
    exact ⟨nofun, nofun, nofun, nofun, List.forall_mem_nil _⟩
  · simp only [List.forall_mem_cons]
    exact ⟨nofun, nofun, nofun, nofun, List.forall_mem_nil _⟩
  · have hoverlap : Catalog.overlap .empty ownerUpdate = [] := rfl
    have hupdate := Catalog.updateNamespace_rewrites ⟨"db", isSegment_db⟩ hoverlap
      shows_linkedSpace
    refine ⟨_, hupdate, rfl, ?_⟩
    rw [← databaseFields_linkedSpace]
    exact says_databaseInput rfl
  · simp only [List.forall_mem_cons]
    exact ⟨nofun, nofun, List.forall_mem_nil _⟩

theorem rewrites_keep_known_oldLog :
    (∃ put input, (Catalog.renameTable ⟨"lake", none, 1⟩ logName archiveName).Rewrites
        (.getTable "db" "log") (telling "Table" oldLog) put ∧
      (requestOf {} put).operation = "CreateTable" ∧
      (requestOf {} put).Says "TableInput" (.obj input) ∧ SendsTable "archive" oldLog input) ∧
    ∃ put input, (Catalog.updateNamespace ⟨"db", isSegment_db⟩ .empty ownerUpdate).Rewrites
        (.getDatabase "db") (telling "Database" linkedSpace) put ∧
      (requestOf {} put).operation = "UpdateDatabase" ∧
      (requestOf {} put).Says "DatabaseInput" (.obj input) ∧
      SendsDatabase "db" .empty ownerUpdate linkedSpace input :=
  ⟨(rewrites_keep_known {}).1 ⟨"lake", none, 1⟩ logName archiveName (telling "Table" oldLog) oldLog
      "s3://b/log/m.json" shows_oldLog metadataLocation_oldLog,
    (rewrites_keep_known {}).2 ⟨"db", isSegment_db⟩ .empty ownerUpdate
      (telling "Database" linkedSpace) linkedSpace rfl shows_linkedSpace⟩

end Glue

end LakeCatalog
