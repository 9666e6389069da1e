import LakeCatalog.Proofs.CreateFrame

/-!
# What the ids in the metadata of a new table name

The metadata of a table lists schemas, partition specs and sort orders, and says by an id which one
of each is current.  A new table has one of each.  Its schema is filed under its own id, but its
partition spec and its sort order are filed under the default id zero.  A metadata file spells each
with its own id only, and whoever reads it files them under that, so that the default ids may lead
nowhere from then on.

* `Metadata.currentSchema?`, `Metadata.defaultSpec?`, `Metadata.defaultOrder?` — what the ids name;
* `TableCreation.Resolution` — what they name in the metadata of a new table as it is read back;
* `TableCreation.defaults_resolve` — the file of a new table, and the table that a creation returns;
* `TableCreation.defaults_dangle` — a table whose partition spec and sort order are not found.
-/

namespace LakeCatalog

open Metastore (Memory)

namespace Metadata

/-- The schema that the id of the current schema names. -/
def currentSchema? (m : Metadata) : Option Schema := m.schemas.get? m.currentSchemaId

/-- The partition spec that the id of the default spec names. -/
def defaultSpec? (m : Metadata) : Option PartitionSpec := m.partitionSpecs.get? m.defaultSpecId

/-- The sort order that the id of the default order names. -/
def defaultOrder? (m : Metadata) : Option SortOrder := m.sortOrders.get? m.defaultSortOrderId

end Metadata

/-! ### A single thing filed under an id -/

/-- What a map with a single entry answers. -/
theorem SortedMap.get?_single {κ ν : Type} [LT κ] [DecidableEq κ] [DecidableLT κ] [KeyOrder κ]
    (k a : κ) (v : ν) : (SortedMap.ofList [(k, v)]).get? a = if k = a then some v else none := by
  show (SortedMap.empty.insert k v).get? a = _
  rw [SortedMap.get?_insert, SortedMap.get?_empty]

/-- One thing can be filed under one id only. -/
theorem SortedMap.single_inj {κ ν : Type} [LT κ] [DecidableEq κ] [DecidableLT κ] [KeyOrder κ]
    {k a : κ} {v : ν} : SortedMap.ofList [(k, v)] = SortedMap.ofList [(a, v)] ↔ k = a := by
  constructor
  · intro h
    have hanswer := congrArg (fun m => m.get? a) h
    simp only [get?_single, if_pos] at hanswer
    by_contra hne
    rw [if_neg hne] at hanswer
    cases hanswer
  · rintro rfl
    rfl

namespace TableCreation

/-- The partition spec of a new table. -/
def spec (creation : TableCreation) : PartitionSpec :=
  creation.partitionSpec.getD .unpartitioned

/-- The sort order of a new table. -/
def order (creation : TableCreation) : SortOrder := creation.sortOrder.getD .unsorted

/-- The metadata of a new table as it is read back. -/
def reread (creation : TableCreation) (fresh : Fresh) (location : String) : Metadata :=
  .reread fresh location creation.schema creation.partitionSpec creation.sortOrder
    creation.properties

/-- What the ids name in the metadata of a new table as it is read back.  The given schema is
always found.  The given partition spec and the given sort order are always listed, but found as
the default if and only if their own id is zero. -/
structure Resolution (creation : TableCreation) (m : Metadata) : Prop where
  schema : m.currentSchema? = some creation.schema
  specs : m.partitionSpecs.values = [creation.spec]
  spec : m.defaultSpec? = if creation.spec.id = 0 then some creation.spec else none
  orders : m.sortOrders.values = [creation.order]
  order : m.defaultOrder? = if creation.order.id = 0 then some creation.order else none

variable (creation : TableCreation) (fresh : Fresh)

/-! ### The metadata file -/

theorem resolution_reread (location : String) :
    creation.Resolution (creation.reread fresh location) where
  schema := by
    show (SortedMap.ofList [(creation.schema.id, creation.schema)]).get? creation.schema.id = _
    rw [SortedMap.get?_single, if_pos rfl]
  specs := rfl
  spec := SortedMap.get?_single creation.spec.id 0 creation.spec
  orders := rfl
  order := SortedMap.get?_single creation.order.id 0 creation.order

/-- Before it is written, the metadata of a new table finds what was given, whatever its id. -/
theorem resolves_metadata (location : String) :
    (creation.metadata fresh location).currentSchema? = some creation.schema ∧
      (creation.metadata fresh location).defaultSpec? = some creation.spec ∧
      (creation.metadata fresh location).defaultOrder? = some creation.order := by
  refine ⟨?_, ?_, ?_⟩
  · exact (SortedMap.get?_single _ _ _).trans (if_pos rfl)
  · exact (SortedMap.get?_single _ _ _).trans (if_pos rfl)
  · exact (SortedMap.get?_single _ _ _).trans (if_pos rfl)

/-- Reading gives back what was written only if both ids are zero. -/
theorem reread_eq_metadata_iff (location : String) :
    creation.reread fresh location = creation.metadata fresh location ↔
      creation.spec.id = 0 ∧ creation.order.id = 0 := by
  constructor
  · intro h
    exact ⟨SortedMap.single_inj.1 (congrArg Metadata.partitionSpecs h),
      SortedMap.single_inj.1 (congrArg Metadata.sortOrders h)⟩
  · rintro ⟨hspec, horder⟩
    have hspecs : Metadata.byId PartitionSpec.id [creation.spec] = .ofList [(0, creation.spec)] :=
      SortedMap.single_inj.2 hspec
    have horders : Metadata.byId SortOrder.id [creation.order] = .ofList [(0, creation.order)] :=
      SortedMap.single_inj.2 horder
    unfold reread Metadata.reread metadata
    unfold spec at hspecs
    unfold order at horders
    rw [hspecs, horders]
    rfl

theorem read?_content (location : String) :
    Metadata.read? (creation.content fresh location)
      = if creation.schema.Shallow then some (creation.reread fresh location) else none :=
  Metadata.read?_initial ..

/-! ### The table that is returned -/

/-- A table that was just registered is loaded with what its file says. -/
theorem perform_loadTable_registered {c : Catalog} {n : TableName} {s : Site} {m' : Memory}
    {location path : String} (objects : OrderedMap ByteArray)
    (hpath : Objects.pathOf (Metadata.fileLocation fresh.fileId location) = .ok path)
    (hcreate : s.metastore.createTable n.space.text (.ofMetadata n.table
      (Metadata.fileLocation fresh.fileId location) creation.properties) = .ok m') :
    (c.loadTable n).perform Site.answer
        ⟨m', objects.insert path (creation.content fresh location)⟩
      = (some (if creation.schema.Shallow then
          .ok ⟨n, creation.reread fresh location, Metadata.fileLocation fresh.fileId location, c⟩
        else .error (.metadata (Metadata.fileLocation fresh.fileId location))),
        ⟨m', objects.insert path (creation.content fresh location)⟩) := by
  have hgains := Memory.gains_of_createTable (n := n) rfl hcreate
  have hshort : n.table.utf8ByteSize ≤ Memory.maxNameLength := Site.short_of_createTable hcreate
  have hlies : Site.LiesAt ⟨m', objects.insert path (creation.content fresh location)⟩ n
      (Metadata.fileLocation fresh.fileId location) path :=
    ⟨_, hgains.record?_self, Catalog.metadataLocation_congr
      (Catalog.metadataLocation_ofMetadata n n.table _ creation.properties) rfl, hpath⟩
  rw [Site.perform_loadTable_of_liesAt hshort hlies (OrderedMap.get?_insert_self _ _ _)]
  unfold Site.reading
  rw [read?_content]
  by_cases hshallow : creation.schema.Shallow
  · rw [if_pos hshallow, if_pos hshallow]
  · rw [if_neg hshallow, if_neg hshallow]

/-- A table that a creation returns has the metadata that was read back from its file. -/
theorem metadata_of_createTable {c : Catalog} {n : TableName} {s s' : Site} {t : Table}
    (h : (c.createTable fresh n creation).perform Site.answer s = (some (.ok t), s')) :
    ∃ location, t.metadata = creation.reread fresh location := by
  obtain ⟨outcome, s'', hperform, hrun⟩ :=
    Catalog.exists_createRun Site.answer c fresh n creation s
  have hsame := hperform.symm.trans h
  cases hsame
  cases hrun with
  | @created location path _ s₁ s₂ s₃ _ hlocation hpath hput hcreate hload =>
      cases hput
      obtain ⟨m₃, objects⟩ := s₃
      obtain ⟨hrespond, hobjects⟩ := Site.respond_of_call hcreate
      cases hobjects
      have hloaded := creation.perform_loadTable_registered (c := c) fresh s₁.objects
        hpath (Memory.eq_of_changed_ok hrespond)
      have hreturned := hloaded.symm.trans hload
      by_cases hshallow : creation.schema.Shallow
      · rw [if_pos hshallow] at hreturned
        cases hreturned
        exact ⟨location, rfl⟩
      · rw [if_neg hshallow] at hreturned
        cases hreturned

/-- **What the ids of a new table name.**  Before it is written, its metadata leads to the given
schema, partition spec and sort order.  Its metadata file is always written; read back, unless its
schema is nested too deep to be read, it leads to the given schema, and to the given partition spec
and sort order as far as their own ids are zero, and only then is it what was written.  The same
holds of the table that a creation returns. -/
theorem defaults_resolve :
    (∀ location, ((creation.metadata fresh location).currentSchema? = some creation.schema ∧
        (creation.metadata fresh location).defaultSpec? = some creation.spec ∧
        (creation.metadata fresh location).defaultOrder? = some creation.order) ∧
      ∃ content, (creation.metadata fresh location).write? = some content ∧
      if creation.schema.Shallow then
        ∃ m, Metadata.read? content = some m ∧ creation.Resolution m ∧
          (m = creation.metadata fresh location ↔ creation.spec.id = 0 ∧ creation.order.id = 0)
      else Metadata.read? content = none) ∧
    ∀ (c : Catalog) (n : TableName) (s s' : Site) (t : Table),
      (c.createTable fresh n creation).perform Site.answer s = (some (.ok t), s') →
        creation.Resolution t.metadata := by
  constructor
  · intro location
    refine ⟨creation.resolves_metadata fresh location, creation.content fresh location,
      creation.write?_metadata fresh location, ?_⟩
    rw [read?_content]
    by_cases hshallow : creation.schema.Shallow
    · rw [if_pos hshallow, if_pos hshallow]
      exact ⟨_, rfl, creation.resolution_reread fresh location,
        creation.reread_eq_metadata_iff fresh location⟩
    · rw [if_neg hshallow, if_neg hshallow]
  · intro c n s s' t h
    obtain ⟨location, hmetadata⟩ := creation.metadata_of_createTable fresh h
    rw [hmetadata]
    exact creation.resolution_reread fresh location

/-! ### A table whose defaults are not found -/

/-- A table without columns, with a partition spec and a sort order that have ids of their own. -/
def filedTable : TableCreation where
  schema := { id := 0, fields := [] }
  partitionSpec := some ⟨7, []⟩
  sortOrder := some ⟨5, []⟩

/-- The name of the table, and the site with nothing but its namespace. -/
def filedName : TableName := ⟨⟨"db", isSegment_db⟩, "t", by decide⟩

def filedSite : Site := ⟨Site.runSpace .empty, .empty⟩

/-- Where the table goes. -/
def filedLocation : String := "s3://w/db.db/t"

theorem pathOf_filed :
    Objects.pathOf (Metadata.fileLocation Site.firstIds.fileId filedLocation)
      = .ok "db.db/t/metadata/00000-11111111-1111-1111-1111-111111111111.metadata.json" := by
  decide +kernel

/-- The location of the metadata file of a table there. -/
def filedFile : String := Metadata.fileLocation Site.firstIds.fileId filedLocation

/-- A table without a location of its own is registered there, and returned if its file can be
read. -/
theorem createTable_filedSite (hlocation : creation.location = none) :
    ∃ objects,
      (Site.lake.createTable Site.firstIds filedName creation).perform Site.answer filedSite
        = (some (if creation.schema.Shallow then
            .ok ⟨filedName, creation.reread Site.firstIds filedLocation, filedFile, Site.lake⟩
          else .error (.metadata filedFile)),
          ⟨Site.runSpace (OrderedMap.empty.insert "t"
            ((TableRecord.ofMetadata "t" filedFile creation.properties).copiedTo filedName)),
            objects⟩) := by
  have hplace : (Site.lake.tableLocation filedName creation).perform Site.answer filedSite
      = (some (.ok filedLocation), filedSite) := by
    cases creation
    cases hlocation
    rfl
  have hcreate : filedSite.metastore.createTable filedName.space.text
      (.ofMetadata filedName.table filedFile creation.properties)
      = .ok (Site.runSpace (OrderedMap.empty.insert "t"
        ((TableRecord.ofMetadata "t" filedFile creation.properties).copiedTo filedName))) :=
    rfl
  have hload := creation.perform_loadTable_registered (c := Site.lake) Site.firstIds .empty
    pathOf_filed hcreate
  exact ⟨_, (Site.perform_createTable_ok hplace pathOf_filed hcreate).trans hload⟩

/-- Creating a table without a location of its own succeeds there, if its file can be read. -/
theorem perform_createTable_filedSite (hlocation : creation.location = none)
    (hshallow : creation.schema.Shallow) :
    ∃ t s', (Site.lake.createTable Site.firstIds filedName creation).perform Site.answer filedSite
        = (some (.ok t), s') ∧ t.metadata = creation.reread Site.firstIds filedLocation := by
  obtain ⟨objects, hperform⟩ := creation.createTable_filedSite hlocation
  rw [if_pos hshallow] at hperform
  exact ⟨_, _, hperform, rfl⟩

theorem perform_createTable_filed :
    ∃ t s', (Site.lake.createTable Site.firstIds filedName filedTable).perform Site.answer filedSite
        = (some (.ok t), s') ∧ t.metadata = filedTable.reread Site.firstIds filedLocation :=
  filedTable.perform_createTable_filedSite rfl (by decide)

theorem defaults_resolve_filedTable :
    ∃ t s', (Site.lake.createTable Site.firstIds filedName filedTable).perform Site.answer filedSite
        = (some (.ok t), s') ∧ filedTable.Resolution t.metadata := by
  obtain ⟨t, s', hcreate, -⟩ := perform_createTable_filed
  exact ⟨t, s', hcreate, (filedTable.defaults_resolve Site.firstIds).2 _ _ _ _ _ hcreate⟩

/-- **A table whose defaults are not found**: neither its file nor the table that the creation
returns leads from a default id to the partition spec or the sort order that was given. -/
theorem defaults_dangle :
    (∃ content m, (filedTable.metadata Site.firstIds filedLocation).write? = some content ∧
        Metadata.read? content = some m ∧ m.partitionSpecs.values = [⟨7, []⟩] ∧
        m.defaultSpec? = none ∧ m.sortOrders.values = [⟨5, []⟩] ∧ m.defaultOrder? = none) ∧
      ∃ t s', (Site.lake.createTable Site.firstIds filedName filedTable).perform Site.answer
          filedSite = (some (.ok t), s') ∧
        t.metadata.defaultSpec? = none ∧ t.metadata.defaultOrder? = none := by
  have hshallow : filedTable.schema.Shallow := by decide
  have hread := filedTable.read?_content Site.firstIds filedLocation
  rw [if_pos hshallow] at hread
  obtain ⟨t, s', hcreate, hmetadata⟩ := perform_createTable_filed
  refine ⟨⟨_, _, filedTable.write?_metadata Site.firstIds filedLocation, hread, rfl, ?_, rfl, ?_⟩,
    t, s', hcreate, ?_, ?_⟩
  · rfl
  · rfl
  · rw [hmetadata]
    rfl
  · rw [hmetadata]
    rfl

end TableCreation

end LakeCatalog
