import LakeCatalog.Proofs.FileLocations
import LakeCatalog.Proofs.Loads
import LakeCatalog.Proofs.MetadataDepth

/-!
# What a creation does to the tables that are there

The metadata file of a new table is named after a fresh id, so that it should overwrite nothing.
Whether it does depends on the location of the table.

* `Site.Unused` — the ids after which no object is named;
* `CreateFrame`, `createTable_frame` — exactly when a creation overwrites an object, and what
  becomes of the tables that were there;
* `createTable_overwrites_table` — two tables of which the second takes the file of the first.
-/

namespace LakeCatalog

open Metastore (Call Failure Memory)

namespace Site

variable {s s' : Site} {c : Catalog} {k n : TableName} {location path : String} {data : ByteArray}

/-! ### Creating -/

/-- No object is named after an id. -/
def Unused (s : Site) (fileId : Uuid) : Prop :=
  ∀ path ∈ s.objects.keys, ObjectPath.lastPart path ≠ some (Metadata.fileName fileId)

instance (s : Site) (fileId : Uuid) : Decidable (s.Unused fileId) :=
  inferInstanceAs (Decidable (∀ path ∈ s.objects.keys,
    ObjectPath.lastPart path ≠ some (Metadata.fileName fileId)))

/-- What a creation with a fresh id does to the objects and tables of a site. -/
inductive CreateFrame (c : Catalog) (fresh : Fresh) (n : TableName) (creation : TableCreation)
    (s : Site) : Except CatalogError Table → Site → Prop
  /-- It fails before it writes anything, because there is no place for the table. -/
  | untouched (e : CatalogError)
      (hnowhere : ∀ location path,
        (c.tableLocation n creation).perform answer s = (some (.ok location), s) →
          Objects.pathOf (Metadata.fileLocation fresh.fileId location) ≠ .ok path) :
      CreateFrame c fresh n creation s (.error e) s
  /-- It writes one object. -/
  | written {outcome : Except CatalogError Table} {s' : Site} {location path : String}
      (hlocation : (c.tableLocation n creation).perform answer s = (some (.ok location), s))
      (hpath : Objects.pathOf (Metadata.fileLocation fresh.fileId location) = .ok path)
      (hobjects : s'.objects = s.objects.insert path (creation.content fresh location))
      /- It overwrites an object if and only if there is a mark in the location of the table, and
      an object already where the location leads all metadata files. -/
      (hheld : s.objects.contains path = true ↔ ¬Metadata.Plain location ∧
        ∃ held, s.objects.contains held = true ∧
          ∀ fileId, Objects.pathOf (Metadata.fileLocation fileId location) = .ok held)
      /- The tables with their own metadata file at this path have the new metadata from now on,
      all others load as before. -/
      (hloads : ∀ k own ownPath, s.LiesAt k own ownPath → s'.load c k =
        if ownPath = path then some (reading c k own (creation.content fresh location))
        else s.load c k)
      /- Without a mark in the location, all tables load as before. -/
      (hplain : Metadata.Plain location → ∀ k, s.metastore.record? k ≠ none →
        s'.load c k = s.load c k) :
      CreateFrame c fresh n creation s outcome s'

theorem createFrame_of_createRun {fresh : Fresh} {creation : TableCreation}
    {outcome : Except CatalogError Table} (hs : s.Sound) (hunused : s.Unused fresh.fileId)
    (h : Catalog.CreateRun answer c fresh n creation s outcome s') :
    CreateFrame c fresh n creation s outcome s' := by
  rcases effect_of_createRun h with ⟨⟨e, rfl⟩, rfl, hnowhere⟩ | ⟨location, path, hlocation, hpath,
    hobjects, heffect⟩
  · exact .untouched e hnowhere
  · have hrecords : ∀ k r, s.metastore.record? k = some r → s'.metastore.record? k = some r := by
      intro k r hr
      rcases heffect with hm | ⟨hgains, -⟩
      · rw [hm]
        exact hr
      · have hne : k ≠ n := by
          rintro rfl
          rw [hgains.absent] at hr
          cases hr
        rw [hgains.record?_of_ne hne]
        exact hr
    have hfree : Metadata.Plain location → s.objects.contains path = false := by
      intro hplain
      rw [Bool.eq_false_iff]
      intro hheld
      exact hunused path ((OrderedMap.contains_iff _ _).1 hheld)
        (Metadata.lastPart_of_plain hplain hpath)
    have hloads : ∀ k own ownPath, s.LiesAt k own ownPath → s'.load c k =
        if ownPath = path then some (reading c k own (creation.content fresh location))
        else s.load c k :=
      fun k own ownPath => load_insert hs (sound_of_createRun hs h) hobjects (hrecords k)
    refine .written hlocation hpath hobjects ⟨?_, ?_⟩ hloads ?_
    · intro hheld
      have hmarked : ¬Metadata.Plain location := by
        intro hplain
        rw [hfree hplain] at hheld
        cases hheld
      exact ⟨hmarked, path, hheld, Metadata.pathOf_of_marked hmarked hpath⟩
    · rintro ⟨-, held, hheld, hall⟩
      have hsame := (hall fresh.fileId).symm.trans hpath
      cases hsame
      exact hheld
    · intro hplain k hk
      obtain ⟨r, hr⟩ := Option.ne_none_iff_exists'.1 hk
      obtain ⟨own, ownPath, hlies, hheld⟩ := hs.exists_liesAt hr
      have hne : ownPath ≠ path := by
        rintro rfl
        rw [hfree hplain] at hheld
        cases hheld
      rw [hloads k own ownPath hlies, if_neg hne]

/-- **What a creation does to the tables that are there**, after any run of requests and with a
fresh id for its metadata file. -/
theorem createTable_frame (c : Catalog) (pageSize : Nat) (requests : List Request) (fresh : Fresh)
    (n : TableName) (creation : TableCreation)
    (hunused : ((start pageSize).after c requests).Unused fresh.fileId) :
    ∃ outcome s', (c.createTable fresh n creation).perform answer
        ((start pageSize).after c requests) = (some outcome, s') ∧
      CreateFrame c fresh n creation ((start pageSize).after c requests) outcome s' := by
  have hs := sound_after c requests (sound_start pageSize)
  obtain ⟨outcome, s', hperform, hrun⟩ := Catalog.exists_createRun answer c fresh n creation
    ((start pageSize).after c requests)
  exact ⟨outcome, s', hperform, createFrame_of_createRun hs hunused hrun⟩

/-! ### A run that overwrites a table -/

/-- A catalog with a warehouse. -/
def lake : Catalog := ⟨"lake", some "s3://w", 1⟩

/-- Two tables of one namespace, with names that part ways behind a question mark. -/
def firstName : TableName := ⟨⟨"db", isSegment_db⟩, "t?1", by decide⟩

def secondName : TableName := ⟨⟨"db", isSegment_db⟩, "t?2", by decide⟩

/-- A table without columns. -/
def bareTable : TableCreation where
  schema := { id := 0, fields := [] }

/-- A table with a place of its own. -/
def placedTable : TableCreation := { bareTable with location := some "s3://w/t" }

/-- The ids of the two tables. -/
def firstIds : Fresh := ⟨⟨List.replicate 32 1, rfl⟩, ⟨List.replicate 32 1, rfl⟩, 0⟩

def secondIds : Fresh := ⟨⟨List.replicate 32 2, rfl⟩, ⟨List.replicate 32 2, rfl⟩, 0⟩

/-- The requests that make the first table. -/
def makeFirst : List Request :=
  [.createNamespace ⟨"db", isSegment_db⟩ .empty, .createTable firstIds firstName bareTable]

/-- The record of the first table. -/
def firstRecord : TableRecord :=
  .ofMetadata "t?1" (Metadata.fileLocation firstIds.fileId "s3://w/db.db/t?1") .empty

/-- The namespace of the run, with some tables. -/
def runSpace (tables : OrderedMap TableRecord) : Memory :=
  Memory.setDatabase (.withPageSize 100) "db" { record := .ofProperties "db" .empty, tables }

/-- The site with the first table. -/
def firstSite : Site :=
  ⟨runSpace (OrderedMap.empty.insert "t?1" (firstRecord.copiedTo firstName)),
    OrderedMap.empty.insert "db.db/t" (bareTable.content firstIds "s3://w/db.db/t?1")⟩

theorem after_makeFirst : (start 100).after lake makeFirst = firstSite := by
  have hpath : Objects.pathOf (Metadata.fileLocation firstIds.fileId "s3://w/db.db/t?1")
      = .ok "db.db/t" := by decide +kernel
  have hspace : ((start 100).step lake (.createNamespace ⟨"db", isSegment_db⟩ .empty)).2
      = ⟨runSpace .empty, .empty⟩ := rfl
  have hlocation : (lake.tableLocation firstName bareTable).perform answer ⟨runSpace .empty, .empty⟩
      = (some (.ok "s3://w/db.db/t?1"), ⟨runSpace .empty, .empty⟩) := rfl
  have hcreate : (runSpace .empty).createTable firstName.space.text (.ofMetadata firstName.table
      (Metadata.fileLocation firstIds.fileId "s3://w/db.db/t?1") bareTable.properties)
      = .ok (runSpace (OrderedMap.empty.insert "t?1" (firstRecord.copiedTo firstName))) := rfl
  unfold makeFirst
  rw [after_cons, after_cons, hspace, step_createTable_ok hlocation hpath hcreate]
  rfl

/-- The site with both tables. -/
def bothSite : Site :=
  ⟨runSpace ((OrderedMap.empty.insert "t?1" (firstRecord.copiedTo firstName)).insert "t?2"
      ((TableRecord.ofMetadata "t?2"
        (Metadata.fileLocation secondIds.fileId "s3://w/db.db/t?2") .empty).copiedTo secondName)),
    firstSite.objects.insert "db.db/t" (bareTable.content secondIds "s3://w/db.db/t?2")⟩

theorem step_makeSecond :
    (firstSite.step lake (.createTable secondIds secondName bareTable)).2 = bothSite := by
  have hpath : Objects.pathOf (Metadata.fileLocation secondIds.fileId "s3://w/db.db/t?2")
      = .ok "db.db/t" := by decide +kernel
  have hlocation : (lake.tableLocation secondName bareTable).perform answer firstSite
      = (some (.ok "s3://w/db.db/t?2"), firstSite) := rfl
  have hcreate : firstSite.metastore.createTable secondName.space.text (.ofMetadata
      secondName.table (Metadata.fileLocation secondIds.fileId "s3://w/db.db/t?2")
      bareTable.properties) = .ok bothSite.metastore := rfl
  rw [step_createTable_ok hlocation hpath hcreate]
  rfl

theorem sound_firstSite : firstSite.Sound := by
  rw [← after_makeFirst]
  exact sound_after lake makeFirst (sound_start 100)

theorem sound_bothSite : bothSite.Sound := by
  rw [← step_makeSecond]
  exact sound_step sound_firstSite lake _

/-- The metadata of a bare table as it is read back. -/
theorem read?_bareTable (ids : Fresh) (location : String) :
    Metadata.read? (bareTable.content ids location)
      = some (.reread ids location bareTable.schema none none .empty) := by
  have hshallow : bareTable.schema.Shallow := by decide
  have hread := Metadata.read?_initial ids location bareTable.schema none none .empty
  rw [if_pos hshallow] at hread
  exact hread

theorem unused_secondIds : firstSite.Unused secondIds.fileId := by decide +kernel

/-- Where the metadata of the first table lies, before and after. -/
theorem liesAt_firstName {s : Site}
    (h : s.metastore.record? firstName = some (firstRecord.copiedTo firstName)) :
    s.LiesAt firstName (Metadata.fileLocation firstIds.fileId "s3://w/db.db/t?1") "db.db/t" := by
  refine ⟨_, h, ?_, by decide +kernel⟩
  exact Catalog.metadataLocation_congr
    (Catalog.metadataLocation_ofMetadata firstName "t?1" _ .empty) rfl

/-- The location that the metadata of a table tells when it is loaded. -/
def toldLocation (s : Site) (k : TableName) : Option String :=
  match s.load lake k with
  | some (.ok t) => some t.metadata.location
  | _ => none

theorem toldLocation_firstName {s : Site} {ids : Fresh} {location : String} (hs : s.Sound)
    (hrecord : s.metastore.record? firstName = some (firstRecord.copiedTo firstName))
    (hobject : s.objects.get? "db.db/t" = some (bareTable.content ids location)) :
    s.toldLocation firstName = some location := by
  unfold toldLocation
  rw [load_of_liesAt hs (liesAt_firstName hrecord) hobject]
  unfold reading
  rw [read?_bareTable]
  rfl

/-- The second table gets a fresh id, and from then on the metadata of the second table is loaded
for the first. -/
theorem createTable_overwrites_table :
    ((start 100).after lake makeFirst).Unused secondIds.fileId ∧
      ((start 100).after lake makeFirst).toldLocation firstName = some "s3://w/db.db/t?1" ∧
      (((start 100).after lake makeFirst).step lake
        (.createTable secondIds secondName bareTable)).2.toldLocation firstName
        = some "s3://w/db.db/t?2" := by
  rw [after_makeFirst, step_makeSecond]
  refine ⟨unused_secondIds, ?_, ?_⟩
  · exact toldLocation_firstName sound_firstSite rfl rfl
  · exact toldLocation_firstName sound_bothSite rfl rfl

theorem createTable_frame_lake :
    ((start 100).after lake makeFirst).Unused secondIds.fileId ∧
      ∃ outcome s', (lake.createTable secondIds secondName bareTable).perform answer
          ((start 100).after lake makeFirst) = (some outcome, s') ∧
        CreateFrame lake secondIds secondName bareTable ((start 100).after lake makeFirst)
          outcome s' := by
  have hunused : ((start 100).after lake makeFirst).Unused secondIds.fileId := by
    rw [after_makeFirst]
    exact unused_secondIds
  exact ⟨hunused, createTable_frame lake 100 makeFirst secondIds secondName bareTable hunused⟩

end Site

end LakeCatalog
