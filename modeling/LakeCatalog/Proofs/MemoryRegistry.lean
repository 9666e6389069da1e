import LakeCatalog.Proofs.MemoryTables
import LakeCatalog.Proofs.Registry

/-!
# The registry in a metastore

A metastore in memory holds more than a registry says: whole records, of which only the properties
of a namespace and the location in a table count.

* `Memory.registry` — the registry that a metastore holds;
* `Agrees` — a change of a metastore, next to what the registry says;
* `createDatabase_agrees`, `createTable_agrees`, … — each call that changes the metastore does to
  its registry what the registry says, or fails where it has the error.
-/

namespace LakeCatalog

open Metastore (Failure Memory DatabaseState)

/-- The location that a record of a table leads to. -/
def TableRecord.pointer (r : TableRecord) : String :=
  (r.parameters.get? metadataLocationKey).getD ""

theorem TableRecord.pointer_of_metadataLocation {r : TableRecord} {n : TableName}
    {location : String} (h : r.metadataLocation n = .ok location) : r.pointer = location := by
  unfold TableRecord.metadataLocation at h
  unfold TableRecord.pointer
  simp only at h
  split at h
  · cases hl : r.parameters.get? metadataLocationKey with
    | none =>
        rw [hl] at h
        cases h
    | some found =>
        rw [hl] at h
        cases h
        rfl
  · cases h

/-- Some properties with a value for a key, if there is one. -/
def Properties.set? (p : Properties) (k : String) (v : Option String) : Properties :=
  v.elim p (p.insert k)

theorem Properties.get?_set? (p : Properties) (k a : String) (v : Option String) :
    (p.set? k v).get? a = if k = a then v.or (p.get? a) else p.get? a := by
  unfold Properties.set?
  cases v with
  | none =>
      show p.get? a = _
      by_cases hk : k = a
      · rw [if_pos hk]
        rfl
      · rw [if_neg hk]
  | some v => exact SortedMap.get?_insert p k a v

theorem DatabaseRecord.properties_eq (r : DatabaseRecord) :
    r.properties = (Properties.set? r.parameters locationKey r.locationUri).set? descriptionKey
      r.description := by
  unfold DatabaseRecord.properties
  cases r.locationUri with
  | none => cases r.description <;> rfl
  | some location => cases r.description <;> rfl

/-- The properties of a namespace come back from its record: what is put back is what was taken
out. -/
theorem DatabaseRecord.properties_ofProperties (name : String) (p : Properties) :
    (DatabaseRecord.ofProperties name p).properties = p := by
  apply SortedMap.ext
  intro k
  rw [DatabaseRecord.properties_eq, Properties.get?_set?, Properties.get?_set?]
  unfold DatabaseRecord.ofProperties
  simp only [SortedMap.get?_erase]
  have hor : ∀ v : Option String, v.or none = v := fun v => by cases v <;> rfl
  by_cases hdescription : descriptionKey = k
  · subst hdescription
    have hne : locationKey ≠ descriptionKey := by decide
    rw [if_pos rfl, if_neg hne, if_neg hne, if_pos rfl, hor]
  · rw [if_neg hdescription]
    by_cases hlocation : locationKey = k
    · subst hlocation
      rw [if_pos rfl, if_pos rfl, hor]
    · rw [if_neg hlocation, if_neg hlocation, if_neg hdescription]

/-- What the registry says of a database. -/
def Metastore.DatabaseState.shelf (d : DatabaseState) : Shelf where
  properties := d.record.properties
  tables := d.tables.mapValues TableRecord.pointer

namespace Metastore.Memory

/-- The registry that a metastore holds. -/
def registry (m : Memory) : Registry := m.databases.mapValues DatabaseState.shelf

variable {m m' : Memory} {n : TableName} {r : TableRecord} {d : DatabaseState}

theorem get?_registry (m : Memory) (name : String) :
    m.registry.get? name = (m.databases.get? name).map DatabaseState.shelf :=
  OrderedMap.get?_mapValues _ m.databases name

theorem registry_setDatabase (m : Memory) (name : String) (d : DatabaseState) :
    (m.setDatabase name d).registry = m.registry.insert name d.shelf :=
  OrderedMap.mapValues_insert _ m.databases name d

theorem find?_registry (m : Memory) (n : TableName) :
    m.registry.find? n = (m.record? n).map TableRecord.pointer := by
  unfold Registry.find? record?
  rw [get?_registry]
  cases m.databases.get? n.space.text with
  | none => rfl
  | some d => exact OrderedMap.get?_mapValues _ d.tables n.table

theorem shelf_insert (d : DatabaseState) (t : String) (r : TableRecord) :
    DatabaseState.shelf { d with tables := d.tables.insert t r }
      = { d.shelf with tables := d.shelf.tables.insert t r.pointer } := by
  unfold DatabaseState.shelf
  simp only [OrderedMap.mapValues_insert]

theorem shelf_erase (d : DatabaseState) (t : String) :
    DatabaseState.shelf { d with tables := d.tables.erase t }
      = { d.shelf with tables := d.shelf.tables.erase t } := by
  unfold DatabaseState.shelf
  simp only [OrderedMap.mapValues_erase]

/-! ### Calls -/

/-- A change of the metastore does what the registry says, or fails where it has the error. -/
def Agrees (expected : Except CatalogError Registry) (result : Outcome Memory)
    (onError : Failure → CatalogError) : Prop :=
  match expected with
  | .ok g => ∃ m, result = .ok m ∧ m.registry = g
  | .error e => ∃ f, result = .error f ∧ onError f = e

section Agrees

variable {expected : Except CatalogError Registry} {result : Outcome Memory}
  {onError : Failure → CatalogError}

/-- A change that is made is the one that the registry says, -/
theorem Agrees.of_ok (h : Agrees expected result onError) {m : Memory} (hr : result = .ok m) :
    expected = .ok m.registry := by
  subst hr
  cases expected with
  | ok g =>
      obtain ⟨_, ⟨⟩, rfl⟩ := h
      rfl
  | error e =>
      obtain ⟨f, hf, -⟩ := h
      cases hf

/-- and one that fails has the error of the registry. -/
theorem Agrees.of_error (h : Agrees expected result onError) {f : Failure}
    (hr : result = .error f) : expected = .error (onError f) := by
  subst hr
  cases expected with
  | ok g =>
      obtain ⟨m, hm, -⟩ := h
      cases hm
  | error e =>
      obtain ⟨_, ⟨⟩, rfl⟩ := h
      rfl

end Agrees

theorem checkName_of_short {kind name : String} (hs : IsSegment name)
    (h : Registry.Short name) : checkName kind name = .ok () := by
  unfold Registry.Short at h
  rw [checkName_of_segment kind hs, if_pos h]

theorem checkName_of_long {kind name : String} (hs : IsSegment name)
    (h : ¬Registry.Short name) : checkName kind name = .error (invalidName kind name) := by
  unfold Registry.Short at h
  rw [checkName_of_segment kind hs, if_neg h]

theorem createDatabase_agrees (m : Memory) (n : NamespaceName) (properties : Properties) :
    Agrees (m.registry.createNamespace n properties)
      (m.createDatabase (.ofProperties n.text properties))
      (Catalog.createNamespaceFailure n.text) := by
  unfold Registry.createNamespace createDatabase
  by_cases hshort : Registry.Short n.text
  · rw [if_neg (not_not_intro hshort)]
    show Agrees _ ((checkName "Database" n.text).bind _) _
    rw [checkName_of_short n.isSegment hshort]
    have hcontains : m.registry.contains n.text = m.databases.contains n.text :=
      OrderedMap.contains_mapValues _ m.databases n.text
    rw [hcontains]
    by_cases hheld : m.databases.contains n.text = true
    · rw [if_pos hheld]
      refine ⟨databaseExists n.text, ?_, rfl⟩
      show (if m.databases.contains n.text = true then _ else _) = _
      rw [if_pos hheld]
      rfl
    · rw [if_neg hheld]
      refine ⟨m.setDatabase n.text { record := .ofProperties n.text properties }, ?_, ?_⟩
      · show (if m.databases.contains n.text = true then _ else _) = _
        rw [if_neg hheld]
        rfl
      · rw [registry_setDatabase]
        unfold DatabaseState.shelf
        simp only [DatabaseRecord.properties_ofProperties]
        rfl
  · rw [if_pos hshort]
    refine ⟨invalidName "Database" n.text, ?_, rfl⟩
    show (checkName "Database" n.text).bind _ = _
    rw [checkName_of_long n.isSegment hshort]
    rfl

theorem createTable_agrees (m : Memory) (hname : r.name = n.table) :
    Agrees (m.registry.addTable n r.pointer) (m.createTable n.space.text r)
      (Catalog.createTableFailure n) := by
  unfold Registry.addTable createTable
  rw [hname]
  by_cases hshort : Registry.Short n.table
  · rw [if_neg (not_not_intro hshort), checkName_of_short n.isSegment hshort, get?_registry]
    simp only [bind, Except.bind]
    cases hd : m.databases.get? n.space.text with
    | none =>
        rw [database_of_get?_none hd]
        exact ⟨_, rfl, rfl⟩
    | some d =>
        rw [database_of_get? hd]
        have hcontains : d.shelf.tables.contains n.table = d.tables.contains n.table :=
          OrderedMap.contains_mapValues _ d.tables n.table
        simp only [Option.map_some, hcontains]
        by_cases hheld : d.tables.contains n.table = true
        · rw [if_pos hheld, if_pos hheld]
          exact ⟨_, rfl, rfl⟩
        · rw [if_neg hheld, if_neg hheld]
          refine ⟨_, rfl, ?_⟩
          rw [registry_setDatabase, shelf_insert]
          rfl
  · rw [if_pos hshort, checkName_of_long n.isSegment hshort]
    exact ⟨_, rfl, rfl⟩

theorem deleteTable_agrees (m : Memory) (n : TableName) :
    Agrees (m.registry.dropTable n) (m.deleteTable n.space.text n.table)
      (Catalog.tableFailure n "delete_table") := by
  unfold Registry.dropTable Registry.removeTable deleteTable
  rw [find?_registry]
  unfold record?
  rw [get?_registry]
  cases hd : m.databases.get? n.space.text with
  | none =>
      rw [database_of_get?_none hd]
      exact ⟨_, rfl, rfl⟩
  | some d =>
      rw [database_of_get? hd]
      simp only [bind, Except.bind, Option.bind_some]
      cases ht : d.tables.get? n.table with
      | none =>
          rw [OrderedMap.contains_eq, ht]
          exact ⟨_, rfl, rfl⟩
      | some r =>
          rw [OrderedMap.contains_of_get? ht]
          refine ⟨_, rfl, ?_⟩
          rw [registry_setDatabase, shelf_erase]
          rfl

/-- A table that is taken out is taken out of the registry. -/
theorem registry_of_loses (h : m.Loses m' n) : m'.registry = m.registry.removeTable n := by
  obtain ⟨d, tables, hd, -, ht, rfl⟩ := h
  unfold Registry.removeTable
  rw [get?_registry, hd, Loses.tables_eq ht, registry_setDatabase, shelf_erase]
  rfl

end Metastore.Memory

end LakeCatalog
