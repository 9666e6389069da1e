import LakeCatalog.Metastore.Memory
import LakeCatalog.Proofs.OrderedMapLaws
import LakeCatalog.Identifier

/-!
# Tables of a metastore in memory

The calls that concern tables, seen from outside: which record a name has, and how one call
changes that.

* `record?` — the record of a table name;
* `Gains`, `Loses` — one metastore is another with one more record at the end of its database,
  or without one that was there;
* `gains_of_createTable`, `loses_of_deleteTable` — what the two calls that succeed do;
* `deleteTable_of_gains` — a record that was just added is taken out without a trace;
* `exists_deleteTable` — a record that is there can be removed.
-/

namespace LakeCatalog

theorem NamespaceName.eq_of_text {a b : NamespaceName} (h : a.text = b.text) : a = b := by
  cases a
  cases b
  cases h
  rfl

theorem TableName.eq_of_parts {a b : TableName} (hs : a.space.text = b.space.text)
    (ht : a.table = b.table) : a = b := by
  have hspace : a.space = b.space := NamespaceName.eq_of_text hs
  cases a
  cases b
  cases hspace
  cases ht
  rfl

/-- The record as it stands once it is registered under a name. -/
def TableRecord.copiedTo (n : TableName) (r : TableRecord) : TableRecord :=
  { r with name := n.table, databaseName := some n.space.text }

namespace Metastore.Memory

/-- The record of a table. -/
def record? (m : Memory) (n : TableName) : Option TableRecord :=
  (m.databases.get? n.space.text).bind fun d => d.tables.get? n.table

/-- `m'` is `m` with one more record, which stands at the end of its database. -/
def Gains (m m' : Memory) (n : TableName) (r : TableRecord) : Prop :=
  ∃ d tables, m.databases.get? n.space.text = some d ∧
    tables.entries = d.tables.entries ++ [(n.table, r)] ∧
    m' = m.setDatabase n.space.text { d with tables }

/-- `m'` is `m` without a record that was there; the others keep their order. -/
def Loses (m m' : Memory) (n : TableName) : Prop :=
  ∃ d tables, m.databases.get? n.space.text = some d ∧ n.table ∈ d.tables.keys ∧
    tables.entries = d.tables.entries.filter (fun e => e.1 ≠ n.table) ∧
    m' = m.setDatabase n.space.text { d with tables }

variable {m m' : Memory} {n k : TableName} {r : TableRecord} {d : DatabaseState}

/-! ### Databases -/

theorem get?_setDatabase (m : Memory) (name a : String) (d : DatabaseState) :
    (m.setDatabase name d).databases.get? a
      = if name = a then some d else m.databases.get? a :=
  OrderedMap.get?_insert m.databases name a d

/-- No database goes when another state of one is set. -/
theorem contains_setDatabase (name : String) (d : DatabaseState) {a : String}
    (h : m.databases.contains a = true) : (m.setDatabase name d).databases.contains a = true := by
  rw [OrderedMap.contains_eq, get?_setDatabase]
  by_cases hname : name = a
  · rw [if_pos hname]
    rfl
  · rw [if_neg hname, ← OrderedMap.contains_eq]
    exact h

theorem setDatabase_setDatabase (m : Memory) (name : String) (d d' : DatabaseState) :
    (m.setDatabase name d).setDatabase name d' = m.setDatabase name d' := by
  unfold setDatabase
  simp only [OrderedMap.insert_insert]

theorem setDatabase_eq_self {name : String} (h : m.databases.get? name = some d) :
    m.setDatabase name d = m := by
  unfold setDatabase
  rw [OrderedMap.insert_eq_self h]

theorem database_of_get? {name : String} (h : m.databases.get? name = some d) :
    m.database name = .ok d := by
  unfold database
  rw [h]

theorem database_of_get?_none {name : String} (h : m.databases.get? name = none) :
    m.database name = .error (databaseNotFound name) := by
  unfold database
  rw [h]

/-- The record of a database is not touched when its tables change. -/
theorem getDatabase_setDatabase {name : String} (hd : m.databases.get? name = some d)
    (tables : OrderedMap TableRecord) (a : String) :
    (m.setDatabase name { d with tables }).getDatabase a = m.getDatabase a := by
  unfold getDatabase database
  rw [get?_setDatabase]
  by_cases hname : name = a
  · subst hname
    rw [if_pos rfl, hd]
    rfl
  · rw [if_neg hname]

/-! ### Records -/

theorem record?_of_get? (h : m.databases.get? n.space.text = some d) :
    m.record? n = d.tables.get? n.table := by
  unfold record?
  rw [h]
  rfl

theorem exists_of_record? (h : m.record? n = some r) :
    ∃ d, m.databases.get? n.space.text = some d ∧ d.tables.get? n.table = some r := by
  unfold record? at h
  exact Option.bind_eq_some_iff.1 h

/-- A database that is replaced by one with other tables changes the records of its names only,
and of these only those that the tables answer differently. -/
theorem record?_setDatabase_of_ne {tables : OrderedMap TableRecord}
    (hd : m.databases.get? n.space.text = some d) (hne : k ≠ n)
    (hrest : ∀ a, a ≠ n.table → tables.get? a = d.tables.get? a) :
    (m.setDatabase n.space.text { d with tables }).record? k = m.record? k := by
  unfold record?
  rw [get?_setDatabase]
  by_cases hs : n.space.text = k.space.text
  · have ht : k.table ≠ n.table := fun ht => hne (TableName.eq_of_parts hs.symm ht)
    rw [if_pos hs, ← hs, hd]
    exact hrest k.table ht
  · rw [if_neg hs]

theorem record?_setDatabase_self (tables : OrderedMap TableRecord) :
    (m.setDatabase n.space.text { d with tables }).record? n = tables.get? n.table := by
  unfold record?
  rw [get?_setDatabase, if_pos rfl]
  rfl

/-! ### One more record -/

theorem Gains.get?_eq_none {tables : OrderedMap TableRecord}
    (h : tables.entries = d.tables.entries ++ [(n.table, r)]) : d.tables.get? n.table = none := by
  have hdistinct := tables.distinct
  unfold OrderedEntries.Distinct at hdistinct
  rw [h, List.map_append] at hdistinct
  have hdisjoint := (List.nodup_append.1 hdistinct).2.2
  refine Entries.lookup_eq_none_iff.2 ?_
  intro e he
  exact hdisjoint e.1 (List.mem_map_of_mem he) n.table (by simp)

/-- The tables of a database with one more record are those that the call makes. -/
theorem Gains.tables_eq {tables : OrderedMap TableRecord}
    (h : tables.entries = d.tables.entries ++ [(n.table, r)]) :
    tables = d.tables.insert n.table r := by
  apply OrderedMap.ext
  rw [h, OrderedMap.entries_insert_of_get?_none r (Gains.get?_eq_none h)]

theorem Gains.contains (h : m.Gains m' n r) {name : String}
    (hname : m.databases.contains name = true) : m'.databases.contains name = true := by
  obtain ⟨d, tables, -, -, rfl⟩ := h
  exact contains_setDatabase _ _ hname

theorem Gains.getDatabase (h : m.Gains m' n r) (name : String) :
    m'.getDatabase name = m.getDatabase name := by
  obtain ⟨d, tables, hd, -, rfl⟩ := h
  exact getDatabase_setDatabase hd tables name

theorem Gains.record?_self (h : m.Gains m' n r) : m'.record? n = some r := by
  obtain ⟨d, tables, -, ht, rfl⟩ := h
  rw [record?_setDatabase_self, Gains.tables_eq ht, OrderedMap.get?_insert_self]

theorem Gains.absent (h : m.Gains m' n r) : m.record? n = none := by
  obtain ⟨d, tables, hd, ht, -⟩ := h
  rw [record?_of_get? hd, Gains.get?_eq_none ht]

theorem Gains.record?_of_ne (h : m.Gains m' n r) (hne : k ≠ n) : m'.record? k = m.record? k := by
  obtain ⟨d, tables, hd, ht, rfl⟩ := h
  refine record?_setDatabase_of_ne hd hne ?_
  intro a ha
  rw [Gains.tables_eq ht, OrderedMap.get?_insert_of_ne r (Ne.symm ha)]

/-! ### One record less -/

theorem Loses.tables_eq {tables : OrderedMap TableRecord}
    (h : tables.entries = d.tables.entries.filter fun e => e.1 ≠ n.table) :
    tables = d.tables.erase n.table :=
  OrderedMap.ext h

theorem Loses.contains (h : m.Loses m' n) {name : String}
    (hname : m.databases.contains name = true) : m'.databases.contains name = true := by
  obtain ⟨d, tables, -, -, -, rfl⟩ := h
  exact contains_setDatabase _ _ hname

theorem Loses.getDatabase (h : m.Loses m' n) (name : String) :
    m'.getDatabase name = m.getDatabase name := by
  obtain ⟨d, tables, hd, -, -, rfl⟩ := h
  exact getDatabase_setDatabase hd tables name

theorem Loses.record?_self (h : m.Loses m' n) : m'.record? n = none := by
  obtain ⟨d, tables, -, -, ht, rfl⟩ := h
  rw [record?_setDatabase_self, Loses.tables_eq ht, OrderedMap.get?_erase_self]

theorem Loses.record?_of_ne (h : m.Loses m' n) (hne : k ≠ n) : m'.record? k = m.record? k := by
  obtain ⟨d, tables, hd, -, ht, rfl⟩ := h
  refine record?_setDatabase_of_ne hd hne ?_
  intro a ha
  rw [Loses.tables_eq ht, OrderedMap.get?_erase_of_ne (Ne.symm ha)]

/-! ### Calls -/

theorem eq_of_changed_ok {result : Outcome Memory} {u : Unit}
    (h : m.changed result = (.ok u, m')) : result = .ok m' := by
  cases result with
  | ok m'' =>
      cases h
      rfl
  | error f => cases h

theorem eq_of_changed_error {result : Outcome Memory} {f : Failure}
    (h : m.changed result = (.error f, m')) : result = .error f ∧ m' = m := by
  cases result with
  | ok m'' => cases h
  | error f' =>
      cases h
      exact ⟨rfl, rfl⟩

/-- **A call that fails changes nothing.** -/
theorem respond_error {c : Call} {f : Failure} (h : m.respond c = (.error f, m')) : m' = m := by
  cases c with
  | getTable database name => exact (congrArg Prod.snd h).symm
  | getTables database token => exact (congrArg Prod.snd h).symm
  | getDatabase name => exact (congrArg Prod.snd h).symm
  | getDatabases token => exact (congrArg Prod.snd h).symm
  | createTable database table => exact (eq_of_changed_error h).2
  | deleteTable database name => exact (eq_of_changed_error h).2
  | createDatabase record => exact (eq_of_changed_error h).2
  | updateDatabase name record => exact (eq_of_changed_error h).2
  | deleteDatabase name => exact (eq_of_changed_error h).2

theorem record?_of_getTable (h : m.getTable n.space.text n.table = .ok r) :
    m.record? n = some r := by
  unfold getTable at h
  cases hc : checkName "Table" n.table with
  | error f =>
      rw [hc] at h
      cases h
  | ok _ =>
      rw [hc] at h
      cases hd : m.databases.get? n.space.text with
      | none =>
          rw [database_of_get?_none hd] at h
          cases h
      | some d =>
          rw [database_of_get? hd] at h
          rw [record?_of_get? hd]
          cases ht : d.tables.get? n.table with
          | none =>
              simp only [bind, Except.bind, ht] at h
              cases h
          | some t =>
              simp only [bind, Except.bind, ht] at h
              cases h
              rfl

theorem checkName_of_segment (kind : String) {name : String} (h : IsSegment name) :
    checkName kind name = if name.utf8ByteSize ≤ maxNameLength then .ok ()
      else .error (invalidName kind name) := by
  unfold checkName
  by_cases hshort : name.utf8ByteSize ≤ maxNameLength
  · rw [if_pos ⟨h.1, hshort⟩, if_pos hshort]
  · rw [if_neg fun hboth => hshort hboth.2, if_neg hshort]

/-- A record with a short name is found. -/
theorem getTable_of_record? (h : m.record? n = some r)
    (hshort : n.table.utf8ByteSize ≤ maxNameLength) :
    m.getTable n.space.text n.table = .ok r := by
  obtain ⟨d, hd, ht⟩ := exists_of_record? h
  unfold getTable
  rw [checkName_of_segment "Table" n.isSegment, if_pos hshort, database_of_get? hd]
  simp only [bind, Except.bind, ht]
  rfl

/-- **A call that adds a table** and succeeds adds its record at the end of the database, which
it names as its owner. -/
theorem gains_of_createTable (hname : r.name = n.table)
    (h : m.createTable n.space.text r = .ok m') :
    m.Gains m' n { r with databaseName := some n.space.text } := by
  cases r
  cases hname
  unfold createTable at h
  cases hc : checkName "Table" n.table with
  | error f =>
      rw [hc] at h
      cases h
  | ok _ =>
      rw [hc] at h
      cases hd : m.databases.get? n.space.text with
      | none =>
          rw [database_of_get?_none hd] at h
          cases h
      | some d =>
          rw [database_of_get? hd] at h
          simp only [bind, Except.bind] at h
          cases ht : d.tables.contains n.table with
          | true =>
              rw [ht] at h
              cases h
          | false =>
              rw [ht] at h
              cases h
              have habsent := OrderedMap.get?_eq_none_of_contains ht
              exact ⟨d, _, hd, OrderedMap.entries_insert_of_get?_none _ habsent, rfl⟩

/-- **A call that removes a table** and succeeds removes a record that was there. -/
theorem loses_of_deleteTable (h : m.deleteTable n.space.text n.table = .ok m') :
    m.Loses m' n := by
  unfold deleteTable at h
  cases hd : m.databases.get? n.space.text with
  | none =>
      rw [database_of_get?_none hd] at h
      cases h
  | some d =>
      rw [database_of_get? hd] at h
      simp only [bind, Except.bind] at h
      cases ht : d.tables.contains n.table with
      | false =>
          rw [ht] at h
          cases h
      | true =>
          rw [ht] at h
          cases h
          exact ⟨d, d.tables.erase n.table, hd, (OrderedMap.contains_iff _ _).1 ht,
            OrderedMap.entries_erase _ _, rfl⟩

theorem deleteTable_of_record? (hd : m.databases.get? n.space.text = some d)
    (ht : d.tables.get? n.table = some r) :
    m.deleteTable n.space.text n.table
      = .ok (m.setDatabase n.space.text { d with tables := d.tables.erase n.table }) := by
  unfold deleteTable
  rw [database_of_get? hd]
  simp only [bind, Except.bind, OrderedMap.contains_of_get? ht, if_true]
  rfl

/-- A record that is there can be removed. -/
theorem exists_deleteTable (h : m.record? n = some r) :
    ∃ m', m.deleteTable n.space.text n.table = .ok m' := by
  obtain ⟨d, hd, ht⟩ := exists_of_record? h
  exact ⟨_, deleteTable_of_record? hd ht⟩

/-- **A record that was just added** is taken out again without a trace. -/
theorem deleteTable_of_gains (h : m.Gains m' n r) :
    m'.deleteTable n.space.text n.table = .ok m := by
  obtain ⟨d, tables, hd, ht, rfl⟩ := h
  have htables := Gains.tables_eq ht
  subst htables
  have hself : (m.setDatabase n.space.text
      { d with tables := d.tables.insert n.table r }).databases.get? n.space.text
        = some { d with tables := d.tables.insert n.table r } := by
    rw [get?_setDatabase, if_pos rfl]
  rw [deleteTable_of_record? hself (OrderedMap.get?_insert_self _ _ _), setDatabase_setDatabase]
  simp only [OrderedMap.erase_insert_of_get?_none r (Gains.get?_eq_none ht)]
  rw [setDatabase_eq_self hd]

/-! ### Calls that concern databases -/

theorem createDatabase_ok {record : DatabaseRecord} (h : m.createDatabase record = .ok m') :
    record.name.utf8ByteSize ≤ maxNameLength ∧ m' = m.setDatabase record.name { record } := by
  unfold createDatabase checkName at h
  by_cases hname : record.name ≠ "" ∧ record.name.utf8ByteSize ≤ maxNameLength
  · rw [if_pos hname] at h
    simp only [bind, Except.bind] at h
    cases hheld : m.databases.contains record.name with
    | true =>
        rw [hheld] at h
        cases h
    | false =>
        rw [hheld] at h
        cases h
        exact ⟨hname.2, rfl⟩
  · rw [if_neg hname] at h
    cases h

theorem updateDatabase_ok {name : String} {record : DatabaseRecord}
    (h : m.updateDatabase name record = .ok m') :
    ∃ d, m.databases.get? name = some d ∧ m' = m.setDatabase name { d with record } := by
  unfold updateDatabase at h
  cases hc : checkName "Database" name with
  | error f =>
      rw [hc] at h
      cases h
  | ok _ =>
      rw [hc] at h
      cases hd : m.databases.get? name with
      | none =>
          rw [database_of_get?_none hd] at h
          cases h
      | some d =>
          rw [database_of_get? hd] at h
          cases h
          exact ⟨d, rfl, rfl⟩

theorem deleteDatabase_ok {name : String} (h : m.deleteDatabase name = .ok m') :
    m' = { m with databases := m.databases.erase name } := by
  unfold deleteDatabase at h
  cases hd : m.database name with
  | error f =>
      rw [hd] at h
      cases h
  | ok d =>
      rw [hd] at h
      cases h
      rfl

end Metastore.Memory

end LakeCatalog
