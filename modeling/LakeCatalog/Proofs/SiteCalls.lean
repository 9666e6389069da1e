import LakeCatalog.Proofs.TableRefinement

/-!
# Single calls to the metastore of a site

What a single call can do to a metastore, and what the metastore of a site answers to a call that
concerns a table, said in terms of the record that the table has.

* `Memory.pageSize_respond`, `Memory.registered_of_respond` — what no call changes, and the one call
  after which a name has a record that had none;
* `call_getTable_some`, `call_getTable_none` — looking a table up;
* `call_createTable_free`, `call_createTable_held`, `call_createTable_long` — registering a table
  under a free name, under one that is taken, and under one that is too long;
* `call_deleteTable_some`, `call_deleteTable_none` — removing a table.
-/

namespace LakeCatalog

open Metastore (Call DatabaseState Failure Memory Outcome)

/-! ### What a call can do -/

namespace Metastore.Memory

variable {m m' : Memory} {n : TableName} {name : String}

theorem createTable_ok {r : TableRecord} (h : m.createTable name r = .ok m') :
    ∃ d, m.databases.get? name = some d ∧ m' = m.setDatabase name
      { d with tables := d.tables.insert r.name { r with databaseName := some name } } := by
  unfold createTable at h
  cases hc : checkName "Table" r.name with
  | error f =>
      rw [hc] at h
      cases h
  | ok _ =>
      rw [hc] at h
      cases hd : m.databases.get? name with
      | none =>
          rw [database_of_get?_none hd] at h
          cases h
      | some d =>
          rw [database_of_get? hd] at h
          simp only [bind, Except.bind] at h
          cases ht : d.tables.contains r.name with
          | true =>
              rw [ht] at h
              cases h
          | false =>
              rw [ht] at h
              cases h
              exact ⟨d, rfl, rfl⟩

theorem deleteTable_ok {t : String} (h : m.deleteTable name t = .ok m') :
    ∃ d, m.databases.get? name = some d ∧
      m' = m.setDatabase name { d with tables := d.tables.erase t } := by
  unfold deleteTable at h
  cases hd : m.databases.get? name with
  | none =>
      rw [database_of_get?_none hd] at h
      cases h
  | some d =>
      rw [database_of_get? hd] at h
      simp only [bind, Except.bind] at h
      cases ht : d.tables.contains t with
      | false =>
          rw [ht] at h
          cases h
      | true =>
          rw [ht] at h
          cases h
          exact ⟨d, rfl, rfl⟩

/-- What holds of a metastore and of it after a change that succeeds, holds after the change. -/
theorem changed_cases {P : Memory → Prop} {result : Outcome Memory} (hm : P m)
    (hok : ∀ m', result = .ok m' → P m') : P (m.changed result).2 := by
  cases result with
  | ok m' => exact hok m' rfl
  | error f => exact hm

/-- No call changes the size of pages. -/
theorem pageSize_respond (m : Memory) (c : Call) : (m.respond c).2.pageSize = m.pageSize := by
  cases c with
  | getTable database t => rfl
  | getTables database token => rfl
  | getDatabase name => rfl
  | getDatabases token => rfl
  | createTable database r =>
      refine changed_cases (P := fun m' => m'.pageSize = m.pageSize) rfl ?_
      intro m' h
      obtain ⟨d, -, rfl⟩ := createTable_ok h
      rfl
  | deleteTable database t =>
      refine changed_cases (P := fun m' => m'.pageSize = m.pageSize) rfl ?_
      intro m' h
      obtain ⟨d, -, rfl⟩ := deleteTable_ok h
      rfl
  | createDatabase record =>
      refine changed_cases (P := fun m' => m'.pageSize = m.pageSize) rfl ?_
      intro m' h
      obtain ⟨-, rfl⟩ := createDatabase_ok h
      rfl
  | updateDatabase name record =>
      refine changed_cases (P := fun m' => m'.pageSize = m.pageSize) rfl ?_
      intro m' h
      obtain ⟨d, -, rfl⟩ := updateDatabase_ok h
      rfl
  | deleteDatabase name =>
      refine changed_cases (P := fun m' => m'.pageSize = m.pageSize) rfl ?_
      intro m' h
      rw [deleteDatabase_ok h]

/-- A database whose tables change has a record where it had none only if one was put there. -/
theorem record?_setDatabase_eq_none {d : DatabaseState}
    (hn : n.space.text = name → d.tables.get? n.table = none) (hm : m.record? n = none) :
    (m.setDatabase name d).record? n = none := by
  unfold record?
  rw [get?_setDatabase]
  by_cases hname : name = n.space.text
  · rw [if_pos hname]
    exact hn hname.symm
  · rw [if_neg hname]
    exact hm

theorem get?_tables_of_record? {d : DatabaseState} (hd : m.databases.get? name = some d)
    (hm : m.record? n = none) (hname : n.space.text = name) : d.tables.get? n.table = none := by
  rw [← hname] at hd
  rw [← record?_of_get? hd]
  exact hm

/-- **A name gets a record** only by a call that adds a table under it, and succeeds. -/
theorem registered_of_respond {c : Call} (hbefore : m.record? n = none)
    (hafter : (m.respond c).2.record? n ≠ none) :
    ∃ r m', c = .createTable n.space.text r ∧ r.name = n.table ∧
      m.createTable n.space.text r = .ok m' := by
  -- Every other call leaves the name without a record.
  have hnot : ∀ {result : Outcome Memory}, (m.changed result).2.record? n ≠ none →
      ¬∀ m', result = .ok m' → m'.record? n = none := by
    intro result hchanged hall
    exact hchanged (changed_cases (P := fun m' => m'.record? n = none) hbefore hall)
  cases c with
  | getTable database t => exact absurd hbefore hafter
  | getTables database token => exact absurd hbefore hafter
  | getDatabase name => exact absurd hbefore hafter
  | getDatabases token => exact absurd hbefore hafter
  | createTable database r =>
      cases hcreate : m.createTable database r with
      | error f =>
          have hchanged : (m.changed (m.createTable database r)).2.record? n ≠ none := hafter
          rw [hcreate] at hchanged
          exact absurd hbefore hchanged
      | ok m' =>
          obtain ⟨d, hd, rfl⟩ := createTable_ok hcreate
          have hchanged : (m.changed (m.createTable database r)).2.record? n ≠ none := hafter
          rw [hcreate] at hchanged
          by_cases hspace : n.space.text = database
          · by_cases htable : r.name = n.table
            · subst hspace
              exact ⟨r, _, rfl, htable, hcreate⟩
            · refine absurd (record?_setDatabase_eq_none (fun hname => ?_) hbefore) hchanged
              rw [OrderedMap.get?_insert_of_ne _ htable]
              exact get?_tables_of_record? hd hbefore hname
          · exact absurd (record?_setDatabase_eq_none (fun hname => absurd hname hspace) hbefore)
              hchanged
  | deleteTable database t =>
      refine absurd ?_ (hnot hafter)
      intro m' h
      obtain ⟨d, hd, rfl⟩ := deleteTable_ok h
      refine record?_setDatabase_eq_none (fun hname => ?_) hbefore
      rw [OrderedMap.get?_erase]
      split
      · rfl
      · exact get?_tables_of_record? hd hbefore hname
  | createDatabase record =>
      refine absurd ?_ (hnot hafter)
      intro m' h
      obtain ⟨-, rfl⟩ := createDatabase_ok h
      exact record?_setDatabase_eq_none (fun _ => rfl) hbefore
  | updateDatabase name record =>
      refine absurd ?_ (hnot hafter)
      intro m' h
      obtain ⟨d, hd, rfl⟩ := updateDatabase_ok h
      refine record?_setDatabase_eq_none (fun hname => ?_) hbefore
      show d.tables.get? n.table = none
      exact get?_tables_of_record? hd hbefore hname
  | deleteDatabase name =>
      refine absurd ?_ (hnot hafter)
      intro m' h
      rw [deleteDatabase_ok h]
      show ((m.databases.erase name).get? n.space.text).bind _ = none
      rw [OrderedMap.get?_erase]
      split
      · rfl
      · exact hbefore

end Metastore.Memory

/-! ### Calls that concern a table -/

namespace Site

variable {s : Site} {n : TableName} {r : TableRecord}

theorem call_getTable_some (hr : s.metastore.record? n = some r)
    (hshort : Registry.Short n.table) :
    Handler.call answer (.getTable n.space.text n.table) s = (.ok r, s) := by
  show (s.metastore.getTable n.space.text n.table, s) = _
  rw [Memory.getTable_of_record? hr hshort]

theorem call_getTable_none (hr : s.metastore.record? n = none)
    (hshort : Registry.Short n.table) :
    ∃ f, Handler.call answer (.getTable n.space.text n.table) s = (.error f, s) ∧
      Catalog.tableFailure n "get_table" f = .noSuchTable n.space.text n.table := by
  obtain ⟨f, hget, hf⟩ := getTable_error hr
  rw [if_neg (not_not_intro hshort)] at hf
  refine ⟨f, ?_, hf⟩
  show (s.metastore.getTable n.space.text n.table, s) = _
  rw [hget]

theorem call_createTable_free (hspace : s.metastore.databases.contains n.space.text = true)
    (hr : s.metastore.record? n = none) (hname : r.name = n.table)
    (hshort : Registry.Short n.table) :
    ∃ m', Handler.call answer (.createTable n.space.text r) s = (.ok (), ⟨m', s.objects⟩) ∧
      s.metastore.Gains m' n { r with databaseName := some n.space.text } := by
  obtain ⟨d, hd⟩ := Option.isSome_iff_exists.1 ((OrderedMap.contains_eq _ _).symm.trans hspace)
  have hfree : d.tables.contains n.table = false := by
    rw [OrderedMap.contains_eq, ← Memory.record?_of_get? hd, hr]
    rfl
  have hcreate : s.metastore.createTable n.space.text r = .ok (s.metastore.setDatabase
      n.space.text { d with
        tables := d.tables.insert n.table { r with databaseName := some n.space.text } }) := by
    unfold Memory.createTable
    rw [hname, Memory.checkName_of_short n.isSegment hshort, Memory.database_of_get? hd]
    simp only [bind, Except.bind, hfree]
    rfl
  refine ⟨_, ?_, Memory.gains_of_createTable hname hcreate⟩
  show ((s.metastore.changed _).1, ({ s with metastore := (s.metastore.changed _).2 } : Site)) = _
  rw [hcreate]
  rfl

theorem call_createTable_held {held : TableRecord} (hheld : s.metastore.record? n = some held)
    (hname : r.name = n.table) (hshort : Registry.Short n.table) :
    ∃ f, Handler.call answer (.createTable n.space.text r) s = (.error f, s) ∧
      Catalog.createTableFailure n f = .tableAlreadyExists n.space.text n.table := by
  obtain ⟨d, hd, ht⟩ := Memory.exists_of_record? hheld
  have hcreate : s.metastore.createTable n.space.text r
      = .error (Memory.tableExists n.space.text n.table) := by
    unfold Memory.createTable
    rw [hname, Memory.checkName_of_short n.isSegment hshort, Memory.database_of_get? hd]
    simp only [bind, Except.bind, OrderedMap.contains_of_get? ht]
    rfl
  refine ⟨Memory.tableExists n.space.text n.table, ?_, rfl⟩
  show ((s.metastore.changed _).1, ({ s with metastore := (s.metastore.changed _).2 } : Site)) = _
  rw [hcreate]
  rfl

theorem call_createTable_long (hname : r.name = n.table) (hlong : ¬Registry.Short n.table) :
    Handler.call answer (.createTable n.space.text r) s
      = (.error (Memory.invalidName "Table" n.table), s) ∧
    Catalog.createTableFailure n (Memory.invalidName "Table" n.table)
      = .metastore "create_table" (Memory.invalidName "Table" n.table) := by
  have hcreate : s.metastore.createTable n.space.text r
      = .error (Memory.invalidName "Table" n.table) := by
    unfold Memory.createTable
    rw [hname, Memory.checkName_of_long n.isSegment hlong]
    rfl
  refine ⟨?_, rfl⟩
  show ((s.metastore.changed _).1, ({ s with metastore := (s.metastore.changed _).2 } : Site)) = _
  rw [hcreate]
  rfl

theorem call_deleteTable_some (hr : s.metastore.record? n = some r) :
    ∃ m', Handler.call answer (.deleteTable n.space.text n.table) s = (.ok (), ⟨m', s.objects⟩) ∧
      s.metastore.Loses m' n := by
  obtain ⟨m', hdelete⟩ := Memory.exists_deleteTable hr
  refine ⟨m', ?_, Memory.loses_of_deleteTable hdelete⟩
  show ((s.metastore.changed _).1, ({ s with metastore := (s.metastore.changed _).2 } : Site)) = _
  rw [hdelete]
  rfl

theorem call_deleteTable_none (hr : s.metastore.record? n = none) :
    ∃ f, Handler.call answer (.deleteTable n.space.text n.table) s = (.error f, s) ∧
      Catalog.tableFailure n "delete_table" f = .noSuchTable n.space.text n.table := by
  have hagrees := Memory.deleteTable_agrees s.metastore n
  unfold Registry.dropTable at hagrees
  rw [Memory.find?_registry, hr] at hagrees
  obtain ⟨f, hdelete, hf⟩ := hagrees
  refine ⟨f, ?_, hf⟩
  show ((s.metastore.changed _).1, ({ s with metastore := (s.metastore.changed _).2 } : Site)) = _
  rw [hdelete]
  rfl

end Site

end LakeCatalog
