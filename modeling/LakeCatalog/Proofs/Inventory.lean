import LakeCatalog.Proofs.SiteCalls

/-!
# What a metastore holds, as plain lists

A metastore keeps its databases and tables in maps.  To a client it is a list of databases, each
with a list of tables, and every call that succeeds adds something at the end of a list, replaces
something in its place, or takes something out.

* `Inventory`, `Inventory.step` — the lists, and what one call makes of them;
* `Memory.inventory` — what a metastore holds;
* `Memory.Filed` — everything is filed under its own name, and the names are good ones;
* `keeps_respond`, `inventory_afterCalls` — one call, and a run of calls;
* `resized` — the same with pages of another size.
-/

namespace LakeCatalog

open Metastore (Call DatabaseState Failure Memory Outcome)

namespace Metastore

/-- A name that a metastore takes. -/
def GoodName (name : String) : Prop := name ≠ "" ∧ name.utf8ByteSize ≤ Memory.maxNameLength

instance : DecidablePred GoodName := fun name =>
  inferInstanceAs (Decidable (name ≠ "" ∧ name.utf8ByteSize ≤ Memory.maxNameLength))

/-- A database with its tables, as it stands in an inventory. -/
structure Holding where
  name : String
  record : DatabaseRecord
  tables : List TableRecord
deriving DecidableEq

/-- Databases in the order in which they were created, each with its tables in this order. -/
abbrev Inventory := List Holding

namespace Holding

/-- Replaces the record of a database. -/
def setRecord (name : String) (record : DatabaseRecord) (h : Holding) : Holding :=
  if h.name = name then { h with record } else h

/-- Adds a table at the end of a database, unless there is one with its name. -/
def addTable (name : String) (r : TableRecord) (h : Holding) : Holding :=
  if h.name = name ∧ ∀ t ∈ h.tables, t.name ≠ r.name then
    { h with tables := h.tables ++ [{ r with databaseName := some name }] }
  else h

/-- Takes a table out of a database; the others keep their order. -/
def removeTable (name table : String) (h : Holding) : Holding :=
  if h.name = name then { h with tables := h.tables.filter fun t => t.name ≠ table } else h

variable {name : String} {h : Holding}

theorem setRecord_of_ne (record : DatabaseRecord) (hne : h.name ≠ name) :
    h.setRecord name record = h := if_neg hne

theorem addTable_of_ne (r : TableRecord) (hne : h.name ≠ name) : h.addTable name r = h :=
  if_neg fun hboth => hne hboth.1

theorem removeTable_of_ne (table : String) (hne : h.name ≠ name) : h.removeTable name table = h :=
  if_neg hne

end Holding

namespace Inventory

/-- What a call makes of an inventory. -/
def step (g : Inventory) : Call → Inventory
  | .createDatabase record =>
    if GoodName record.name ∧ ∀ h ∈ g, h.name ≠ record.name then g ++ [⟨record.name, record, []⟩]
    else g
  | .updateDatabase name record => g.map (Holding.setRecord name record)
  | .deleteDatabase name => g.filter fun h => h.name ≠ name
  | .createTable database r => if GoodName r.name then g.map (Holding.addTable database r) else g
  | .deleteTable database table => g.map (Holding.removeTable database table)
  | .getTable .. | .getTables .. | .getDatabase .. | .getDatabases .. => g

/-- What a run of calls makes of an inventory. -/
def after : Inventory → List Call → Inventory
  | g, [] => g
  | g, c :: cs => after (g.step c) cs

end Inventory

/-- What a metastore tells of a database. -/
def DatabaseState.holding (name : String) (d : DatabaseState) : Holding :=
  ⟨name, d.record, d.tables.values⟩

end Metastore

namespace Metastore.Memory

/-- What a metastore holds. -/
def inventory (m : Memory) : Inventory := m.databases.entries.map fun e => e.2.holding e.1

/-- The metastore after a run of calls. -/
def afterCalls : Memory → List Call → Memory
  | m, [] => m
  | m, c :: cs => afterCalls (m.respond c).2 cs

/-- Everything is filed under a good name, and each table under its own. -/
structure Filed (m : Memory) : Prop where
  space : ∀ name d, m.databases.get? name = some d → GoodName name
  table : ∀ name d t r, m.databases.get? name = some d → d.tables.get? t = some r →
    r.name = t ∧ r.databaseName = some name ∧ GoodName t

variable {m : Memory} {name : String} {d : DatabaseState}

theorem checkName_of_good (kind : String) (h : GoodName name) : checkName kind name = .ok () :=
  if_pos h

theorem checkName_of_not_good (kind : String) (h : ¬GoodName name) :
    checkName kind name = .error (invalidName kind name) := if_neg h

/-! ### Databases and holdings -/

theorem mem_inventory {h : Holding} :
    h ∈ m.inventory ↔ ∃ d, m.databases.get? h.name = some d ∧ h = d.holding h.name := by
  unfold inventory
  rw [List.mem_map]
  constructor
  · rintro ⟨⟨name, d⟩, he, rfl⟩
    exact ⟨d, OrderedMap.mem_entries_iff.1 he, rfl⟩
  · rintro ⟨d, hd, hh⟩
    exact ⟨(h.name, d), OrderedMap.mem_entries_iff.2 hd, hh.symm⟩

theorem not_mem_inventory (hd : m.databases.get? name = none) :
    ∀ h ∈ m.inventory, h.name ≠ name := by
  rintro h hh rfl
  obtain ⟨d, hd', -⟩ := mem_inventory.1 hh
  rw [hd] at hd'
  cases hd'

/-- The holding of a name is the one of its database. -/
theorem holding_of_mem (hd : m.databases.get? name = some d) {h : Holding} (hh : h ∈ m.inventory)
    (hname : h.name = name) : h = d.holding name := by
  obtain ⟨d', hd', hholding⟩ := mem_inventory.1 hh
  rw [hname, hd, Option.some.injEq] at hd'
  subst hd'
  rw [hholding, hname]

/-- A change that concerns a database which is not there changes nothing. -/
theorem map_inventory_of_none (hd : m.databases.get? name = none) (f : Holding → Holding)
    (hf : ∀ h, h.name ≠ name → f h = h) : m.inventory.map f = m.inventory := by
  rw [List.map_congr_left fun h hh => hf h (not_mem_inventory hd h hh)]
  exact List.map_id' m.inventory

/-- A change to the holding of a database that leaves it as it is changes nothing. -/
theorem map_inventory_of_eq (hd : m.databases.get? name = some d) (f : Holding → Holding)
    (hf : ∀ h, h.name ≠ name → f h = h) (hd' : f (d.holding name) = d.holding name) :
    m.inventory.map f = m.inventory := by
  have hid : ∀ h ∈ m.inventory, f h = h := by
    intro h hh
    by_cases hname : h.name = name
    · rw [holding_of_mem hd hh hname, hd']
    · exact hf h hname
  rw [List.map_congr_left hid]
  exact List.map_id' m.inventory

/-- Another state of a database stands in its place. -/
theorem inventory_setDatabase {d' : DatabaseState} (hd : m.databases.get? name = some d)
    (f : Holding → Holding) (hf : ∀ h, h.name ≠ name → f h = h)
    (hd' : f (d.holding name) = d'.holding name) :
    (m.setDatabase name d').inventory = m.inventory.map f := by
  unfold inventory setDatabase
  rw [OrderedMap.entries_insert_of_get?_some d' hd, List.map_map, List.map_map]
  refine List.map_congr_left ?_
  rintro ⟨a, e⟩ he
  by_cases ha : a = name
  · subst ha
    have he' := OrderedMap.mem_entries_iff.1 he
    rw [hd, Option.some.injEq] at he'
    subst he'
    simp only [Function.comp_apply, if_pos]
    exact hd'.symm
  · simp only [Function.comp_apply, if_neg ha]
    exact (hf (e.holding a) ha).symm

theorem inventory_setDatabase_of_none (hd : m.databases.get? name = none) :
    (m.setDatabase name d).inventory = m.inventory ++ [d.holding name] := by
  unfold inventory setDatabase
  rw [OrderedMap.entries_insert_of_get?_none d hd, List.map_append]
  rfl

theorem inventory_erase (m : Memory) (name : String) :
    ({ m with databases := m.databases.erase name } : Memory).inventory
      = m.inventory.filter fun h => h.name ≠ name := by
  unfold inventory
  rw [OrderedMap.entries_erase, List.filter_map]
  rfl

/-! ### What is filed -/

theorem Filed.setDatabase (hm : m.Filed) {d' : DatabaseState} (hname : GoodName name)
    (hd' : ∀ t r, d'.tables.get? t = some r →
      r.name = t ∧ r.databaseName = some name ∧ GoodName t) :
    (m.setDatabase name d').Filed where
  space := by
    intro a e ha
    rw [get?_setDatabase] at ha
    by_cases hsame : name = a
    · rw [← hsame]
      exact hname
    · rw [if_neg hsame] at ha
      exact hm.space a e ha
  table := by
    intro a e t r ha ht
    rw [get?_setDatabase] at ha
    by_cases hsame : name = a
    · rw [if_pos hsame, Option.some.injEq] at ha
      subst ha
      rw [← hsame]
      exact hd' t r ht
    · rw [if_neg hsame] at ha
      exact hm.table a e t r ha ht

theorem Filed.erase (hm : m.Filed) (name : String) :
    ({ m with databases := m.databases.erase name } : Memory).Filed := by
  have hkept : ∀ a e, (m.databases.erase name).get? a = some e → m.databases.get? a = some e := by
    intro a e ha
    rw [OrderedMap.get?_erase] at ha
    by_cases hsame : name = a
    · rw [if_pos hsame] at ha
      cases ha
    · rw [if_neg hsame] at ha
      exact ha
  exact ⟨fun a e ha => hm.space a e (hkept a e ha),
    fun a e t r ha => hm.table a e t r (hkept a e ha)⟩

/-- A name is free when no table has it. -/
theorem Filed.contains_eq_false_iff (hm : m.Filed) (hd : m.databases.get? name = some d)
    (t : String) : d.tables.contains t = false ↔ ∀ r ∈ d.tables.values, r.name ≠ t := by
  constructor
  · rintro hfree r hr rfl
    obtain ⟨⟨a, r⟩, he, rfl⟩ := List.mem_map.1 hr
    have ha := OrderedMap.mem_entries_iff.1 he
    rw [(hm.table name d a r hd ha).1, OrderedMap.contains_of_get? ha] at hfree
    cases hfree
  · intro hnone
    rw [Bool.eq_false_iff]
    intro hheld
    obtain ⟨r, hr⟩ := Option.isSome_iff_exists.1 ((OrderedMap.contains_eq _ _).symm.trans hheld)
    exact hnone r (List.mem_map_of_mem (OrderedMap.mem_entries_iff.2 hr))
      (hm.table name d t r hd hr).1

/-- Taking a key out of the tables takes out the record with this name. -/
theorem Filed.values_erase (hm : m.Filed) (hd : m.databases.get? name = some d) (t : String) :
    (d.tables.erase t).values = d.tables.values.filter fun r => r.name ≠ t := by
  unfold OrderedMap.values
  rw [OrderedMap.entries_erase, List.filter_map]
  refine congrArg (List.map Prod.snd) (List.filter_congr ?_)
  rintro ⟨a, r⟩ he
  have ha := OrderedMap.mem_entries_iff.1 he
  simp only [Function.comp_apply, (hm.table name d a r hd ha).1]

/-! ### One call -/

/-- The inventory after a call is that before it with the step of the call, and everything is
still filed as it should be. -/
def Keeps (m : Memory) (c : Call) (m' : Memory) : Prop :=
  m'.inventory = m.inventory.step c ∧ m'.Filed

theorem keeps_createTable (hm : m.Filed) (name : String) (r : TableRecord) :
    m.Keeps (.createTable name r) (m.changed (m.createTable name r)).2 := by
  have hrest : ∀ h : Holding, h.name ≠ name → h.addTable name r = h :=
    fun h hne => Holding.addTable_of_ne r hne
  unfold createTable
  by_cases hgood : GoodName r.name
  · have hstep : m.inventory.step (.createTable name r)
        = m.inventory.map (Holding.addTable name r) := if_pos hgood
    unfold Keeps
    rw [hstep, checkName_of_good "Table" hgood]
    cases hd : m.databases.get? name with
    | none =>
        rw [database_of_get?_none hd]
        exact ⟨(map_inventory_of_none hd _ hrest).symm, hm⟩
    | some d =>
        have hfree := hm.contains_eq_false_iff hd r.name
        rw [database_of_get? hd]
        simp only [bind, Except.bind]
        cases ht : d.tables.contains r.name with
        | true =>
            have htaken : ¬∀ t ∈ d.tables.values, t.name ≠ r.name := by
              rw [← hfree, ht]
              exact Bool.noConfusion
            refine ⟨(map_inventory_of_eq hd _ hrest ?_).symm, hm⟩
            exact if_neg fun hboth => htaken hboth.2
        | false =>
            refine ⟨inventory_setDatabase hd _ hrest ?_, hm.setDatabase (hm.space _ _ hd) ?_⟩
            · refine (if_pos ⟨rfl, hfree.1 ht⟩).trans ?_
              unfold DatabaseState.holding OrderedMap.values
              rw [OrderedMap.entries_insert_of_get?_none _ (OrderedMap.get?_eq_none_of_contains ht),
                List.map_append]
              rfl
            · intro t r' ht'
              rw [OrderedMap.get?_insert] at ht'
              by_cases hsame : r.name = t
              · rw [if_pos hsame, Option.some.injEq] at ht'
                subst ht'
                exact ⟨hsame, rfl, hsame ▸ hgood⟩
              · rw [if_neg hsame] at ht'
                exact hm.table name d t r' hd ht'
  · rw [checkName_of_not_good "Table" hgood]
    exact ⟨(if_neg hgood).symm, hm⟩

theorem keeps_deleteTable (hm : m.Filed) (name t : String) :
    m.Keeps (.deleteTable name t) (m.changed (m.deleteTable name t)).2 := by
  have hrest : ∀ h : Holding, h.name ≠ name → h.removeTable name t = h :=
    fun h hne => Holding.removeTable_of_ne t hne
  unfold deleteTable
  cases hd : m.databases.get? name with
  | none =>
      rw [database_of_get?_none hd]
      exact ⟨(map_inventory_of_none hd _ hrest).symm, hm⟩
  | some d =>
      have hholding : (d.holding name).removeTable name t
          = DatabaseState.holding name { d with tables := d.tables.erase t } := by
        refine (if_pos rfl).trans ?_
        unfold DatabaseState.holding
        rw [hm.values_erase hd t]
      rw [database_of_get? hd]
      simp only [bind, Except.bind]
      cases ht : d.tables.contains t with
      | false =>
          have hkept : d.tables.erase t = d.tables :=
            OrderedMap.ext (OrderedEntries.erase_of_not_mem
              (OrderedMap.not_mem_keys (OrderedMap.get?_eq_none_of_contains ht)))
          rw [hkept] at hholding
          exact ⟨(map_inventory_of_eq hd _ hrest hholding).symm, hm⟩
      | true =>
          refine ⟨inventory_setDatabase hd _ hrest hholding, hm.setDatabase (hm.space _ _ hd) ?_⟩
          intro t' r ht'
          rw [OrderedMap.get?_erase] at ht'
          by_cases hsame : t = t'
          · rw [if_pos hsame] at ht'
            cases ht'
          · rw [if_neg hsame] at ht'
            exact hm.table name d t' r hd ht'

theorem keeps_createDatabase (hm : m.Filed) (record : DatabaseRecord) :
    m.Keeps (.createDatabase record) (m.changed (m.createDatabase record)).2 := by
  unfold createDatabase
  by_cases hgood : GoodName record.name
  · rw [checkName_of_good "Database" hgood]
    cases hd : m.databases.get? record.name with
    | none =>
        have hfree : m.databases.contains record.name = false := by
          rw [OrderedMap.contains_eq, hd]
          rfl
        have hstep : m.inventory.step (.createDatabase record)
            = m.inventory ++ [⟨record.name, record, []⟩] := if_pos ⟨hgood, not_mem_inventory hd⟩
        simp only [bind, Except.bind, hfree]
        refine ⟨(inventory_setDatabase_of_none hd).trans hstep.symm, hm.setDatabase hgood ?_⟩
        intro t r ht
        cases ht
    | some d =>
        have htaken : ¬∀ h ∈ m.inventory, h.name ≠ record.name := by
          intro hall
          exact hall (d.holding record.name) (mem_inventory.2 ⟨d, hd, rfl⟩) rfl
        simp only [bind, Except.bind, OrderedMap.contains_of_get? hd]
        exact ⟨(if_neg fun hboth => htaken hboth.2).symm, hm⟩
  · rw [checkName_of_not_good "Database" hgood]
    exact ⟨(if_neg fun hboth => hgood hboth.1).symm, hm⟩

theorem keeps_updateDatabase (hm : m.Filed) (name : String) (record : DatabaseRecord) :
    m.Keeps (.updateDatabase name record) (m.changed (m.updateDatabase name record)).2 := by
  have hrest : ∀ h : Holding, h.name ≠ name → h.setRecord name record = h :=
    fun h hne => Holding.setRecord_of_ne record hne
  cases hd : m.databases.get? name with
  | none =>
      have hkept : (m.changed (m.updateDatabase name record)).2 = m := by
        refine changed_cases (P := (· = m)) rfl ?_
        intro m' h
        obtain ⟨d, hd', -⟩ := updateDatabase_ok h
        rw [hd] at hd'
        cases hd'
      rw [hkept]
      exact ⟨(map_inventory_of_none hd _ hrest).symm, hm⟩
  | some d =>
      have hgood := hm.space name d hd
      unfold updateDatabase
      rw [checkName_of_good "Database" hgood, database_of_get? hd]
      refine ⟨inventory_setDatabase hd _ hrest (if_pos rfl), hm.setDatabase hgood ?_⟩
      exact fun t r ht => hm.table name d t r hd ht

theorem keeps_deleteDatabase (hm : m.Filed) (name : String) :
    m.Keeps (.deleteDatabase name) (m.changed (m.deleteDatabase name)).2 := by
  unfold deleteDatabase
  cases hd : m.databases.get? name with
  | none =>
      rw [database_of_get?_none hd]
      refine ⟨(List.filter_eq_self.2 ?_).symm, hm⟩
      intro h hh
      simpa using not_mem_inventory hd h hh
  | some d =>
      rw [database_of_get? hd]
      exact ⟨inventory_erase m name, hm.erase name⟩

/-- **One call** makes of the inventory what its step says. -/
theorem keeps_respond (hm : m.Filed) (c : Call) : m.Keeps c (m.respond c).2 := by
  cases c with
  | getTable database t => exact ⟨rfl, hm⟩
  | getTables database token => exact ⟨rfl, hm⟩
  | getDatabase name => exact ⟨rfl, hm⟩
  | getDatabases token => exact ⟨rfl, hm⟩
  | createTable database r => exact keeps_createTable hm database r
  | deleteTable database t => exact keeps_deleteTable hm database t
  | createDatabase record => exact keeps_createDatabase hm record
  | updateDatabase name record => exact keeps_updateDatabase hm name record
  | deleteDatabase name => exact keeps_deleteDatabase hm name

/-! ### A run of calls -/

theorem filed_withPageSize (pageSize : Nat) : (withPageSize pageSize).Filed where
  space := by
    intro name d h
    cases h
  table := by
    intro name d t r h
    cases h

/-- **A run of calls** makes of the inventory what its steps say, one after the other. -/
theorem inventory_afterCalls (hm : m.Filed) (calls : List Call) :
    (m.afterCalls calls).inventory = m.inventory.after calls ∧ (m.afterCalls calls).Filed := by
  induction calls generalizing m with
  | nil => exact ⟨rfl, hm⟩
  | cons c calls ih =>
      obtain ⟨hinventory, hfiled⟩ := keeps_respond hm c
      have hrest := ih hfiled
      rw [hinventory] at hrest
      exact hrest

theorem pageSize_afterCalls (m : Memory) (calls : List Call) :
    (m.afterCalls calls).pageSize = m.pageSize := by
  induction calls generalizing m with
  | nil => rfl
  | cons c calls ih => exact (ih (m.respond c).2).trans (pageSize_respond m c)

/-- The metastore with pages of another size. -/
def resized (m : Memory) (n : Nat) : Memory := { m with pageSize := max n 1 }

theorem Filed.resized (hm : m.Filed) (n : Nat) : (m.resized n).Filed := ⟨hm.space, hm.table⟩

/-- The size that pages have from the beginning may as well be given to them in the end. -/
theorem resized_afterCalls (n : Nat) (calls : List Call) :
    ((withPageSize n).afterCalls calls).resized n = (withPageSize n).afterCalls calls := by
  have hsize : ((withPageSize n).afterCalls calls).pageSize = max n 1 := pageSize_afterCalls _ calls
  unfold resized
  rw [← hsize]

/-! ### Names -/

theorem nodup_inventory (m : Memory) : (m.inventory.map (·.name)).Nodup := by
  unfold inventory
  rw [List.map_map]
  exact m.databases.distinct

/-- The tables of a database have different names. -/
theorem Filed.nodup_tables (hm : m.Filed) (hd : m.databases.get? name = some d) :
    (d.tables.values.map (·.name)).Nodup := by
  have hkeys : d.tables.values.map (·.name) = d.tables.entries.map (·.1) := by
    unfold OrderedMap.values
    rw [List.map_map]
    refine List.map_congr_left ?_
    rintro ⟨t, r⟩ he
    exact (hm.table name d t r hd (OrderedMap.mem_entries_iff.1 he)).1
  rw [hkeys]
  exact d.tables.distinct

end Metastore.Memory

end LakeCatalog
