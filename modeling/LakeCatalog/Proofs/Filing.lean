import LakeCatalog.Proofs.Paging

/-!
# Records under their own names

A metastore files a record under a name, and the record has a name of its own.  A table is filed
under its own name by the call that adds it, and so is a database; but the call that replaces the
record of a database takes the name and the new record apart, and nothing compares them.

* `Filing` — a lookup and a listing that speak of the same records, each under its own name;
* `Memory.TablesFiled`, `Memory.SpacesFiled` — what is filed so, the tables and the databases;
* `Inventory.Named`, `Inventory.mem_step` — where the records of an inventory come from;
* `Memory.spacesFiled_iff` — the databases are filed when every record in the inventory has the
  name of its holding;
* `Memory.filed_but_updated` — what holds after every run of calls.
-/

namespace LakeCatalog

namespace Metastore

/-- A lookup and a listing in step: both speak of the same records, each under its own name. -/
structure Filing {α : Type} (nameOf : α → String) (size : Nat) (find : String → Outcome α)
    (list : Option String → Outcome (Page α)) : Prop where
  /-- What is found under a name has this name, and the name is a good one. -/
  named : ∀ name e, find name = .ok e → nameOf e = name ∧ GoodName name
  /-- The pages of the listing are together a list of records with different names.  The names are
  exactly those under which something is found, and what is found stands in the list. -/
  listed : ∃ records, Memory.Paged records size list ∧ (records.map nameOf).Nodup ∧
    (∀ name, name ∈ records.map nameOf ↔ ∃ e, find name = .ok e) ∧
    ∀ name e, find name = .ok e → e ∈ records

namespace Inventory

/-- Every database has a record with its own name. -/
def Named (g : Inventory) : Prop := ∀ h ∈ g, h.record.name = h.name

variable {g : Inventory} {h : Holding}

/-- **The record of a holding** was there before the call, or it is the one that the call has
brought. -/
theorem mem_step {c : Call} (hh : h ∈ g.step c) :
    (∃ k ∈ g, k.name = h.name ∧ k.record = h.record) ∨
      (c = .createDatabase h.record ∧ h.record.name = h.name) ∨
      c = .updateDatabase h.name h.record := by
  cases c with
  | getTable database t => exact .inl ⟨h, hh, rfl, rfl⟩
  | getTables database token => exact .inl ⟨h, hh, rfl, rfl⟩
  | getDatabase name => exact .inl ⟨h, hh, rfl, rfl⟩
  | getDatabases token => exact .inl ⟨h, hh, rfl, rfl⟩
  | deleteDatabase name => exact .inl ⟨h, (List.mem_filter.1 hh).1, rfl, rfl⟩
  | createTable database r =>
      by_cases hgood : GoodName r.name
      · have hstep : g.step (.createTable database r) = g.map (Holding.addTable database r) :=
          if_pos hgood
        rw [hstep] at hh
        obtain ⟨k, hk, rfl⟩ := List.mem_map.1 hh
        refine .inl ⟨k, hk, ?_, ?_⟩ <;> unfold Holding.addTable <;> split <;> rfl
      · have hstep : g.step (.createTable database r) = g := if_neg hgood
        rw [hstep] at hh
        exact .inl ⟨h, hh, rfl, rfl⟩
  | deleteTable database t =>
      obtain ⟨k, hk, rfl⟩ := List.mem_map.1 hh
      refine .inl ⟨k, hk, ?_, ?_⟩ <;> unfold Holding.removeTable <;> split <;> rfl
  | createDatabase record =>
      by_cases hnew : GoodName record.name ∧ ∀ k ∈ g, k.name ≠ record.name
      · have hstep : g.step (.createDatabase record) = g ++ [⟨record.name, record, []⟩] :=
          if_pos hnew
        rw [hstep] at hh
        rcases List.mem_append.1 hh with hold | hlast
        · exact .inl ⟨h, hold, rfl, rfl⟩
        · have hrecord : h = ⟨record.name, record, []⟩ := List.mem_singleton.1 hlast
          subst hrecord
          exact .inr (.inl ⟨rfl, rfl⟩)
      · have hstep : g.step (.createDatabase record) = g := if_neg hnew
        rw [hstep] at hh
        exact .inl ⟨h, hh, rfl, rfl⟩
  | updateDatabase name record =>
      obtain ⟨k, hk, rfl⟩ := List.mem_map.1 hh
      by_cases hname : k.name = name
      · have hset : k.setRecord name record = { k with record } := if_pos hname
        rw [hset]
        exact .inr (.inr (hname ▸ rfl))
      · rw [Holding.setRecord_of_ne record hname]
        exact .inl ⟨k, hk, rfl, rfl⟩

/-- **The record of a holding after a run** was there before it, or one of its calls has brought
it. -/
theorem mem_after {calls : List Call} (hh : h ∈ g.after calls) :
    (∃ k ∈ g, k.name = h.name ∧ k.record = h.record) ∨
      (.createDatabase h.record ∈ calls ∧ h.record.name = h.name) ∨
      .updateDatabase h.name h.record ∈ calls := by
  induction calls generalizing g with
  | nil => exact .inl ⟨h, hh, rfl, rfl⟩
  | cons c calls ih =>
      rcases ih hh with ⟨k, hk, hname, hrecord⟩ | ⟨hcreate, hname⟩ | hupdate
      · rcases mem_step hk with ⟨k', hk', hname', hrecord'⟩ | ⟨rfl, hown⟩ | rfl
        · exact .inl ⟨k', hk', hname'.trans hname, hrecord'.trans hrecord⟩
        · rw [hname, hrecord] at *
          exact .inr (.inl ⟨List.mem_cons_self, hown⟩)
        · rw [hname, hrecord]
          exact .inr (.inr List.mem_cons_self)
      · exact .inr (.inl ⟨List.mem_cons_of_mem _ hcreate, hname⟩)
      · exact .inr (.inr (List.mem_cons_of_mem _ hupdate))

end Inventory

end Metastore

namespace Metastore.Memory

variable {m : Memory} {name : String}

/-! ### Lookups in a metastore where everything is filed -/

theorem Filed.getDatabase_ok_iff (hm : m.Filed) (name : String) (e : DatabaseRecord) :
    m.getDatabase name = .ok e ↔ ∃ h ∈ m.inventory, h.name = name ∧ h.record = e := by
  unfold getDatabase
  cases hd : m.databases.get? name with
  | none =>
      have hnone : ¬∃ h ∈ m.inventory, h.name = name ∧ h.record = e := by
        rintro ⟨h, hh, hname, -⟩
        exact not_mem_inventory hd h hh hname
      refine iff_of_false ?_ hnone
      rw [database_of_get?_none hd]
      cases checkName "Database" name <;> exact nofun
  | some d =>
      rw [checkName_of_good "Database" (hm.space name d hd), database_of_get? hd]
      constructor
      · intro h
        cases h
        exact ⟨d.holding name, mem_inventory.2 ⟨d, hd, rfl⟩, rfl, rfl⟩
      · rintro ⟨h, hh, hname, rfl⟩
        rw [holding_of_mem hd hh hname]
        rfl

theorem Filed.getTable_ok_iff (hm : m.Filed) {h : Holding} (hh : h ∈ m.inventory) (t : String)
    (r : TableRecord) : m.getTable h.name t = .ok r ↔ r ∈ h.tables ∧ r.name = t := by
  obtain ⟨d, hd, hholding⟩ := mem_inventory.1 hh
  have htables : h.tables = d.tables.values := by rw [hholding]; rfl
  have hmem : r ∈ h.tables ∧ r.name = t ↔ d.tables.get? t = some r := by
    rw [htables]
    constructor
    · rintro ⟨hr, rfl⟩
      obtain ⟨⟨a, r⟩, he, rfl⟩ := List.mem_map.1 hr
      have ha := OrderedMap.mem_entries_iff.1 he
      rw [(hm.table h.name d a r hd ha).1]
      exact ha
    · intro ht
      exact ⟨List.mem_map_of_mem (OrderedMap.mem_entries_iff.2 ht), (hm.table _ d t r hd ht).1⟩
  rw [hmem]
  unfold getTable
  rw [database_of_get? hd]
  cases ht : d.tables.get? t with
  | none =>
      refine iff_of_false ?_ (by simp)
      cases checkName "Table" t <;> simp [bind, Except.bind, ht, throw, throwThe, MonadExceptOf.throw]
  | some r' =>
      rw [checkName_of_good "Table" (hm.table h.name d t r' hd ht).2.2]
      simp [bind, Except.bind, pure, Except.pure, ht]

theorem Filed.table_of_mem (hm : m.Filed) {h : Holding} (hh : h ∈ m.inventory) {r : TableRecord}
    (hr : r ∈ h.tables) : r.databaseName = some h.name ∧ GoodName r.name := by
  obtain ⟨d, hd, hholding⟩ := mem_inventory.1 hh
  rw [hholding] at hr
  obtain ⟨⟨t, r⟩, he, rfl⟩ := List.mem_map.1 hr
  obtain ⟨hname, howner, hgood⟩ := hm.table h.name d t r hd (OrderedMap.mem_entries_iff.1 he)
  exact ⟨howner, hname ▸ hgood⟩

/-- A database that is not found is not there. -/
theorem Filed.get?_eq_none (hm : m.Filed) {f : Failure} (h : m.getDatabase name = .error f) :
    m.databases.get? name = none := by
  cases hd : m.databases.get? name with
  | none => rfl
  | some d =>
      have hfound : m.getDatabase name = .ok d.record :=
        (hm.getDatabase_ok_iff name d.record).2
          ⟨d.holding name, mem_inventory.2 ⟨d, hd, rfl⟩, rfl, rfl⟩
      rw [h] at hfound
      cases hfound

/-! ### What is filed under its own name -/

/-- The databases are filed under their own names. -/
def SpacesFiled (m : Memory) : Prop :=
  Filing DatabaseRecord.name m.pageSize (fun name => (m.respond (.getDatabase name)).1)
    fun token => (m.respond (.getDatabases token)).1

/-- The tables are filed under their own names, and in the databases that they name. -/
structure TablesFiled (m : Memory) : Prop where
  /-- Of a database that is found. -/
  filing : ∀ space d, (m.respond (.getDatabase space)).1 = .ok d →
    Filing TableRecord.name m.pageSize (fun t => (m.respond (.getTable space t)).1)
      fun token => (m.respond (.getTables space token)).1
  /-- A table that is found names its database. -/
  owned : ∀ space t r, (m.respond (.getTable space t)).1 = .ok r → r.databaseName = some space
  /-- A database that is not found has no tables. -/
  absent : ∀ space f, (m.respond (.getDatabase space)).1 = .error f →
    (∀ t, ∃ f, (m.respond (.getTable space t)).1 = .error f) ∧
      ∀ token, ∃ f, (m.respond (.getTables space token)).1 = .error f

/-- **The tables** are filed whenever everything is. -/
theorem Filed.tablesFiled (hm : m.Filed) (hsize : 0 < m.pageSize) : m.TablesFiled where
  filing := by
    intro space d hspace
    obtain ⟨h, hh, rfl, -⟩ := (hm.getDatabase_ok_iff space d).1 hspace
    have hfound := hm.getTable_ok_iff hh
    obtain ⟨d, hd, hholding⟩ := mem_inventory.1 hh
    constructor
    · intro t r hr
      obtain ⟨hmem, hname⟩ := (hfound t r).1 hr
      exact ⟨hname, hname ▸ (hm.table_of_mem hh hmem).2⟩
    · refine ⟨h.tables, ?_, ?_, ?_, fun t r hr => ((hfound t r).1 hr).1⟩
      · have hpaged := paged_page h.tables hsize
        rw [← funext (getTables_eq hh)] at hpaged
        exact hpaged
      · rw [hholding]
        exact hm.nodup_tables hd
      · intro t
        constructor
        · intro ht
          obtain ⟨r, hr, hname⟩ := List.mem_map.1 ht
          exact ⟨r, (hfound t r).2 ⟨hr, hname⟩⟩
        · rintro ⟨r, hr⟩
          obtain ⟨hmem, hname⟩ := (hfound t r).1 hr
          exact List.mem_map.2 ⟨r, hmem, hname⟩
  owned := by
    intro space t r hr
    cases hd : m.databases.get? space with
    | none =>
        have hfail : m.getTable space t = .ok r := hr
        unfold getTable at hfail
        rw [database_of_get?_none hd] at hfail
        cases hcheck : checkName "Table" t <;> rw [hcheck] at hfail <;> cases hfail
    | some d =>
        have hh : d.holding space ∈ m.inventory := mem_inventory.2 ⟨d, hd, rfl⟩
        exact (hm.table_of_mem hh ((hm.getTable_ok_iff hh t r).1 hr).1).1
  absent := by
    intro space f hspace
    have hd := hm.get?_eq_none hspace
    constructor
    · intro t
      show ∃ f, m.getTable space t = .error f
      unfold getTable
      rw [database_of_get?_none hd]
      cases checkName "Table" t with
      | error f => exact ⟨f, rfl⟩
      | ok _ => exact ⟨databaseNotFound space, rfl⟩
    · intro token
      show ∃ f, m.getTables space token = .error f
      unfold getTables
      rw [database_of_get?_none hd]
      exact ⟨databaseNotFound space, rfl⟩

/-- **The databases** are filed when every record has the name of its database. -/
theorem Filed.spacesFiled_iff (hm : m.Filed) (hsize : 0 < m.pageSize) :
    m.SpacesFiled ↔ m.inventory.Named := by
  have hfound := hm.getDatabase_ok_iff
  constructor
  · intro hspaces h hh
    exact (hspaces.named h.name h.record ((hfound _ _).2 ⟨h, hh, rfl, rfl⟩)).1
  · intro hnamed
    have hnames : (m.inventory.map (·.record)).map (·.name) = m.inventory.map (·.name) := by
      rw [List.map_map]
      exact List.map_congr_left hnamed
    constructor
    · intro name e he
      obtain ⟨h, hh, rfl, rfl⟩ := (hfound name e).1 he
      obtain ⟨d, hd, -⟩ := mem_inventory.1 hh
      exact ⟨hnamed h hh, hm.space h.name d hd⟩
    · refine ⟨m.inventory.map (·.record), ?_, ?_, ?_, ?_⟩
      · have hpaged := paged_page (m.inventory.map (·.record)) hsize
        rw [← funext (getDatabases_eq m)] at hpaged
        exact hpaged
      · rw [hnames]
        exact m.nodup_inventory
      · intro name
        rw [hnames]
        constructor
        · intro hname
          obtain ⟨h, hh, rfl⟩ := List.mem_map.1 hname
          exact ⟨h.record, (hfound _ _).2 ⟨h, hh, rfl, rfl⟩⟩
        · rintro ⟨e, he⟩
          obtain ⟨h, hh, rfl, -⟩ := (hfound name e).1 he
          exact List.mem_map_of_mem hh
      · intro name e he
        obtain ⟨h, hh, -, rfl⟩ := (hfound name e).1 he
        exact List.mem_map_of_mem hh

/-- The record of a database that is there can be replaced. -/
theorem Filed.updateDatabase_ok (hm : m.Filed) {h : Holding} (hh : h ∈ m.inventory)
    (record : DatabaseRecord) : (m.respond (.updateDatabase h.name record)).1 = .ok () := by
  obtain ⟨d, hd, -⟩ := mem_inventory.1 hh
  show (m.changed (m.updateDatabase h.name record)).1 = .ok ()
  unfold Memory.updateDatabase
  rw [checkName_of_good "Database" (hm.space h.name d hd), database_of_get? hd]
  rfl

/-- **One more call** leaves the databases filed, unless it puts a record of another name in the
place of one. -/
theorem Filed.spacesFiled_respond_iff (hm : m.Filed) (hsize : 0 < m.pageSize)
    (hspaces : m.SpacesFiled) (c : Call) : (m.respond c).2.SpacesFiled ↔
      ∀ name record, c = .updateDatabase name record →
        (m.respond (.updateDatabase name record)).1 = .ok () → record.name = name := by
  have hnamed := (hm.spacesFiled_iff hsize).1 hspaces
  obtain ⟨hinventory, hfiled⟩ := keeps_respond hm c
  rw [hfiled.spacesFiled_iff (by rw [pageSize_respond]; exact hsize), hinventory]
  constructor
  · rintro hafter name record rfl hok
    obtain ⟨d, hd, -⟩ := Memory.updateDatabase_ok (eq_of_changed_ok (Prod.ext hok rfl))
    have hset : (d.holding name).setRecord name record ∈ m.inventory.step
        (.updateDatabase name record) :=
      List.mem_map_of_mem (mem_inventory.2 ⟨d, hd, rfl⟩)
    have hheld : (d.holding name).setRecord name record = { d.holding name with record } :=
      if_pos rfl
    rw [hheld] at hset
    exact hafter _ hset
  · intro hupdate h hh
    rcases Inventory.mem_step hh with ⟨k, hk, hname, hrecord⟩ | ⟨-, hown⟩ | rfl
    · rw [← hname, ← hrecord]
      exact hnamed k hk
    · exact hown
    · -- The database was there, or there would be no holding with the new record.
      obtain ⟨k, hk, hset⟩ := List.mem_map.1 hh
      have hname : k.name = h.name := by
        rw [← hset]
        unfold Holding.setRecord
        split <;> rfl
      have hok := hm.updateDatabase_ok hk h.record
      rw [hname] at hok
      exact hupdate h.name h.record rfl hok

/-- What holds of a metastore after a run of calls: the tables are filed, and the databases are
unless an update has given one a record of another name. -/
structure FiledBut (calls : List Call) (m : Memory) : Prop where
  tables : m.TablesFiled
  /-- A database is found under a name exactly when the calls leave one of the name, with the
  record that they leave it. -/
  found : ∀ name e, (m.respond (.getDatabase name)).1 = .ok e ↔
    ∃ h ∈ Inventory.after [] calls, h.name = name ∧ h.record = e
  /-- The databases have different names to be found under, which are good ones. -/
  keys : ((Inventory.after [] calls).map (·.name)).Nodup ∧
    ∀ h ∈ Inventory.after [] calls, GoodName h.name
  /-- They are filed when these are the names in their records. -/
  spaces_iff : m.SpacesFiled ↔ (Inventory.after [] calls).Named
  /-- A record of another name comes from an update. -/
  updated : ∀ h ∈ Inventory.after [] calls, h.record.name ≠ h.name →
    .updateDatabase h.name h.record ∈ calls
  /-- One more call takes the databases out of step exactly when it is such an update. -/
  spaces_step : m.SpacesFiled → ∀ c, (m.respond c).2.SpacesFiled ↔
    ∀ name record, c = .updateDatabase name record →
      (m.respond (.updateDatabase name record)).1 = .ok () → record.name = name
  /-- A call that fails changes nothing. -/
  refused : ∀ c f, (m.respond c).1 = .error f → (m.respond c).2 = m

/-- **Keys and records are in step but for renaming updates.**  After any run of calls to a
metastore with pages of any size, tables stand under their own names, listings and lookups agree
on them, and the same is true of the databases as long as no update has brought a record of
another name. -/
theorem filed_but_updated (pageSize : Nat) (calls : List Call) :
    FiledBut calls ((withPageSize pageSize).afterCalls calls) := by
  obtain ⟨hinventory, hfiled⟩ := inventory_afterCalls (filed_withPageSize pageSize) calls
  have hsize : 0 < ((withPageSize pageSize).afterCalls calls).pageSize := by
    rw [pageSize_afterCalls]
    show 0 < max pageSize 1
    omega
  have hg : ((withPageSize pageSize).afterCalls calls).inventory = Inventory.after [] calls :=
    hinventory
  generalize (withPageSize pageSize).afterCalls calls = m at hg hfiled hsize ⊢
  refine ⟨hfiled.tablesFiled hsize, ?_, ⟨?_, ?_⟩, ?_, ?_, ?_, ?_⟩
  · rw [← hg]
    exact hfiled.getDatabase_ok_iff
  · rw [← hg]
    exact m.nodup_inventory
  · rw [← hg]
    intro h hh
    obtain ⟨d, hd, -⟩ := mem_inventory.1 hh
    exact hfiled.space h.name d hd
  · rw [← hg]
    exact hfiled.spacesFiled_iff hsize
  · intro h hh hname
    rcases Inventory.mem_after hh with ⟨k, hk, -⟩ | ⟨-, hown⟩ | hupdate
    · cases hk
    · exact absurd hown hname
    · exact hupdate
  · exact hfiled.spacesFiled_respond_iff hsize
  · intro c f hf
    exact respond_error (Prod.ext hf rfl)

/-- A database `a` whose record is replaced by one for `b`. -/
def renamingCalls : List Call :=
  [.createDatabase { name := "a" }, .updateDatabase "a" { name := "b" }]

/-- **An update puts the record of `b` under `a`.**  It is found under the name `a` and listed
under the name `b`, under which nothing is found. -/
theorem updateDatabase_misfiles :
    (((withPageSize 100).afterCalls renamingCalls).respond (.getDatabase "a")).1
        = .ok { name := "b" } ∧
      (((withPageSize 100).afterCalls renamingCalls).respond (.getDatabases none)).1
        = .ok { items := [{ name := "b" }], next := none } ∧
      (((withPageSize 100).afterCalls renamingCalls).respond (.getDatabase "b")).1
        = .error (databaseNotFound "b") ∧
      ¬((withPageSize 100).afterCalls renamingCalls).SpacesFiled := by
  refine ⟨rfl, rfl, rfl, ?_⟩
  intro hspaces
  exact absurd (hspaces.named "a" { name := "b" } rfl).1 (by decide)

end Metastore.Memory

end LakeCatalog
