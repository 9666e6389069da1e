import LakeCatalog.Proofs.CreateFrame
import LakeCatalog.Proofs.NamespaceRefinement
import LakeCatalog.Proofs.Paging

/-!
# Listing the tables of a namespace, and dropping it

A metastore takes table names with dots in them, a catalog does not.  A listing stops with an error
at the first such name, and a namespace that begins with one is not found empty, but is not said to
be held either.

* `listedName` — what a listing makes of a table;
* `TablesSeen` — what a listing and a drop of a namespace see of its tables;
* `tables_seen_until_dot` — after any run of calls to the metastore;
* `dotted_table_unseen` — a namespace of one table that is neither listed nor said to be held.
-/

namespace LakeCatalog

open Metastore (Call DatabaseState Failure GoodName Holding Inventory Memory)

/-! ### Names with dots -/

/-- What a listing makes of a table: its name, or what is wrong with it. -/
def NamespaceName.listedName (n : NamespaceName) (table : String) :
    Except CatalogError TableName :=
  (TableName.ofParts n.text table).mapError .invalidIdentifier

/-- The error for a table with a dot in its name. -/
def NamespaceName.dottedTable (n : NamespaceName) (table : String) : CatalogError :=
  .invalidIdentifier ⟨dotted [n.text, table], .hierarchical⟩

namespace NamespaceName

variable (n : NamespaceName) {table : String}

theorem listedName_of_segment (h : IsSegment table) : n.listedName table = .ok ⟨n, table, h⟩ := by
  have hname : TableName.ofParts n.text table = .ok ⟨n, table, h⟩ :=
    TableName.ofSegments_pair ⟨n, table, h⟩
  unfold listedName
  rw [hname]
  rfl

theorem listedName_of_dot (hne : table ≠ "") (hdot : '.' ∈ table.toList) :
    n.listedName table = .error (n.dottedTable table) := by
  have hnot : ¬(IsSegment n.text ∧ IsSegment table) := fun hboth => hboth.2.2 hdot
  have hfull : ¬(n.text = "" ∨ table = "") := by
    rintro (hempty | hempty)
    · exact n.isSegment.1 hempty
    · exact hne hempty
  unfold listedName TableName.ofParts TableName.ofSegments
  simp only [dif_neg hnot, if_neg hfull]
  rfl

/-- Names without dots are all listed. -/
theorem exists_names {tables : List TableRecord} (h : ∀ r ∈ tables, IsSegment r.name) :
    ∃ names : List TableName, tables.map (fun r => n.listedName r.name) = names.map .ok ∧
      names.map (·.table) = tables.map (·.name) ∧ ∀ k ∈ names, k.space = n := by
  induction tables with
  | nil => exact ⟨[], rfl, rfl, fun k hk => nomatch hk⟩
  | cons r tables ih =>
      rw [List.forall_mem_cons] at h
      obtain ⟨names, hlisted, hnames, hspace⟩ := ih h.2
      refine ⟨⟨n, r.name, h.1⟩ :: names, ?_, ?_, ?_⟩
      · rw [List.map_cons, List.map_cons, hlisted, n.listedName_of_segment h.1]
      · rw [List.map_cons, List.map_cons, hnames]
      · rw [List.forall_mem_cons]
        exact ⟨rfl, hspace⟩

end NamespaceName

/-- The first error of some results is all that is left of them. -/
theorem mapM_id_error {ε α : Type} (xs : List α) (e : ε) (rs : List (Except ε α)) :
    (xs.map Except.ok ++ Except.error e :: rs).mapM id = (.error e : Except ε (List α)) := by
  induction xs with
  | nil => rfl
  | cons x xs ih =>
      rw [List.map_cons, List.cons_append, List.mapM_cons, ih]
      rfl

namespace Site

variable {s : Site} {c : Catalog} {n : NamespaceName} {h : Holding}

/-! ### Listing -/

/-- What a request for a page of tables comes to. -/
def tablesPage (s : Site) (n : NamespaceName) (token : Option String) :
    Except CatalogError (Page TableRecord) :=
  (s.metastore.getTables n.text token).mapError (Catalog.namespaceFailure n.text "get_tables")

/-- **A listing of a namespace** makes a name of each table, or stops at the first that has none. -/
theorem perform_listTables (hsize : 0 < s.metastore.pageSize) (hh : h ∈ s.metastore.inventory)
    (hname : h.name = n.text) (hbound : h.tables.length < Memory.tokenBound)
    (hbudget : Memory.pageCount h.tables.length s.metastore.pageSize ≤ c.pageBudget) :
    (c.listTables n).perform answer s
      = (some ((h.tables.map fun r => n.listedName r.name).mapM id), s) := by
  obtain ⟨pages, hchain, hitems, hcount⟩ := (Memory.paged_page h.tables hsize).covers hbound
  have hreply : Listing.PagesFrom (s.tablesPage n) none pages := by
    refine hchain.imp ?_
    intro token page hpage
    unfold tablesPage
    rw [← hname, Memory.getTables_eq hh, hpage]
    rfl
  have hlisted : (h.tables.map Except.ok).filterMap (Catalog.listedTable n)
      = h.tables.map fun r => n.listedName r.name := by
    rw [List.filterMap_map]
    exact congrFun List.filterMap_eq_map h.tables
  have hwalk := Listing.run_walk_of_pages (c := Listing.collectConsumer.comap
    (Catalog.listedTable n)) (fun token => run_fetchTables n token s) hreply []
    (hcount ▸ hbudget)
  rw [Listing.answer_comap, hitems, hlisted, Listing.collectConsumer_answer_nil] at hwalk
  exact hwalk

theorem perform_listTables_missing (hbudget : 0 < c.pageBudget)
    (hd : s.metastore.databases.get? n.text = none) :
    (c.listTables n).perform answer s = (some (.error (.noSuchNamespace n.text)), s) := by
  obtain ⟨budget, hb⟩ : ∃ budget, c.pageBudget = budget + 1 := ⟨c.pageBudget - 1, by omega⟩
  have hreply : s.tablesPage n none = .error (.noSuchNamespace n.text) := by
    unfold tablesPage
    rw [getTables_none hd]
    rfl
  have hwalk := Listing.run_walk_error (c := Listing.collectConsumer.comap (Catalog.listedTable n))
    (s := []) (run_fetchTables n none s) budget hreply
  rw [Listing.answer_comap] at hwalk
  unfold Catalog.listTables Catalog.walkTables
  rw [hb]
  exact hwalk

/-! ### Dropping -/

theorem perform_dropNamespace_missing (hbudget : 0 < c.pageBudget)
    (hd : s.metastore.databases.get? n.text = none) :
    (c.dropNamespace n).perform answer s = (some (.error (.noSuchNamespace n.text)), s) :=
  perform_dropNamespace (run_firstTable_missing hbudget hd)

/-- A namespace without tables is dropped, and nothing else. -/
theorem perform_dropNamespace_empty (hbudget : 0 < c.pageBudget) (hh : h ∈ s.metastore.inventory)
    (hname : h.name = n.text) (hempty : h.tables = []) :
    (c.dropNamespace n).perform answer s = (some (.ok ()), { s with
      metastore := { s.metastore with databases := s.metastore.databases.erase n.text } }) := by
  obtain ⟨d, hd, hholding⟩ := Memory.mem_inventory.1 hh
  rw [hname] at hd
  have hentries : d.tables.entries = [] := by
    rw [hholding] at hempty
    exact List.map_eq_nil_iff.1 hempty
  have hdelete : s.metastore.deleteDatabase n.text
      = .ok { s.metastore with databases := s.metastore.databases.erase n.text } := by
    unfold Memory.deleteDatabase
    rw [Memory.database_of_get? hd]
    rfl
  rw [perform_dropNamespace (run_firstTable_empty hbudget hd hentries)]
  unfold dropAfter
  simp only [hdelete]
  rfl

/-- A namespace with tables is kept, and its first table decides what is said. -/
theorem perform_dropNamespace_held (hsize : 0 < s.metastore.pageSize) (hbudget : 0 < c.pageBudget)
    (hh : h ∈ s.metastore.inventory) (hname : h.name = n.text) {r : TableRecord}
    {rest : List TableRecord} (htables : h.tables = r :: rest) :
    (c.dropNamespace n).perform answer s = (some (.error (match n.listedName r.name with
      | .ok _ => .namespaceNotEmpty n.text
      | .error e => e)), s) := by
  obtain ⟨d, hd, hholding⟩ := Memory.mem_inventory.1 hh
  rw [hname] at hd
  have hvalues : d.tables.entries.map (·.2) = r :: rest := by
    rw [← htables, hholding]
    rfl
  obtain ⟨⟨a, r'⟩, rest', hentries⟩ : ∃ e rest', d.tables.entries = e :: rest' := by
    refine List.exists_cons_of_ne_nil ?_
    intro hnil
    rw [hnil] at hvalues
    cases hvalues
  rw [hentries, List.map_cons, List.cons.injEq] at hvalues
  have hr : r' = r := hvalues.1
  subst hr
  have hfirst := run_firstTable_first hsize hbudget hd hentries
  rw [perform_dropNamespace hfirst]
  show s.dropAfter n (some (some (n.listedName r'.name))) = _
  cases n.listedName r'.name with
  | ok k => rfl
  | error e => rfl

/-! ### What is seen of the tables -/

/-- What a listing and a drop of a namespace see of the tables of a metastore. -/
structure TablesSeen (c : Catalog) (n : NamespaceName) (s : Site) : Prop where
  /-- A namespace that is not there is neither listed nor dropped. -/
  missing : (∀ h ∈ s.metastore.inventory, h.name ≠ n.text) →
    (c.listTables n).perform answer s = (some (.error (.noSuchNamespace n.text)), s) ∧
    (c.dropNamespace n).perform answer s = (some (.error (.noSuchNamespace n.text)), s)
  /-- Tables without dots in their names are all listed, in order. -/
  listed : ∀ h ∈ s.metastore.inventory, h.name = n.text →
    h.tables.length < Memory.tokenBound →
    Memory.pageCount h.tables.length s.metastore.pageSize ≤ c.pageBudget →
    (∀ r ∈ h.tables, '.' ∉ r.name.toList) →
      ∃ names, (c.listTables n).perform answer s = (some (.ok names), s) ∧
        names.map (·.table) = h.tables.map (·.name) ∧ ∀ k ∈ names, k.space = n
  /-- A listing fails at the first table with a dot in its name. -/
  stopped : ∀ h ∈ s.metastore.inventory, h.name = n.text →
    h.tables.length < Memory.tokenBound →
    Memory.pageCount h.tables.length s.metastore.pageSize ≤ c.pageBudget →
    ∀ before r rest, h.tables = before ++ r :: rest →
      (∀ r' ∈ before, '.' ∉ r'.name.toList) → '.' ∈ r.name.toList →
        (c.listTables n).perform answer s = (some (.error (n.dottedTable r.name)), s)
  /-- A namespace without tables is dropped, and nothing else changes. -/
  dropped : ∀ h ∈ s.metastore.inventory, h.name = n.text → h.tables = [] →
    ∃ m', (c.dropNamespace n).perform answer s = (some (.ok ()), ⟨m', s.objects⟩) ∧
      m'.inventory = s.metastore.inventory.filter (fun h => h.name ≠ n.text) ∧
      m'.pageSize = s.metastore.pageSize
  /-- A namespace with tables stays, and is said to be held unless the name of its first table has
  a dot. -/
  kept : ∀ h ∈ s.metastore.inventory, h.name = n.text → ∀ r rest, h.tables = r :: rest →
    (c.dropNamespace n).perform answer s = (some (.error
      (if '.' ∈ r.name.toList then n.dottedTable r.name else .namespaceNotEmpty n.text)), s)

theorem tablesSeen_of_filed (hm : s.metastore.Filed) (hsize : 0 < s.metastore.pageSize)
    (hbudget : 0 < c.pageBudget) : TablesSeen c n s := by
  have hnonempty : ∀ h ∈ s.metastore.inventory, ∀ r ∈ h.tables, r.name ≠ "" := by
    intro h hh r hr
    obtain ⟨d, hd, hholding⟩ := Memory.mem_inventory.1 hh
    rw [hholding] at hr
    obtain ⟨⟨t, r⟩, he, rfl⟩ := List.mem_map.1 hr
    obtain ⟨hname, -, hgood⟩ := hm.table h.name d t r hd (OrderedMap.mem_entries_iff.1 he)
    rw [hname]
    exact hgood.1
  refine ⟨?_, ?_, ?_, ?_, ?_⟩
  · intro hmissing
    have hd : s.metastore.databases.get? n.text = none := by
      cases hd : s.metastore.databases.get? n.text with
      | none => rfl
      | some d =>
          have hheld : d.holding n.text ∈ s.metastore.inventory :=
            Memory.mem_inventory.2 ⟨d, hd, rfl⟩
          exact absurd rfl (hmissing _ hheld)
    exact ⟨perform_listTables_missing hbudget hd, perform_dropNamespace_missing hbudget hd⟩
  · intro h hh hname hbound hpages hplain
    have hsegments : ∀ r ∈ h.tables, IsSegment r.name :=
      fun r hr => ⟨hnonempty h hh r hr, hplain r hr⟩
    obtain ⟨names, hlisted, hnames, hspace⟩ := n.exists_names hsegments
    refine ⟨names, ?_, hnames, hspace⟩
    rw [perform_listTables hsize hh hname hbound hpages, hlisted, mapM_id_ok]
  · intro h hh hname hbound hpages before r rest htables hplain hdot
    have hbefore : ∀ r' ∈ before, IsSegment r'.name := by
      intro r' hr'
      refine ⟨hnonempty h hh r' ?_, hplain r' hr'⟩
      rw [htables]
      exact List.mem_append_left _ hr'
    have hr : r.name ≠ "" := by
      refine hnonempty h hh r ?_
      rw [htables]
      exact List.mem_append_right _ (List.mem_cons_self ..)
    obtain ⟨names, hlisted, -, -⟩ := n.exists_names hbefore
    rw [perform_listTables hsize hh hname hbound hpages, htables, List.map_append, List.map_cons,
      hlisted, n.listedName_of_dot hr hdot, mapM_id_error]
  · intro h hh hname hempty
    refine ⟨_, perform_dropNamespace_empty hbudget hh hname hempty, ?_, rfl⟩
    exact Memory.inventory_erase s.metastore n.text
  · intro h hh hname r rest htables
    have hr : r.name ≠ "" := by
      refine hnonempty h hh r ?_
      rw [htables]
      exact List.mem_cons_self ..
    rw [perform_dropNamespace_held hsize hbudget hh hname htables]
    by_cases hdot : '.' ∈ r.name.toList
    · rw [if_pos hdot, n.listedName_of_dot hr hdot]
    · rw [if_neg hdot, n.listedName_of_segment ⟨hr, hdot⟩]

/-- **The tables of a namespace are seen up to the first with a dot in its name**, after any run of
calls to a metastore with pages of any size. -/
theorem tables_seen_until_dot (pageSize : Nat) (calls : List Call) (objects : OrderedMap ByteArray)
    {c : Catalog} (hbudget : 0 < c.pageBudget) (n : NamespaceName) :
    TablesSeen c n ⟨(Memory.withPageSize pageSize).afterCalls calls, objects⟩ := by
  have hfiled := (Memory.inventory_afterCalls (Memory.filed_withPageSize pageSize) calls).2
  have hpages : ((Memory.withPageSize pageSize).afterCalls calls).pageSize = max pageSize 1 :=
    Memory.pageSize_afterCalls _ calls
  refine tablesSeen_of_filed hfiled ?_ hbudget
  show 0 < ((Memory.withPageSize pageSize).afterCalls calls).pageSize
  rw [hpages]
  omega

/-! ### A table that is not seen -/

/-- A database, and a table in it that is named like one of another namespace. -/
def dottedCalls : List Call :=
  [.createDatabase { name := "db" }, .createTable "db" { name := "a.b" }]

/-- The namespace holds a table, but neither is the table listed nor is the namespace said to be
held. -/
theorem dotted_table_unseen :
    let s : Site := ⟨(Memory.withPageSize 100).afterCalls dottedCalls, .empty⟩
    let e : CatalogError := .invalidIdentifier ⟨"db.a.b", .hierarchical⟩
    s.metastore.inventory.map (fun h => (h.name, h.tables.map (·.name))) = [("db", ["a.b"])] ∧
      (lake.listTables ⟨"db", isSegment_db⟩).perform answer s = (some (.error e), s) ∧
      (lake.dropNamespace ⟨"db", isSegment_db⟩).perform answer s = (some (.error e), s) :=
  ⟨rfl, rfl, rfl⟩

theorem tables_seen_until_dot_dottedCalls :
    0 < lake.pageBudget ∧ TablesSeen lake ⟨"db", isSegment_db⟩
      ⟨(Memory.withPageSize 100).afterCalls dottedCalls, .empty⟩ :=
  ⟨by decide, tables_seen_until_dot 100 dottedCalls .empty (by decide) ⟨"db", isSegment_db⟩⟩

end Site

end LakeCatalog
