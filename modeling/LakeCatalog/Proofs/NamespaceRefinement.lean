import LakeCatalog.Proofs.MemoryRegistry
import LakeCatalog.Proofs.SoundSites

/-!
# Namespaces of a catalog, and of a registry

What is done with a namespace at a site has the outcome and the effect that the registry in its
metastore says.

* `Site.Matches` — an outcome at a site is the one of a registry;
* `createNamespace_matches`, `updateNamespace_matches`, `dropNamespace_matches` — the operations.
-/

namespace LakeCatalog

open Metastore (Call Failure Memory DatabaseState)

namespace Site

variable {s s' : Site} {c : Catalog} {n : TableName} {α : Type}

/-- What is done at a site has the outcome and the effect that a registry says; an error leaves
the whole metastore as it was. -/
def Matches (s : Site) (expected : Except CatalogError (Registry × α))
    (actual : Option (Except CatalogError α) × Site) : Prop :=
  match expected with
  | .ok (g, x) => actual.1 = some (.ok x) ∧ actual.2.metastore.registry = g
  | .error e => actual.1 = some (.error e) ∧ actual.2.metastore = s.metastore

/-- A change that the registry agrees with. -/
theorem matches_settle {expected : Except CatalogError Registry}
    {result : Metastore.Outcome Memory} {onError : Failure → CatalogError}
    (h : Memory.Agrees expected result onError) :
    s.Matches (expected.map (·, ())) (s.settle result onError) := by
  cases expected with
  | ok g =>
      obtain ⟨m, rfl, hg⟩ := h
      exact ⟨rfl, hg⟩
  | error e =>
      obtain ⟨f, rfl, rfl⟩ := h
      exact ⟨rfl, rfl⟩

/-! ### Namespaces -/

theorem createNamespace_matches (s : Site) (n : NamespaceName) (properties : Properties) :
    s.Matches ((s.metastore.registry.createNamespace n properties).map (·, ()))
      ((Catalog.createNamespace n properties).perform answer s) := by
  rw [perform_createNamespace]
  exact matches_settle (Memory.createDatabase_agrees s.metastore n properties)

/-- A namespace that is there is found; its name is not too long. -/
theorem Sound.getDatabase_ok (hs : s.Sound) {n : NamespaceName} {d : DatabaseState}
    (hd : s.metastore.databases.get? n.text = some d) :
    s.metastore.getDatabase n.text = .ok d.record := by
  unfold Memory.getDatabase
  rw [Memory.checkName_of_short n.isSegment (hs.spaces _ d hd), Memory.database_of_get? hd]
  rfl

theorem getDatabase_error {n : NamespaceName} (hd : s.metastore.databases.get? n.text = none)
    (operation : String) : ∃ f, s.metastore.getDatabase n.text = .error f ∧
      Catalog.namespaceFailure n.text operation f = .noSuchNamespace n.text := by
  unfold Memory.getDatabase
  by_cases hshort : Registry.Short n.text
  · rw [Memory.checkName_of_short n.isSegment hshort, Memory.database_of_get?_none hd]
    exact ⟨_, rfl, rfl⟩
  · rw [Memory.checkName_of_long n.isSegment hshort]
    exact ⟨_, rfl, rfl⟩

theorem updateNamespace_matches (hs : s.Sound) (n : NamespaceName) (removals : KeySet)
    (updates : Properties) :
    ∃ expected, s.metastore.registry.Updates n removals updates expected ∧
      s.Matches expected ((Catalog.updateNamespace n removals updates).perform answer s) := by
  by_cases hshared : ∃ k ∈ removals.keys, k ∈ updates.keys
  · obtain ⟨k, hboth⟩ := hshared
    have hoverlap := List.ne_nil_of_mem ((Catalog.mem_overlap_iff k).2 hboth)
    refine ⟨_, .ambiguous ⟨k, hboth⟩ (Catalog.overlap_sorted removals updates)
      Catalog.mem_overlap_iff, ?_⟩
    rw [perform_updateNamespace_overlap hoverlap]
    exact ⟨rfl, rfl⟩
  · have hapart : ∀ k ∈ removals.keys, k ∉ updates.keys :=
      fun k hremoved hset => hshared ⟨k, hremoved, hset⟩
    have hoverlap := Catalog.overlap_eq_nil_iff.2 hapart
    have hshelf := Memory.get?_registry s.metastore n.text
    cases hd : s.metastore.databases.get? n.text with
    | none =>
        rw [hd] at hshelf
        obtain ⟨f, hget, hf⟩ := getDatabase_error hd "get_database"
        refine ⟨_, .missing hapart hshelf, ?_⟩
        rw [perform_updateNamespace_error hoverlap hget, hf]
        exact ⟨rfl, rfl⟩
    | some d =>
        rw [hd] at hshelf
        have hupdate : s.metastore.updateDatabase n.text (.ofProperties n.text
            (Catalog.applyUpdate removals updates d.record.properties))
            = .ok (s.metastore.setDatabase n.text ⟨.ofProperties n.text
                (Catalog.applyUpdate removals updates d.record.properties), d.tables⟩) := by
          unfold Memory.updateDatabase
          rw [Memory.checkName_of_short n.isSegment (hs.spaces _ d hd), Memory.database_of_get? hd]
          rfl
        refine ⟨_, .updated hapart hshelf
          (Catalog.get?_applyUpdate removals updates d.record.properties)
          (Catalog.summarize_accounts removals updates d.record.properties), ?_⟩
        rw [perform_updateNamespace_ok hoverlap (hs.getDatabase_ok hd), hupdate]
        refine ⟨rfl, ?_⟩
        rw [Memory.registry_setDatabase]
        unfold DatabaseState.shelf
        simp only [DatabaseRecord.properties_ofProperties]

/-! ### Dropping a namespace -/

theorem getTables_none {n : NamespaceName} (hd : s.metastore.databases.get? n.text = none) :
    s.metastore.getTables n.text none = .error (Memory.databaseNotFound n.text) := by
  unfold Memory.getTables
  rw [Memory.database_of_get?_none hd]
  rfl

theorem getTables_some {n : NamespaceName} {d : DatabaseState}
    (hd : s.metastore.databases.get? n.text = some d) :
    s.metastore.getTables n.text none
      = .ok (Memory.pageAt d.tables.values s.metastore.pageSize 0) := by
  unfold Memory.getTables
  rw [Memory.database_of_get? hd]
  rfl

/-- The first page of a namespace with tables begins with the first record. -/
theorem getTables_held (hpages : 0 < s.metastore.pageSize) {n : NamespaceName} {d : DatabaseState}
    {name : String} {r : TableRecord} {rest : List (String × TableRecord)}
    (hd : s.metastore.databases.get? n.text = some d)
    (hentries : d.tables.entries = (name, r) :: rest) :
    ∃ rest' token, s.metastore.getTables n.text none = .ok ⟨r :: rest', token⟩ := by
  obtain ⟨size, hsize⟩ : ∃ size, s.metastore.pageSize = size + 1 :=
    ⟨s.metastore.pageSize - 1, by omega⟩
  have hitems : (Memory.pageAt d.tables.values s.metastore.pageSize 0).items
      = r :: (rest.map (·.2)).take size := by
    unfold Memory.pageAt OrderedMap.values
    rw [hentries, hsize]
    rfl
  refine ⟨(rest.map (·.2)).take size, (Memory.pageAt d.tables.values s.metastore.pageSize 0).next, ?_⟩
  rw [getTables_some hd, ← hitems]

/-- A page of no records. -/
theorem pageAt_nil {α : Type} (size : Nat) : Memory.pageAt ([] : List α) size 0 = ⟨[], none⟩ := by
  unfold Memory.pageAt
  simp

/-- **A walk for a first table** begins by asking for a page, and has its result when there is a
record on the page or no further page. -/
theorem firstTable_asks (hbudget : 0 < c.pageBudget) (n : NamespaceName) :
    ∃ next, c.walkTables n Listing.firstConsumer ()
        = .ask (.metastore (.getTables n.text none)) next ∧
      (∀ f, next (.error f)
        = .done (some (.error (Catalog.namespaceFailure n.text "get_tables" f)))) ∧
      (∀ r rest token, next (.ok ⟨r :: rest, token⟩)
        = .done (some ((TableName.ofParts n.text r.name).mapError .invalidIdentifier))) ∧
      next (.ok ⟨[], none⟩) = .done none := by
  obtain ⟨budget, hb⟩ : ∃ budget, c.pageBudget = budget + 1 := ⟨c.pageBudget - 1, by omega⟩
  unfold Catalog.walkTables
  rw [hb]
  refine ⟨_, rfl, fun f => rfl, ?_, ?_⟩
  · intro r rest token
    have hfeed : Listing.feed (Listing.firstConsumer.comap (Catalog.listedTable n)) () (r :: rest)
        = .enough (some ((TableName.ofParts n.text r.name).mapError .invalidIdentifier)) := rfl
    show (match Listing.feed (Listing.firstConsumer.comap (Catalog.listedTable n)) () (r :: rest) with
      | .enough first => Program.done first
      | .more s => Listing.walk (Catalog.fetchTables n)
          (Listing.firstConsumer.comap (Catalog.listedTable n)) budget s
          (Listing.Cursor.after token)) = _
    rw [hfeed]
  · cases budget <;> rfl

section FirstTable

variable {n : NamespaceName}

/-- A walk for a first table is decided by the answer to its first question. -/
theorem run_firstTable {next : Metastore.Outcome (Page TableRecord) →
      Program Backend (Option (Except CatalogError TableName))}
    {first : Option (Except CatalogError TableName)}
    (hask : c.walkTables n Listing.firstConsumer ()
      = .ask (.metastore (.getTables n.text none)) next)
    (hnext : next (s.metastore.getTables n.text none) = .done first) :
    (c.walkTables n Listing.firstConsumer ()).run answer s = (some first, s) := by
  rw [hask]
  show (next (s.metastore.getTables n.text none)).run answer s = _
  rw [hnext]
  rfl

theorem run_firstTable_missing (hbudget : 0 < c.pageBudget)
    (hd : s.metastore.databases.get? n.text = none) :
    (c.walkTables n Listing.firstConsumer ()).run answer s
      = (some (some (.error (.noSuchNamespace n.text))), s) := by
  obtain ⟨next, hask, herror, -, -⟩ := firstTable_asks hbudget n
  refine run_firstTable hask ?_
  rw [getTables_none hd, herror]
  rfl

theorem run_firstTable_empty (hbudget : 0 < c.pageBudget) {d : DatabaseState}
    (hd : s.metastore.databases.get? n.text = some d) (hempty : d.tables.entries = []) :
    (c.walkTables n Listing.firstConsumer ()).run answer s = (some none, s) := by
  have hvalues : d.tables.values = [] := List.map_eq_nil_iff.2 hempty
  obtain ⟨next, hask, -, -, hlast⟩ := firstTable_asks hbudget n
  refine run_firstTable hask ?_
  rw [getTables_some hd, hvalues, pageAt_nil, hlast]

/-- The first result of the listing of a namespace is the name of its first record, or what is
wrong with this name. -/
theorem run_firstTable_first (hpages : 0 < s.metastore.pageSize) (hbudget : 0 < c.pageBudget)
    {d : DatabaseState} {name : String} {r : TableRecord} {rest : List (String × TableRecord)}
    (hd : s.metastore.databases.get? n.text = some d)
    (hentries : d.tables.entries = (name, r) :: rest) :
    (c.walkTables n Listing.firstConsumer ()).run answer s
      = (some (some ((TableName.ofParts n.text r.name).mapError .invalidIdentifier)), s) := by
  obtain ⟨rest', token, hpage⟩ := getTables_held hpages hd hentries
  obtain ⟨next, hask, -, hlisted, -⟩ := firstTable_asks hbudget n
  refine run_firstTable hask ?_
  rw [hpage, hlisted]

/-- At a sound site the first table of a namespace is listed under its own name. -/
theorem run_firstTable_found (hs : s.Sound) (hbudget : 0 < c.pageBudget) {d : DatabaseState}
    (hd : s.metastore.databases.get? n.text = some d) (hheld : d.tables.entries ≠ []) :
    ∃ t, (c.walkTables n Listing.firstConsumer ()).run answer s = (some (some (.ok t)), s) := by
  obtain ⟨⟨name, r⟩, rest, hentries⟩ := List.exists_cons_of_ne_nil hheld
  have hr : d.tables.get? name = some r := by
    unfold OrderedMap.get?
    rw [hentries]
    unfold Entries.lookup
    simp
  have hsegment : IsSegment r.name := by
    have hsound := hs.tables _ d name r hd hr
    rw [hsound.name_eq]
    exact hsound.segment
  have hname : TableName.ofParts n.text r.name = .ok ⟨n, r.name, hsegment⟩ :=
    TableName.ofSegments_pair ⟨n, r.name, hsegment⟩
  have hfirst := run_firstTable_first hs.pages hbudget hd hentries
  rw [hname] at hfirst
  exact ⟨⟨n, r.name, hsegment⟩, hfirst⟩

end FirstTable

theorem dropNamespace_matches (hs : s.Sound) (hbudget : 0 < c.pageBudget) (n : NamespaceName) :
    s.Matches ((s.metastore.registry.dropNamespace n).map (·, ()))
      ((c.dropNamespace n).perform answer s) := by
  unfold Registry.dropNamespace
  rw [Memory.get?_registry]
  cases hd : s.metastore.databases.get? n.text with
  | none =>
      rw [perform_dropNamespace (run_firstTable_missing hbudget hd)]
      exact ⟨rfl, rfl⟩
  | some d =>
      have hentries : d.shelf.tables.entries = [] ↔ d.tables.entries = [] := List.map_eq_nil_iff
      simp only [Option.map_some]
      by_cases hheld : d.tables.entries = []
      · rw [if_neg (not_not_intro (hentries.2 hheld)),
          perform_dropNamespace (run_firstTable_empty hbudget hd hheld)]
        have hdelete : s.metastore.deleteDatabase n.text
            = .ok { s.metastore with databases := s.metastore.databases.erase n.text } := by
          unfold Memory.deleteDatabase
          rw [Memory.database_of_get? hd]
          rfl
        have hagrees : Memory.Agrees (.ok (s.metastore.registry.erase n.text))
            (s.metastore.deleteDatabase n.text)
            (Catalog.namespaceFailure n.text "delete_database") :=
          ⟨_, hdelete, OrderedMap.mapValues_erase _ _ _⟩
        exact matches_settle hagrees
      · obtain ⟨t, hrun⟩ := run_firstTable_found hs hbudget hd hheld
        rw [if_pos (mt hentries.1 hheld), perform_dropNamespace hrun]
        exact ⟨rfl, rfl⟩

end Site

end LakeCatalog
