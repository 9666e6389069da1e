import LakeCatalog.Proofs.Filing
import LakeCatalog.Proofs.UpdateEffects

/-!
# Updates of properties

An update of the properties of a namespace reads the properties, takes some out, sets others, and
writes the whole back as a new record.  In the record two properties have places of their own, and
a record that was written by someone else may have them in these places, among its parameters, or
in both.

* `Memory.Rewrites` — what a client sees when the record of one database is replaced;
* `Memory.shown`, `Rewrites.shown_eq` — what a listing of namespaces shows, also afterwards;
* `run_walk_congr` — a walk tells apart only listings with different results;
* `Site.UpdatesExactly`, `Site.updates_exactly` — an update as a whole, at every metastore that a
  run of calls can lead to;
* `Site.updates_change_listing` — records with each other's names, and what updates make of them.
-/

namespace LakeCatalog

open Metastore (Call DatabaseState Failure Holding Memory)

/-! ### The record of one database is replaced -/

namespace Metastore.Memory

variable {m m' : Memory} {name : String} {record : DatabaseRecord}

/-- What a client sees of a metastore in which a database has got another record. -/
structure Rewrites (m : Memory) (name : String) (record : DatabaseRecord) (m' : Memory) : Prop where
  /-- The database has the record, and every other one has its old record. -/
  getDatabase : ∀ a, (m'.respond (.getDatabase a)).1
    = if a = name then .ok record else (m.respond (.getDatabase a)).1
  /-- Every table of every database is found as it was, -/
  getTable : ∀ a t, (m'.respond (.getTable a t)).1 = (m.respond (.getTable a t)).1
  /-- and so is every page of a listing of tables. -/
  getTables : ∀ a token, (m'.respond (.getTables a token)).1 = (m.respond (.getTables a token)).1
  /-- The databases are listed in the same order, with the new record in the place of the old. -/
  getDatabases : ∀ token, (m'.respond (.getDatabases token)).1
    = page (m.inventory.map fun h => if h.name = name then record else h.record) m.pageSize token
  /-- Nothing else is held. -/
  inventory : m'.inventory = m.inventory.map (Holding.setRecord name record)
  pageSize : m'.pageSize = m.pageSize

/-- What is looked up in a database is found as before when it does not depend on its record. -/
theorem database_bind_setRecord {β : Type} {d : DatabaseState}
    (hd : m.databases.get? name = some d) {f : DatabaseState → Outcome β}
    (hf : ∀ d, f { d with record } = f d) (a : String) :
    (do let d ← (m.setDatabase name { d with record }).database a; f d)
      = (do let d ← m.database a; f d) := by
  unfold database
  rw [get?_setDatabase]
  by_cases ha : name = a
  · subst ha
    rw [if_pos rfl, hd]
    exact hf d
  · rw [if_neg ha]

/-- **Replacing the record of a database** that is there succeeds, and a client sees nothing else
that has changed. -/
theorem Filed.exists_updateDatabase (hm : m.Filed) {d : DatabaseState}
    (hd : m.databases.get? name = some d) (record : DatabaseRecord) :
    ∃ m', m.updateDatabase name record = .ok m' ∧ m.Rewrites name record m' := by
  have hgood := hm.space name d hd
  have hupdate : m.updateDatabase name record = .ok (m.setDatabase name { d with record }) := by
    unfold updateDatabase
    rw [checkName_of_good "Database" hgood, database_of_get? hd]
    rfl
  have hinventory : (m.setDatabase name { d with record }).inventory
      = m.inventory.map (Holding.setRecord name record) := by
    have hkeeps := (keeps_updateDatabase hm name record).1
    rw [hupdate] at hkeeps
    exact hkeeps
  refine ⟨_, hupdate, ?_, ?_, ?_, ?_, hinventory, rfl⟩
  · intro a
    show (m.setDatabase name { d with record }).getDatabase a = _
    by_cases ha : a = name
    · subst ha
      rw [if_pos rfl]
      unfold Memory.getDatabase database
      rw [checkName_of_good "Database" hgood, get?_setDatabase, if_pos rfl]
      rfl
    · rw [if_neg ha]
      show _ = m.getDatabase a
      unfold Memory.getDatabase database
      rw [get?_setDatabase, if_neg (Ne.symm ha)]
  · intro a t
    exact congrArg (Except.bind (checkName "Table" t)) (funext fun _ =>
      database_bind_setRecord hd (fun _ => rfl) a)
  · intro a token
    exact database_bind_setRecord hd (fun _ => rfl) a
  · intro token
    have hrecords : (m.inventory.map (Holding.setRecord name record)).map (·.record)
        = m.inventory.map fun h => if h.name = name then record else h.record := by
      rw [List.map_map]
      refine List.map_congr_left fun h _ => ?_
      unfold Function.comp Holding.setRecord
      by_cases hname : h.name = name
      · rw [if_pos hname, if_pos hname]
      · rw [if_neg hname, if_neg hname]
    show (m.setDatabase name { d with record }).getDatabases token = _
    rw [getDatabases_eq, hinventory, hrecords]
    rfl

end Metastore.Memory

/-! ### What is shown of a metastore -/

namespace Metastore.Memory

variable {m m' : Memory} {record : DatabaseRecord} {n : NamespaceName}

/-- What a listing of namespaces shows of each database, in order: the namespace that its record
names, if it names one. -/
def shown (m : Memory) : List (Option NamespaceName) :=
  m.inventory.map fun h => NamespaceName.ofName? h.record.name

/-- A database whose record gets the name of the database is shown under it, in its old place. -/
theorem Rewrites.shown_eq (h : m.Rewrites n.text record m') (hname : record.name = n.text) :
    m'.shown = m.inventory.map fun h =>
      if h.name = n.text then some n else NamespaceName.ofName? h.record.name := by
  have hself : NamespaceName.ofName? record.name = some n := by
    rw [hname, NamespaceName.ofName?_text]
  unfold shown
  rw [h.inventory, List.map_map]
  refine List.map_congr_left fun held _ => ?_
  unfold Function.comp Holding.setRecord
  by_cases hplace : held.name = n.text
  · rw [if_pos hplace, if_pos hplace]
    exact hself
  · rw [if_neg hplace, if_neg hplace]

/-- Nothing else is shown when its old record had this name too. -/
theorem Rewrites.shown_eq_shown (h : m.Rewrites n.text record m') (hname : record.name = n.text)
    (hown : ∀ d, m.databases.get? n.text = some d → d.record.name = n.text) :
    m'.shown = m.shown := by
  rw [h.shown_eq hname]
  refine List.map_congr_left fun held hheld => ?_
  by_cases hplace : held.name = n.text
  · obtain ⟨d, hd, hholding⟩ := mem_inventory.1 hheld
    have hrecord : held.record.name = n.text := by
      rw [hholding]
      exact hown d (hplace ▸ hd)
    rw [if_pos hplace, hrecord, NamespaceName.ofName?_text]
  · rw [if_neg hplace]

end Metastore.Memory

/-! ### Listings with the same results -/

namespace Listing

variable {I : Interface} {ε ε' α β σ ρ τ : Type} {c : Consumer ε α σ ρ}
  {f : Except ε' β → Option (Except ε α)}

/-- What a walk gets to know of a page: the results that its items are turned into, and the token
behind them. -/
def known (f : Except ε' β → Option (Except ε α)) (page : Page β) :
    List (Option (Except ε α)) × Option String :=
  (page.items.map fun a => f (.ok a), page.next)

theorem feed_comap_congr {items items' : List β}
    (h : items.map (fun a => f (.ok a)) = items'.map fun a => f (.ok a)) (s : σ) :
    feed (c.comap f) s items = feed (c.comap f) s items' := by
  induction items generalizing items' s with
  | nil =>
      cases items' with
      | nil => rfl
      | cons a' items' => cases h
  | cons a items ih =>
      cases items' with
      | nil => cases h
      | cons a' items' =>
          obtain ⟨hhead, htail⟩ := List.cons.inj h
          have hstep : (c.comap f).step s (.ok a) = (c.comap f).step s (.ok a') := by
            unfold Consumer.comap
            simp only [hhead]
          unfold feed
          rw [hstep]
          cases (c.comap f).step s (.ok a') with
          | more s' => exact ih htail s'
          | enough answer => rfl

/-- **A walk tells apart only listings with different results**: it ends alike at two states whose
pages it gets to know alike. -/
theorem run_walk_congr {fetch : Option String → Program I (Except ε' (Page β))}
    {h : Handler I τ} {t t' : τ} {reply reply' : Option String → Except ε' (Page β)}
    (hfetch : ∀ token, (fetch token).run h t = (some (reply token), t))
    (hfetch' : ∀ token, (fetch token).run h t' = (some (reply' token), t'))
    (hknown : ∀ token, (reply token).map (known f) = (reply' token).map (known f))
    (budget : Nat) (s : σ) (cursor : Cursor) :
    ((walk fetch (c.comap f) budget s cursor).run h t).1
      = ((walk fetch (c.comap f) budget s cursor).run h t').1 := by
  induction budget generalizing s cursor with
  | zero => cases cursor <;> rfl
  | succ budget ih =>
      cases cursor with
      | finished => rfl
      | before token =>
          have hpage := hknown token
          unfold walk
          rw [Program.run_bind, Program.run_bind, hfetch, hfetch']
          cases hreply : reply token with
          | error e =>
              cases hreply' : reply' token with
              | ok page' =>
                  rw [hreply, hreply'] at hpage
                  cases hpage
              | error e' =>
                  rw [hreply, hreply'] at hpage
                  cases hpage
                  dsimp only
                  cases (c.comap f).step s (.error e) <;> rfl
          | ok page =>
              cases hreply' : reply' token with
              | error e' =>
                  rw [hreply, hreply'] at hpage
                  cases hpage
              | ok page' =>
                  rw [hreply, hreply'] at hpage
                  obtain ⟨hitems, hnext⟩ := Prod.mk.inj (Except.ok.inj hpage)
                  dsimp only
                  rw [feed_comap_congr hitems s, hnext]
                  cases feed (c.comap f) s page'.items with
                  | more s' => exact ih s' _
                  | enough answer => rfl

/-- Of the pages of two lists that are turned into the same results, the same gets known. -/
theorem known_page_congr {records records' : List β}
    (h : records.map (fun a => f (.ok a)) = records'.map fun a => f (.ok a)) (size : Nat)
    (token : Option String) :
    (Memory.page records size token).map (known f)
      = (Memory.page records' size token).map (known f) := by
  have hlength : records.length = records'.length := by
    have hboth := congrArg List.length h
    rwa [List.length_map, List.length_map] at hboth
  unfold Memory.page
  cases Memory.pageStart token with
  | error e => rfl
  | ok start =>
      show Except.ok (known f (Memory.pageAt records size start)) = .ok (known f _)
      unfold known Memory.pageAt
      simp only [List.map_take, List.map_drop, h, hlength]

end Listing

/-! ### An update as a whole -/

namespace Site

variable {s : Site}

/-- **Metastores that show the same** are listed alike. -/
theorem walkNamespaces_congr {t : Site} (hsize : t.metastore.pageSize = s.metastore.pageSize)
    (hshown : t.metastore.shown = s.metastore.shown) {σ ρ : Type} (c : Catalog)
    (consumer : Listing.Consumer CatalogError NamespaceName σ ρ) (st : σ) :
    ((c.walkNamespaces consumer st).run answer t).1
      = ((c.walkNamespaces consumer st).run answer s).1 := by
  have hlisted : ∀ m : Memory, (m.inventory.map (·.record)).map
        (fun r => Catalog.listedNamespace (.ok r)) = m.shown.map (·.map .ok) := by
    intro m
    unfold Memory.shown
    rw [List.map_map, List.map_map]
    exact List.map_congr_left fun h _ => Catalog.listedNamespace_ok h.record
  refine Listing.run_walk_congr (fun token => run_fetchDatabases token t)
    (fun token => run_fetchDatabases token s) ?_ _ _ _
  intro token
  have hpages : (t.metastore.getDatabases token).map (Listing.known Catalog.listedNamespace)
      = (s.metastore.getDatabases token).map (Listing.known Catalog.listedNamespace) := by
    rw [Memory.getDatabases_eq, Memory.getDatabases_eq, hsize]
    refine Listing.known_page_congr ?_ _ token
    rw [hlisted, hlisted, hshown]
  have hcomm : ∀ r : Metastore.Outcome (Page DatabaseRecord),
      (r.mapError (CatalogError.metastore "get_databases")).map
          (Listing.known Catalog.listedNamespace)
        = (r.map (Listing.known Catalog.listedNamespace)).mapError
          (CatalogError.metastore "get_databases") := by
    intro r
    cases r <;> rfl
  exact (hcomm _).trans ((congrArg _ hpages).trans (hcomm _).symm)

/-- What an update of the properties of a namespace does at a site. -/
structure UpdatesExactly (s : Site) (n : NamespaceName) (removals : KeySet) (updates : Properties) :
    Prop where
  /-- When keys are both removed and set, it is over before anything is asked, with an error that
  names just these keys, in order. -/
  ambiguous : (∃ k ∈ removals.keys, k ∈ updates.keys) → ∃ keys : List String,
    keys.Pairwise (· < ·) ∧ (∀ k, k ∈ keys ↔ k ∈ removals.keys ∧ k ∈ updates.keys) ∧
    (Catalog.updateNamespace n removals updates).run = .done (.error (.ambiguousUpdate n.text keys))
  /-- When there is no such namespace, nothing changes. -/
  missing : (∀ k ∈ removals.keys, k ∉ updates.keys) →
    s.metastore.databases.contains n.text = false →
    (Catalog.updateNamespace n removals updates).perform answer s
      = (some (.error (.noSuchNamespace n.text)), s)
  /-- Otherwise it succeeds: with the properties that were loaded before, those that are loaded
  afterwards, and its summary. -/
  updated : (∀ k ∈ removals.keys, k ∉ updates.keys) →
    s.metastore.databases.contains n.text = true →
    ∃ (old new : Properties) (summary : UpdateSummary) (record : DatabaseRecord) (m' : Memory),
      (Catalog.loadNamespace n).perform answer s = (some (.ok old), s) ∧
      (Catalog.updateNamespace n removals updates).perform answer s
        = (some (.ok summary), ⟨m', s.objects⟩) ∧
      (Catalog.loadNamespace n).perform answer ⟨m', s.objects⟩ = (some (.ok new), ⟨m', s.objects⟩) ∧
      (∀ k, new.get? k
        = (updates.get? k).or (if k ∈ removals.keys then none else old.get? k)) ∧
      summary.Accounts removals updates old ∧
      s.metastore.Rewrites n.text record m' ∧
      -- In whatever order keys are taken out and set, this is what comes out.
      (∀ (ks : List String) (es : List (String × String)), ks.Perm removals.keys →
        es.Perm updates.entries →
        es.foldl (fun p e => p.insert e.1 e.2) (ks.foldl (fun p k => p.erase k) old) = new) ∧
      -- A record that had another name than its database gets the name back,
      record.name = n.text ∧
      -- so that the namespace is shown under its own name, in its old place, and nothing else is
      -- shown in another way or place.
      (m'.shown = s.metastore.inventory.map fun h =>
        if h.name = n.text then some n else NamespaceName.ofName? h.record.name) ∧
      -- Whoever walks over the listing finds what is found wherever this is shown,
      (∀ t : Site, t.metastore.pageSize = s.metastore.pageSize → t.metastore.shown = m'.shown →
        ∀ {σ ρ : Type} (c : Catalog) (consumer : Listing.Consumer CatalogError NamespaceName σ ρ)
          (st : σ), ((c.walkNamespaces consumer st).run answer ⟨m', s.objects⟩).1
            = ((c.walkNamespaces consumer st).run answer t).1) ∧
      -- and what was found before, if the record had the name of its database.
      ((∀ d, s.metastore.databases.get? n.text = some d → d.record.name = n.text) →
        ∀ {σ ρ : Type} (c : Catalog) (consumer : Listing.Consumer CatalogError NamespaceName σ ρ)
          (st : σ), ((c.walkNamespaces consumer st).run answer ⟨m', s.objects⟩).1
            = ((c.walkNamespaces consumer st).run answer s).1)

/-- **An update of properties is exact** at every metastore that a run of calls can lead to. -/
theorem updates_exactly (pageSize : Nat) (calls : List Call) (objects : OrderedMap ByteArray)
    (n : NamespaceName) (removals : KeySet) (updates : Properties) :
    UpdatesExactly ⟨(Memory.withPageSize pageSize).afterCalls calls, objects⟩ n removals updates
    where
  ambiguous := by
    rintro ⟨k, hremoved, hset⟩
    have hboth := (Catalog.mem_overlap_iff k).2 ⟨hremoved, hset⟩
    refine ⟨Catalog.overlap removals updates, Catalog.overlap_sorted removals updates,
      Catalog.mem_overlap_iff, ?_⟩
    unfold Catalog.updateNamespace
    rw [if_pos (List.ne_nil_of_mem hboth)]
    rfl
  missing := by
    intro hapart habsent
    obtain ⟨f, hget, hf⟩ := getDatabase_error (s := ⟨_, objects⟩)
      (OrderedMap.get?_eq_none_of_contains habsent) "get_database"
    rw [perform_updateNamespace_error (Catalog.overlap_eq_nil_iff.2 hapart) hget, hf]
  updated := by
    intro hapart hthere
    have hfiled := (Memory.inventory_afterCalls (Memory.filed_withPageSize pageSize) calls).2
    generalize (Memory.withPageSize pageSize).afterCalls calls = m at hfiled hthere ⊢
    obtain ⟨d, hd⟩ := Option.isSome_iff_exists.1 ((OrderedMap.contains_eq _ _).symm.trans hthere)
    have hget : m.getDatabase n.text = .ok d.record :=
      (hfiled.getDatabase_ok_iff n.text d.record).2
        ⟨d.holding n.text, Memory.mem_inventory.2 ⟨d, hd, rfl⟩, rfl, rfl⟩
    obtain ⟨m', hupdate, hrewrites⟩ := hfiled.exists_updateDatabase hd
      (.ofProperties n.text (Catalog.applyUpdate removals updates d.record.properties))
    have hreload : m'.getDatabase n.text = .ok (.ofProperties n.text
        (Catalog.applyUpdate removals updates d.record.properties)) :=
      (hrewrites.getDatabase n.text).trans (if_pos rfl)
    have hload := perform_loadNamespace_ok (s := ⟨m', objects⟩) hreload
    rw [DatabaseRecord.properties_ofProperties] at hload
    have hperform := perform_updateNamespace_ok (s := ⟨m, objects⟩)
      (Catalog.overlap_eq_nil_iff.2 hapart) hget
    simp only [hupdate] at hperform
    refine ⟨d.record.properties, _, _, _, m', perform_loadNamespace_ok (s := ⟨m, objects⟩) hget,
      hperform, hload, Catalog.get?_applyUpdate removals updates d.record.properties,
      Catalog.summarize_accounts removals updates d.record.properties, hrewrites,
      fun ks es => Catalog.applyUpdate_of_perm, rfl, hrewrites.shown_eq rfl, ?_, ?_⟩
    · intro t hsize hshown σ ρ c consumer st
      exact walkNamespaces_congr (s := t) (t := ⟨m', objects⟩) (hrewrites.pageSize.trans hsize.symm)
        hshown.symm c consumer st
    · intro hown σ ρ c consumer st
      exact walkNamespaces_congr (s := ⟨m, objects⟩) (t := ⟨m', objects⟩) hrewrites.pageSize
        (hrewrites.shown_eq_shown rfl hown) c consumer st

/-! ### Records with each other's names -/

theorem isSegment_a : IsSegment "a" := by decide

theorem isSegment_m : IsSegment "m" := by decide

/-- Two namespaces. -/
def spaceA : NamespaceName := ⟨"a", isSegment_a⟩

def spaceM : NamespaceName := ⟨"m", isSegment_m⟩

/-- Their databases, each with a record that has the name of the other. -/
def swapCalls : List Call :=
  [.createDatabase { name := "a" }, .createDatabase { name := "m" },
    .updateDatabase "a" { name := "m" }, .updateDatabase "m" { name := "a" }]

def swapped : Site := ⟨(Memory.withPageSize 100).afterCalls swapCalls, .empty⟩

/-- The site after an update of the properties of a namespace that removes and sets nothing. -/
def touched (s : Site) (n : NamespaceName) : Site :=
  ((Catalog.updateNamespace n .empty .empty).perform answer s).2

/-- **Updates that change the listing.**  They succeed, and each of them gives the record of its
database the name back under which the database is listed. -/
theorem updates_change_listing :
    let c : Catalog := ⟨"lake", none, 1⟩
    ((Catalog.updateNamespace spaceA .empty .empty).perform answer swapped).1 = some (.ok {}) ∧
      ((Catalog.updateNamespace spaceM .empty .empty).perform answer (swapped.touched spaceA)).1
        = some (.ok {}) ∧
      ((c.listNamespaces none).perform answer swapped).1 = some (.ok [spaceM, spaceA]) ∧
      ((c.listNamespaces none).perform answer (swapped.touched spaceA)).1
        = some (.ok [spaceA, spaceA]) ∧
      ((c.listNamespaces none).perform answer ((swapped.touched spaceA).touched spaceM)).1
        = some (.ok [spaceA, spaceM]) := by
  refine ⟨?_, ?_, ?_, ?_, ?_⟩ <;> decide +kernel

end Site

end LakeCatalog
