import LakeCatalog.Proofs.Create
import LakeCatalog.Proofs.MemoryTables
import LakeCatalog.Simulation.World

/-!
# Sites: a catalog's two stores in memory

A metastore in memory and objects in memory, both of which answer every question at once and
without faults.  This is where the catalog runs when nothing goes wrong, one request after
another.

* `Site`, `Site.answer` — the two stores, and how they answer;
* `run_world` — a site answers as a world without interruptions does;
* `Request`, `Site.step`, `Site.after` — the changing operations, one request, and a run.
-/

namespace LakeCatalog

open Metastore (Call Failure Memory DatabaseState)

/-- A metastore and objects, both in memory. -/
structure Site where
  metastore : Memory
  objects : OrderedMap ByteArray

namespace Site

/-- The site without databases and objects, with pages of a size. -/
def start (pageSize : Nat) : Site := ⟨.withPageSize pageSize, .empty⟩

/-- The content of an object. -/
def fetch (s : Site) (path : String) : Except StoreError ByteArray :=
  match s.objects.get? path with
  | some data => .ok data
  | none => .error (.notFound path)

/-- Answers a question. -/
def answer : Handler Backend Site
  | .metastore c, s =>
    ((s.metastore.respond c).1, { s with metastore := (s.metastore.respond c).2 })
  | .put path data, s => (.ok (), { s with objects := s.objects.insert path data })
  | .get path, s => (s.fetch path, s)

variable {s s' : Site} {n : TableName} {r : TableRecord}

/-! ### Sites and worlds -/

/-- The world of a site: no interruptions, and a record of what was asked. -/
def world (s : Site) (record : List Simulation.Event) : Simulation.World where
  server := .memory s.metastore []
  objects := .memory s.objects
  record := record

theorem answer_world (q : BackendQuery) (s : Site) (record : List Simulation.Event) :
    ∃ record', Simulation.World.answer q (s.world record)
      = ((answer q s).1, (answer q s).2.world record') := by
  cases q with
  | metastore c => exact ⟨_, rfl⟩
  | put path data => exact ⟨_, rfl⟩
  | get path => exact ⟨_, rfl⟩

/-- **A program runs at a site** as it does in a world where nothing is interrupted. -/
theorem run_world {α : Type} (p : Program Backend α) (s : Site)
    (record : List Simulation.Event) :
    ∃ record', p.run Simulation.World.answer (s.world record)
      = ((p.run answer s).1, (p.run answer s).2.world record') := by
  induction p generalizing s record with
  | done a => exact ⟨record, rfl⟩
  | exhausted => exact ⟨record, rfl⟩
  | ask q next ih =>
      obtain ⟨record', hanswer⟩ := answer_world q s record
      obtain ⟨record'', hrest⟩ := ih (answer q s).1 (answer q s).2 record'
      refine ⟨record'', ?_⟩
      show (next _).run Simulation.World.answer _ = _
      rw [hanswer]
      exact hrest

/-! ### Answers -/

theorem answer_of_isRead {q : BackendQuery} (hq : q.IsRead) (s : Site) : (answer q s).2 = s := by
  cases q with
  | metastore c =>
      show ({ s with metastore := (s.metastore.respond c).2 } : Site) = s
      rw [Memory.respond_of_isRead _ hq]
  | put path data => exact absurd hq id
  | get path => rfl

/-- An action that only looks things up leaves the site as it is. -/
theorem perform_of_conforms {α : Type} {a : Action α} {ends : Except CatalogError α → Prop}
    (ha : a.Conforms BackendQuery.IsRead ends) (s : Site) :
    ∃ r, a.perform answer s = (some r, s) ∧ ends r := by
  obtain ⟨r, s', hrun, hr, rfl⟩ := Program.run_of_conforms (h := answer) (· = s)
    (fun q s' hq hs' => by rw [answer_of_isRead hq, hs']) ha rfl
  exact ⟨r, hrun, hr⟩

/-- A call that fails leaves the site as it is. -/
theorem eq_of_call_error {c : Call} {f : Failure} (h : Handler.call answer c s = (.error f, s')) :
    s' = s := by
  have hstate : ({ s with metastore := (s.metastore.respond c).2 } : Site) = s' :=
    congrArg Prod.snd h
  have hreply : (s.metastore.respond c).1 = .error f := congrArg Prod.fst h
  have hrespond : s.metastore.respond c = (.error f, (s.metastore.respond c).2) := by
    rw [← hreply]
  rw [← hstate, Memory.respond_error hrespond]

theorem respond_of_call {c : Call} {reply : c.Reply}
    (h : Handler.call answer c s = (reply, s')) :
    s.metastore.respond c = (reply, s'.metastore) ∧ s'.objects = s.objects := by
  have hstate : ({ s with metastore := (s.metastore.respond c).2 } : Site) = s' :=
    congrArg Prod.snd h
  have hreply : (s.metastore.respond c).1 = reply := congrArg Prod.fst h
  subst hstate
  exact ⟨by rw [← hreply], rfl⟩

theorem found_of_call
    (h : Handler.call answer (.getTable n.space.text n.table) s = (.ok r, s')) :
    s.metastore.record? n = some r ∧ s' = s := by
  obtain ⟨hrespond, ho⟩ := respond_of_call h
  have hfound : s.metastore.getTable n.space.text n.table = .ok r := congrArg Prod.fst hrespond
  have hm : s.metastore = s'.metastore := congrArg Prod.snd hrespond
  refine ⟨Memory.record?_of_getTable hfound, ?_⟩
  cases s
  cases s'
  cases hm
  cases ho
  rfl

theorem gains_of_call (hname : r.name = n.table)
    (h : Handler.call answer (.createTable n.space.text r) s = (.ok (), s')) :
    s.metastore.Gains s'.metastore n { r with databaseName := some n.space.text } ∧
      s'.objects = s.objects := by
  obtain ⟨hrespond, ho⟩ := respond_of_call h
  exact ⟨Memory.gains_of_createTable hname (Memory.eq_of_changed_ok hrespond), ho⟩

theorem loses_of_call
    (h : Handler.call answer (.deleteTable n.space.text n.table) s = (.ok (), s')) :
    s.metastore.Loses s'.metastore n ∧ s'.objects = s.objects := by
  obtain ⟨hrespond, ho⟩ := respond_of_call h
  exact ⟨Memory.loses_of_deleteTable (Memory.eq_of_changed_ok hrespond), ho⟩

/-! ### Operations that end in one change of the metastore -/

/-- How an operation ends that asks for a change of the metastore. -/
def settle (s : Site) (result : Metastore.Outcome Memory) (onError : Failure → CatalogError) :
    Option (Except CatalogError Unit) × Site :=
  match result with
  | .ok m => (some (.ok ()), { s with metastore := m })
  | .error f => (some (.error (onError f)), s)

theorem settle_eq (s : Site) (result : Metastore.Outcome Memory)
    (onError : Failure → CatalogError) :
    (some ((s.metastore.changed result).1.mapError onError),
      ({ s with metastore := (s.metastore.changed result).2 } : Site)) = s.settle result onError := by
  cases result with
  | ok m => rfl
  | error f => rfl

theorem perform_createNamespace (n : NamespaceName) (properties : Properties) (s : Site) :
    (Catalog.createNamespace n properties).perform answer s
      = s.settle (s.metastore.createDatabase (.ofProperties n.text properties))
          (Catalog.createNamespaceFailure n.text) :=
  settle_eq s _ _

theorem perform_dropTable (n : TableName) (s : Site) :
    (Catalog.dropTable n).perform answer s
      = s.settle (s.metastore.deleteTable n.space.text n.table)
          (Catalog.tableFailure n "delete_table") :=
  settle_eq s _ _

theorem perform_deleteDatabase (n : NamespaceName) (s : Site) :
    (Action.call (.deleteDatabase n.text)
      (Catalog.namespaceFailure n.text "delete_database")).perform answer s
      = s.settle (s.metastore.deleteDatabase n.text)
          (Catalog.namespaceFailure n.text "delete_database") :=
  settle_eq s _ _

theorem perform_updateDatabase (n : NamespaceName) (record : DatabaseRecord) (s : Site) :
    (Action.call (.updateDatabase n.text record)
      (Catalog.namespaceFailure n.text "update_database")).perform answer s
      = s.settle (s.metastore.updateDatabase n.text record)
          (Catalog.namespaceFailure n.text "update_database") :=
  settle_eq s _ _

theorem perform_loadNamespace_ok {n : NamespaceName} {record : DatabaseRecord}
    (h : s.metastore.getDatabase n.text = .ok record) :
    (Catalog.loadNamespace n).perform answer s = (some (.ok record.properties), s) := by
  have hcall : Handler.call answer (.getDatabase n.text) s = (.ok record, s) := by
    show (s.metastore.getDatabase n.text, s) = _
    rw [h]
  exact Catalog.perform_loadNamespace_ok hcall

theorem perform_loadNamespace_error {n : NamespaceName} {f : Failure}
    (h : s.metastore.getDatabase n.text = .error f) :
    (Catalog.loadNamespace n).perform answer s
      = (some (.error (Catalog.namespaceFailure n.text "get_database" f)), s) := by
  have hcall : Handler.call answer (.getDatabase n.text) s = (.error f, s) := by
    show (s.metastore.getDatabase n.text, s) = _
    rw [h]
  exact Catalog.perform_loadNamespace_error hcall

/-! ### Updates of properties -/

section Update

variable {n : NamespaceName} {removals : KeySet} {updates : Properties} {record : DatabaseRecord}
  {f : Failure}

/-- Nothing is asked when keys are both removed and set. -/
theorem perform_updateNamespace_overlap (h : Catalog.overlap removals updates ≠ []) (s : Site) :
    (Catalog.updateNamespace n removals updates).perform answer s
      = (some (.error (.ambiguousUpdate n.text (Catalog.overlap removals updates))), s) := by
  unfold Catalog.updateNamespace
  rw [if_pos h]
  rfl

theorem updateNamespace_eq (h : Catalog.overlap removals updates = []) :
    Catalog.updateNamespace n removals updates
      = (do
        let properties ← Catalog.loadNamespace n
        let _ ← (Action.call (.updateDatabase n.text (.ofProperties n.text
          (Catalog.applyUpdate removals updates properties)))
          (Catalog.namespaceFailure n.text "update_database") : Action Unit)
        pure (Catalog.summarize removals updates properties)) := by
  unfold Catalog.updateNamespace
  rw [if_neg (not_not_intro h)]

theorem perform_updateNamespace_error (h : Catalog.overlap removals updates = [])
    (hget : s.metastore.getDatabase n.text = .error f) :
    (Catalog.updateNamespace n removals updates).perform answer s
      = (some (.error (Catalog.namespaceFailure n.text "get_database" f)), s) := by
  rw [updateNamespace_eq h]
  exact Action.perform_bind_error answer (perform_loadNamespace_error hget)

theorem perform_updateNamespace_ok (h : Catalog.overlap removals updates = [])
    (hget : s.metastore.getDatabase n.text = .ok record) :
    (Catalog.updateNamespace n removals updates).perform answer s
      = match s.metastore.updateDatabase n.text (.ofProperties n.text
          (Catalog.applyUpdate removals updates record.properties)) with
        | .ok m =>
          (some (.ok (Catalog.summarize removals updates record.properties)),
            { s with metastore := m })
        | .error f => (some (.error (Catalog.namespaceFailure n.text "update_database" f)), s) := by
  rw [updateNamespace_eq h, Action.perform_bind_ok answer (perform_loadNamespace_ok hget)]
  have hcall := perform_updateDatabase n (.ofProperties n.text
    (Catalog.applyUpdate removals updates record.properties)) s
  unfold settle at hcall
  cases hupdate : s.metastore.updateDatabase n.text (.ofProperties n.text
      (Catalog.applyUpdate removals updates record.properties)) with
  | ok m =>
      rw [hupdate] at hcall
      exact Action.perform_bind_ok answer hcall
  | error f =>
      rw [hupdate] at hcall
      exact Action.perform_bind_error answer hcall

end Update

/-! ### Dropping a namespace -/

/-- Walking a listing leaves the site as it is when fetching its pages does. -/
theorem run_walk {ε α σ ρ : Type} {fetch : Option String → Program Backend (Except ε (Page α))}
    (hfetch : ∀ token, ∃ page, (fetch token).run answer s = (some page, s))
    (consumer : Listing.Consumer ε α σ ρ) (budget : Nat) (st : σ) (cursor : Listing.Cursor) :
    ∃ o, (Listing.walk fetch consumer budget st cursor).run answer s = (o, s) := by
  induction budget generalizing st cursor with
  | zero =>
      cases cursor with
      | finished => exact ⟨_, rfl⟩
      | before token => exact ⟨_, rfl⟩
  | succ budget ih =>
      cases cursor with
      | finished => exact ⟨_, rfl⟩
      | before token =>
          obtain ⟨page, hpage⟩ := hfetch token
          unfold Listing.walk
          rw [Program.run_bind, hpage]
          cases page with
          | error e =>
              dsimp only
              cases consumer.step st (.error e) with
              | more st' => exact ⟨_, rfl⟩
              | enough a => exact ⟨_, rfl⟩
          | ok page =>
              dsimp only
              cases Listing.feed consumer st page.items with
              | more st' => exact ih st' _
              | enough a => exact ⟨_, rfl⟩

theorem run_fetchTables (n : NamespaceName) (token : Option String) (s : Site) :
    (Catalog.fetchTables n token).run answer s
      = (some ((s.metastore.getTables n.text token).mapError
          (Catalog.namespaceFailure n.text "get_tables")), s) := rfl

theorem run_walkTables {σ ρ : Type} (c : Catalog) (n : NamespaceName)
    (consumer : Listing.Consumer CatalogError TableName σ ρ) (st : σ) (s : Site) :
    ∃ o, (c.walkTables n consumer st).run answer s = (o, s) :=
  run_walk (fun token => ⟨_, run_fetchTables n token s⟩) _ _ _ _

/-- How dropping a namespace goes on once its listing was walked for a first result. -/
def dropAfter (s : Site) (n : NamespaceName) :
    Option (Option (Except CatalogError TableName)) → Option (Except CatalogError Unit) × Site
  | none => (none, s)
  | some none => s.settle (s.metastore.deleteDatabase n.text)
      (Catalog.namespaceFailure n.text "delete_database")
  | some (some (.ok _)) => (some (.error (.namespaceNotEmpty n.text)), s)
  | some (some (.error e)) => (some (.error e), s)

/-- **Dropping a namespace** is decided by the first result of its listing: only when there is
none is the database deleted. -/
theorem perform_dropNamespace {c : Catalog} {n : NamespaceName}
    {o : Option (Option (Except CatalogError TableName))}
    (hwalk : (c.walkTables n Listing.firstConsumer ()).run answer s = (o, s)) :
    (c.dropNamespace n).perform answer s = s.dropAfter n o := by
  unfold Catalog.dropNamespace
  rw [Action.perform_bind]
  have hfirst : ∀ next : Option (Except CatalogError TableName) →
      Program Backend (Except CatalogError Bool),
      Action.perform answer (Action.ofProgram
        ((c.walkTables n Listing.firstConsumer ()).bind next)) s
      = o.elim (none, s) fun first => (next first).run answer s := by
    intro next
    show Program.run answer (Program.bind (c.walkTables n Listing.firstConsumer ()) next) s = _
    rw [Program.run_bind, hwalk]
    cases o with
    | none => rfl
    | some first => rfl
  rw [hfirst]
  cases o with
  | none => rfl
  | some first =>
      cases first with
      | none => exact perform_deleteDatabase n s
      | some result =>
          cases result with
          | ok t => rfl
          | error e => rfl

end Site

/-! ### Requests -/

/-- An operation that may change what a catalog holds, with its arguments. -/
inductive Request where
  | createNamespace (n : NamespaceName) (properties : Properties)
  | updateNamespace (n : NamespaceName) (removals : KeySet) (updates : Properties)
  | dropNamespace (n : NamespaceName)
  | createTable (fresh : Fresh) (n : TableName) (creation : TableCreation)
  | dropTable (n : TableName)
  | renameTable (source target : TableName)

/-- What a request is answered with: of a table, its name and the location of its metadata. -/
inductive Receipt where
  | done
  | updated (summary : UpdateSummary)
  | table (name : TableName) (location : String)
deriving DecidableEq

/-- The receipt for a table. -/
def Table.receipt (t : Table) : Receipt := .table t.name t.metadataLocation

namespace Request

/-- The operation of a request. -/
def action (c : Catalog) : Request → Action Receipt
  | .createNamespace n properties => do
    Catalog.createNamespace n properties
    pure .done
  | .updateNamespace n removals updates => do
    let summary ← Catalog.updateNamespace n removals updates
    pure (.updated summary)
  | .dropNamespace n => do
    c.dropNamespace n
    pure .done
  | .createTable fresh n creation => do
    let t ← c.createTable fresh n creation
    pure t.receipt
  | .dropTable n => do
    Catalog.dropTable n
    pure .done
  | .renameTable source target => do
    let t ← c.renameTable source target
    pure t.receipt

end Request

namespace Site

/-- One request: its outcome, unless it gave up, and the site after it. -/
def step (c : Catalog) (s : Site) (r : Request) : Option (Except CatalogError Receipt) × Site :=
  (r.action c).perform answer s

/-- The site after some requests, one after the other. -/
def after (c : Catalog) : Site → List Request → Site
  | s, [] => s
  | s, r :: rs => after c (s.step c r).2 rs

/-- The outcomes of some requests, one after the other. -/
def outcomes (c : Catalog) : Site → List Request → List (Option (Except CatalogError Receipt))
  | _, [] => []
  | s, r :: rs => (s.step c r).1 :: outcomes c (s.step c r).2 rs

theorem after_cons (c : Catalog) (s : Site) (r : Request) (rs : List Request) :
    s.after c (r :: rs) = (s.step c r).2.after c rs := rfl

/-- How an operation ends whose result is only put into another form. -/
def received {α : Type} (f : α → Receipt) (r : Option (Except CatalogError α) × Site) :
    Option (Except CatalogError Receipt) × Site :=
  (r.1.map (·.map f), r.2)

theorem perform_receipt {α : Type} (a : Action α) (f : α → Receipt) (s : Site) :
    ((do let x ← a; pure (f x) : Action Receipt).perform answer s)
      = received f (a.perform answer s) := by
  rw [Action.perform_bind]
  rcases a.perform answer s with ⟨o, s'⟩
  cases o with
  | none => rfl
  | some r =>
      cases r with
      | ok x => rfl
      | error e => rfl

/-! One request is its operation, with a receipt. -/

section Step

variable (s : Site) (c : Catalog)

theorem step_createNamespace (n : NamespaceName) (properties : Properties) :
    s.step c (.createNamespace n properties)
      = received (fun _ => .done) ((Catalog.createNamespace n properties).perform answer s) :=
  perform_receipt (Catalog.createNamespace n properties) (fun _ => .done) s

theorem step_updateNamespace (n : NamespaceName) (removals : KeySet) (updates : Properties) :
    s.step c (.updateNamespace n removals updates)
      = received .updated ((Catalog.updateNamespace n removals updates).perform answer s) :=
  perform_receipt (Catalog.updateNamespace n removals updates) .updated s

theorem step_dropNamespace (n : NamespaceName) :
    s.step c (.dropNamespace n)
      = received (fun _ => .done) ((c.dropNamespace n).perform answer s) :=
  perform_receipt (c.dropNamespace n) (fun _ => .done) s

theorem step_createTable (fresh : Fresh) (n : TableName) (creation : TableCreation) :
    s.step c (.createTable fresh n creation)
      = received Table.receipt ((c.createTable fresh n creation).perform answer s) :=
  perform_receipt (c.createTable fresh n creation) Table.receipt s

theorem step_dropTable (n : TableName) :
    s.step c (.dropTable n)
      = received (fun _ => .done) ((Catalog.dropTable n).perform answer s) :=
  perform_receipt (Catalog.dropTable n) (fun _ => .done) s

theorem step_renameTable (source target : TableName) :
    s.step c (.renameTable source target)
      = received Table.receipt ((c.renameTable source target).perform answer s) :=
  perform_receipt (c.renameTable source target) Table.receipt s

end Step

/-! ### Creations -/

section Creation

variable {c : Catalog} {fresh : Fresh} {creation : TableCreation} {location path : String}
  {m' : Memory} {f : Failure}

/-- The site after the metadata file of a new table is written. -/
def withContent (s : Site) (fresh : Fresh) (creation : TableCreation) (location path : String) :
    Site :=
  { s with objects := s.objects.insert path (creation.content fresh location) }

theorem perform_createTable_written
    (hlocation : (c.tableLocation n creation).perform answer s = (some (.ok location), s))
    (hpath : Objects.pathOf (Metadata.fileLocation fresh.fileId location) = .ok path) :
    (c.createTable fresh n creation).perform answer s
      = (do
        Catalog.createTableRecord n (.ofMetadata n.table
          (Metadata.fileLocation fresh.fileId location) creation.properties)
        c.loadTable n : Action Table).perform answer
          (s.withContent fresh creation location path) := by
  have hwrite : (Objects.writeMetadata (creation.metadata fresh location)
      (Metadata.fileLocation fresh.fileId location)).perform answer s
      = (some (.ok ()), s.withContent fresh creation location path) :=
    Catalog.perform_writeMetadata answer fresh creation location hpath s
  rw [Catalog.createTable_eq, Action.perform_bind_ok answer hlocation]
  unfold Catalog.createAt
  rw [Action.perform_bind_ok answer hwrite]

/-- A creation whose table is not registered. -/
theorem perform_createTable_error
    (hlocation : (c.tableLocation n creation).perform answer s = (some (.ok location), s))
    (hpath : Objects.pathOf (Metadata.fileLocation fresh.fileId location) = .ok path)
    (hcreate : s.metastore.createTable n.space.text (.ofMetadata n.table
      (Metadata.fileLocation fresh.fileId location) creation.properties) = .error f) :
    (c.createTable fresh n creation).perform answer s
      = (some (.error (Catalog.createTableFailure n f)),
          s.withContent fresh creation location path) := by
  have hregister := settle_eq (s.withContent fresh creation location path) (.error f)
    (Catalog.createTableFailure n)
  rw [perform_createTable_written hlocation hpath]
  refine Action.perform_bind_error answer (Eq.trans ?_ hregister)
  rw [← hcreate]
  rfl

/-- A creation whose table is registered. -/
theorem perform_createTable_ok
    (hlocation : (c.tableLocation n creation).perform answer s = (some (.ok location), s))
    (hpath : Objects.pathOf (Metadata.fileLocation fresh.fileId location) = .ok path)
    (hcreate : s.metastore.createTable n.space.text (.ofMetadata n.table
      (Metadata.fileLocation fresh.fileId location) creation.properties) = .ok m') :
    (c.createTable fresh n creation).perform answer s
      = (c.loadTable n).perform answer
          ⟨m', s.objects.insert path (creation.content fresh location)⟩ := by
  have hregister := settle_eq (s.withContent fresh creation location path) (.ok m')
    (Catalog.createTableFailure n)
  rw [perform_createTable_written hlocation hpath]
  refine Action.perform_bind_ok answer (Eq.trans ?_ hregister)
  rw [← hcreate]
  rfl

/-- The site after a creation whose table is registered. -/
theorem step_createTable_ok
    (hlocation : (c.tableLocation n creation).perform answer s = (some (.ok location), s))
    (hpath : Objects.pathOf (Metadata.fileLocation fresh.fileId location) = .ok path)
    (hcreate : s.metastore.createTable n.space.text (.ofMetadata n.table
      (Metadata.fileLocation fresh.fileId location) creation.properties) = .ok m') :
    (s.step c (.createTable fresh n creation)).2
      = ⟨m', s.objects.insert path (creation.content fresh location)⟩ := by
  obtain ⟨outcome, hload, -⟩ := perform_of_conforms (Catalog.loadTable_conforms c n)
    ⟨m', s.objects.insert path (creation.content fresh location)⟩
  rw [step_createTable, perform_createTable_ok hlocation hpath hcreate, hload]
  rfl

end Creation

end Site

end LakeCatalog
