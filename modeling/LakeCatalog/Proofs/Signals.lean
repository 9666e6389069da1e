import LakeCatalog.Proofs.RenameRace

/-!
# Which signals of a metastore are put into other words

A failure of a metastore carries a signal, and three of the four signals speak of names and records.
For each call the catalog puts some of these into its own words; whatever else comes is handed on as
it is, as a failed call to the metastore.  This file says exactly which signals are handed on, for
every operation of the catalog, whatever the metastore answers.

* `CatalogError.failures` — the failed calls that an error hands on, also inside a failed rename;
* `translated` — the signals that are put into other words, for each call;
* `Program.Ends`, `Action.FailsWithin` — what holds of every outcome, whatever the answers are;
* `Operation` — the operations of a catalog with their inputs;
* `Operation.failsWithin`, `Operation.handsOn` — no signal is handed on that is translated, and every
  other one is;
* `Operation.handed_on_iff` — both in one.
-/

namespace LakeCatalog

open Metastore (Call Failure Memory Signal)
open Registry (longName not_short_longName)

/-- The failed calls to the metastore that an error hands on, each with the name of the call. -/
def CatalogError.failures : CatalogError → List (String × Failure)
  | .metastore operation f => [(operation, f)]
  | .renameFailed _ _ cause => cause.failures
  | .manualInterventionRequired _ _ cause rollback => cause.failures ++ rollback.failures
  | _ => []

/-- The signals that the catalog puts into its own words when a call fails with them. -/
def translated : String → List Signal
  | "get_table" | "delete_table" => [.entityNotFound]
  | "create_table" => [.entityNotFound, .alreadyExists]
  | "create_database" => [.alreadyExists]
  | "get_tables" | "get_database" | "update_database" | "delete_database" =>
    [.entityNotFound, .invalidInput]
  | _ => []

/-- The error hands on failures of certain calls only, and none with a signal that is translated. -/
def CatalogError.Within (calls : List String) (e : CatalogError) : Prop :=
  ∀ operation f, (operation, f) ∈ e.failures → operation ∈ calls ∧ f.signal ∉ translated operation

/-- An outcome that is no error, or an error within some calls. -/
def OutcomeWithin {α : Type} (calls : List String) (r : Except CatalogError α) : Prop :=
  ∀ e, r = .error e → e.Within calls

/-! ### What holds of every outcome -/

namespace Program

variable {I : Interface} {α β σ : Type}

/-- The program ends with a result of one kind whatever the answers are, unless it gives up. -/
def Ends (ends : α → Prop) : Program I α → Prop
  | .done a => ends a
  | .exhausted => True
  | .ask _ next => ∀ r, (next r).Ends ends

theorem ends_bind {mid : α → Prop} {ends : β → Prop} {p : Program I α} {f : α → Program I β}
    (hp : p.Ends mid) (hf : ∀ a, mid a → (f a).Ends ends) : (p.bind f).Ends ends := by
  induction p with
  | done a => exact hf a hp
  | exhausted => trivial
  | ask q next ih => exact fun r => ih r (hp r)

/-- A program that is run to its end has a result of the kind. -/
theorem Ends.run {ends : α → Prop} {p : Program I α} (hp : p.Ends ends) {h : Handler I σ}
    {s s' : σ} {a : α} (hrun : p.run h s = (some a, s')) : ends a := by
  induction p generalizing s with
  | done b =>
      cases hrun
      exact hp
  | exhausted => cases hrun
  | ask q next ih => exact ih _ (hp _) hrun

end Program

namespace Action

variable {α β : Type} {calls : List String}

/-- Every error that the action may end with is within some calls. -/
structure FailsWithin (calls : List String) (a : Action α) : Prop where
  ends : Program.Ends (I := Backend) (OutcomeWithin calls) a.run

theorem failsWithin_ok (x : α) : FailsWithin calls (ofExcept (.ok x)) := by
  constructor
  intro e he
  cases he

theorem failsWithin_error {e : CatalogError} (he : e.Within calls) :
    FailsWithin calls (ofExcept (.error e : Except CatalogError α)) := by
  constructor
  intro e' he'
  cases he'
  exact he

theorem failsWithin_ask {ε : Type} {q : BackendQuery} {f : q.Reply → Except ε α}
    {onError : ε → CatalogError} (hf : ∀ x, (onError x).Within calls) :
    FailsWithin calls (ask q f onError) := by
  constructor
  intro r e he
  cases hr : f r with
  | ok x =>
      rw [hr] at he
      cases he
  | error x =>
      rw [hr] at he
      cases he
      exact hf x

theorem FailsWithin.bind {a : Action α} {f : α → Action β} (ha : a.FailsWithin calls)
    (hf : ∀ x, (f x).FailsWithin calls) : FailsWithin calls (a >>= f) := by
  constructor
  refine Program.ends_bind (f := ExceptT.bindCont f) ha.ends ?_
  intro r hr
  cases r with
  | ok x => exact (hf x).ends
  | error e => exact (failsWithin_error (hr e rfl)).ends

theorem FailsWithin.attempt {a : Action α} {next : Except CatalogError α → Action β}
    (ha : a.FailsWithin calls) (hok : ∀ x, (next (.ok x)).FailsWithin calls)
    (herror : ∀ e, e.Within calls → (next (.error e)).FailsWithin calls) :
    FailsWithin calls (Action.attempt a next) := by
  constructor
  refine Program.ends_bind (f := fun r => (next r).run) ha.ends ?_
  intro r hr
  cases r with
  | ok x => exact (hok x).ends
  | error e => exact (herror e (hr e rfl)).ends

end Action

/-! ### Translations -/

/-- What becomes of a failed call: the signals that are translated leave no trace of the failure,
and with any other signal it is handed on. -/
def Translates (operation : String) (onError : Failure → CatalogError) : Prop :=
  ∀ f, (f.signal ∈ translated operation → (onError f).failures = []) ∧
    (f.signal ∉ translated operation → onError f = .metastore operation f)

namespace Catalog

theorem translates_getTable (n : TableName) : Translates "get_table" (tableFailure n "get_table") := by
  rintro ⟨signal, detail⟩
  cases signal <;> simp [translated, tableFailure, CatalogError.failures]

theorem translates_deleteTable (n : TableName) :
    Translates "delete_table" (tableFailure n "delete_table") := by
  rintro ⟨signal, detail⟩
  cases signal <;> simp [translated, tableFailure, CatalogError.failures]

theorem translates_createTable (n : TableName) :
    Translates "create_table" (createTableFailure n) := by
  rintro ⟨signal, detail⟩
  cases signal <;> simp [translated, createTableFailure, CatalogError.failures]

theorem translates_createDatabase (space : String) :
    Translates "create_database" (createNamespaceFailure space) := by
  rintro ⟨signal, detail⟩
  cases signal <;> simp [translated, createNamespaceFailure, CatalogError.failures]

/-- Four calls share the translation of failures that are about a database. -/
theorem translates_namespaceFailure (space : String) {operation : String}
    (h : translated operation = [.entityNotFound, .invalidInput]) :
    Translates operation (namespaceFailure space operation) := by
  rintro ⟨signal, detail⟩
  cases signal <;> simp [h, namespaceFailure, CatalogError.failures]

theorem translates_getDatabases : Translates "get_databases" (.metastore "get_databases") := by
  intro f
  exact ⟨nofun, fun _ => rfl⟩

end Catalog

theorem CatalogError.Within.of_failures {calls : List String} {e : CatalogError}
    (h : e.failures = []) : e.Within calls := by
  intro operation f hf
  rw [h] at hf
  cases hf

theorem Translates.within {operation : String} {onError : Failure → CatalogError}
    (h : Translates operation onError) {calls : List String} (hcall : operation ∈ calls)
    (f : Failure) : (onError f).Within calls := by
  by_cases hf : f.signal ∈ translated operation
  · exact CatalogError.Within.of_failures ((h f).1 hf)
  · rw [(h f).2 hf]
    intro operation' f' hf'
    obtain ⟨rfl, rfl⟩ := Prod.mk.inj (List.mem_singleton.1 hf')
    exact ⟨hcall, hf⟩

/-! ### A metastore that refuses one kind of call -/

/-- The answer to a call that is granted. -/
def Metastore.Call.granted : (c : Call) → c.Reply
  | .getTable _ name => .ok (.ofMetadata name "s3://w/m.json" .empty)
  | .getTables .. => .ok { items := [] }
  | .getDatabase name => .ok { name }
  | .getDatabases _ => .ok { items := [] }
  | .createTable .. | .deleteTable .. | .createDatabase .. | .updateDatabase .. |
    .deleteDatabase .. => .ok ()

/-- A metastore that refuses every call of one name with one failure and grants the others. -/
def deny (operation : String) (f : Failure) : Handler Backend Unit
  | .metastore c, s => (if c.operation = operation then .error f else c.granted, s)
  | .put .., s => (.ok (), s)
  | .get _, s => (.ok .empty, s)

/-! ### The operations -/

/-- The operations of a catalog. -/
inductive Operation where
  | createTable
  | loadTable
  | dropTable
  | renameTable
  | tableExists
  | listTables
  | createNamespace
  | dropNamespace
  | listNamespaces
  | loadNamespace
  | updateNamespace
  | namespaceExists
deriving DecidableEq, Repr

namespace Operation

/-- What an operation is given. -/
abbrev Input : Operation → Type
  | createTable => Fresh × TableName × TableCreation
  | loadTable | dropTable | tableExists => TableName
  | renameTable => TableName × TableName
  | listTables | dropNamespace | loadNamespace | namespaceExists => NamespaceName
  | createNamespace => NamespaceName × Properties
  | listNamespaces => Option NamespaceName
  | updateNamespace => NamespaceName × KeySet × Properties

/-- What an operation is answered with. -/
abbrev Result : Operation → Type
  | createTable | loadTable | renameTable => Table
  | dropTable | createNamespace | dropNamespace => Unit
  | tableExists | namespaceExists => Bool
  | listTables => List TableName
  | listNamespaces => List NamespaceName
  | loadNamespace => Properties
  | updateNamespace => UpdateSummary

/-- The operation of a catalog with its input. -/
def action (c : Catalog) : (op : Operation) → op.Input → Action op.Result
  | createTable, (fresh, n, creation) => c.createTable fresh n creation
  | loadTable, n => c.loadTable n
  | dropTable, n => Catalog.dropTable n
  | renameTable, (source, target) => c.renameTable source target
  | tableExists, n => Catalog.tableExists n
  | listTables, n => c.listTables n
  | createNamespace, (n, properties) => Catalog.createNamespace n properties
  | dropNamespace, n => c.dropNamespace n
  | listNamespaces, parent => c.listNamespaces parent
  | loadNamespace, n => Catalog.loadNamespace n
  | updateNamespace, (n, removals, updates) => Catalog.updateNamespace n removals updates
  | namespaceExists, n => Catalog.namespaceExists n

/-- The calls whose failures an operation may meet. -/
def calls : Operation → List String
  | createTable => ["get_database", "create_table", "get_table"]
  | loadTable | tableExists => ["get_table"]
  | dropTable => ["delete_table"]
  | renameTable => ["get_table", "create_table", "delete_table"]
  | listTables => ["get_tables"]
  | createNamespace => ["create_database"]
  | dropNamespace => ["get_tables", "delete_database"]
  | listNamespaces => ["get_databases"]
  | loadNamespace | namespaceExists => ["get_database"]
  | updateNamespace => ["get_database", "update_database"]

end Operation

/-! ### Nothing translated is handed on -/

namespace Action

variable {calls : List String}

theorem failsWithin_call {c : Call} {onError : Failure → CatalogError}
    (ht : Translates c.operation onError) (hcall : c.operation ∈ calls) :
    FailsWithin calls (call c onError) :=
  failsWithin_ask fun f => ht.within hcall f

end Action

namespace Objects

variable {calls : List String}

theorem failsWithin_pathOf (location : String) :
    (Action.ofExcept (pathOf location)).FailsWithin calls := by
  unfold pathOf
  cases ObjectPath.ofLocation location with
  | ok path => exact Action.failsWithin_ok path
  | error fault => cases fault <;> exact Action.failsWithin_error (.of_failures rfl)

theorem failsWithin_readMetadata (location : String) :
    (readMetadata location).FailsWithin calls := by
  refine Action.FailsWithin.bind ?_ ?_
  · refine (failsWithin_pathOf location).bind ?_
    exact fun path => Action.failsWithin_ask fun x => .of_failures rfl
  · intro data
    cases Metadata.read? data with
    | some m => exact Action.failsWithin_ok m
    | none => exact Action.failsWithin_error (.of_failures rfl)

theorem failsWithin_writeMetadata (m : Metadata) (location : String) :
    (writeMetadata m location).FailsWithin calls := by
  unfold writeMetadata
  cases m.write? with
  | some data =>
      refine (failsWithin_pathOf location).bind ?_
      exact fun path => Action.failsWithin_ask fun x => .of_failures rfl
  | none => exact Action.failsWithin_error (.of_failures rfl)

end Objects

namespace Catalog

variable {calls : List String} (c : Catalog)

theorem failsWithin_tableRecord (n : TableName) (h : "get_table" ∈ calls) :
    (tableRecord n).FailsWithin calls :=
  Action.failsWithin_call (translates_getTable n) h

theorem failsWithin_createTableRecord (n : TableName) (record : TableRecord)
    (h : "create_table" ∈ calls) : (createTableRecord n record).FailsWithin calls :=
  Action.failsWithin_call (translates_createTable n) h

theorem failsWithin_dropTable (n : TableName) (h : "delete_table" ∈ calls) :
    (dropTable n).FailsWithin calls :=
  Action.failsWithin_call (translates_deleteTable n) h

theorem failsWithin_metadataLocation (n : TableName) (r : TableRecord) :
    (Action.ofExcept (r.metadataLocation n)).FailsWithin calls := by
  unfold TableRecord.metadataLocation
  dsimp only
  split
  · cases r.parameters.get? metadataLocationKey with
    | some location => exact Action.failsWithin_ok location
    | none => exact Action.failsWithin_error (.of_failures rfl)
  · exact Action.failsWithin_error (.of_failures rfl)

theorem failsWithin_loadTable (n : TableName) (h : "get_table" ∈ calls) :
    (c.loadTable n).FailsWithin calls := by
  refine (failsWithin_tableRecord n h).bind fun record => ?_
  refine (failsWithin_metadataLocation n record).bind fun location => ?_
  exact (Objects.failsWithin_readMetadata location).bind fun m => Action.failsWithin_ok _

theorem failsWithin_tableExists (n : TableName) (h : "get_table" ∈ calls) :
    (tableExists n).FailsWithin calls := by
  refine (failsWithin_tableRecord n h).attempt (fun _ => Action.failsWithin_ok true) ?_
  intro e he
  cases e with
  | noSuchTable space table => exact Action.failsWithin_ok false
  | _ => exact Action.failsWithin_error he

theorem failsWithin_loadNamespace (n : NamespaceName) (h : "get_database" ∈ calls) :
    (loadNamespace n).FailsWithin calls :=
  (Action.failsWithin_call (translates_namespaceFailure n.text rfl) h).bind
    fun record => Action.failsWithin_ok record.properties

theorem failsWithin_namespaceExists (n : NamespaceName) (h : "get_database" ∈ calls) :
    (namespaceExists n).FailsWithin calls := by
  refine (failsWithin_loadNamespace n h).attempt (fun _ => Action.failsWithin_ok true) ?_
  intro e he
  cases e with
  | noSuchNamespace space => exact Action.failsWithin_ok false
  | _ => exact Action.failsWithin_error he

theorem failsWithin_updateNamespace (n : NamespaceName) (removals : KeySet) (updates : Properties)
    (hget : "get_database" ∈ calls) (hupdate : "update_database" ∈ calls) :
    (updateNamespace n removals updates).FailsWithin calls := by
  have hrest : (do
      let properties ← loadNamespace n
      let record := DatabaseRecord.ofProperties n.text (applyUpdate removals updates properties)
      let _ ← Action.call (.updateDatabase n.text record)
        (namespaceFailure n.text "update_database")
      pure (summarize removals updates properties) : Action UpdateSummary).FailsWithin calls := by
    refine (failsWithin_loadNamespace n hget).bind fun properties => ?_
    refine (Action.failsWithin_call (translates_namespaceFailure n.text rfl) hupdate).bind ?_
    exact fun _ => Action.failsWithin_ok _
  by_cases hoverlap : overlap removals updates = []
  · rw [Site.updateNamespace_eq hoverlap]
    exact hrest
  · unfold updateNamespace
    rw [if_pos hoverlap]
    exact Action.failsWithin_error (.of_failures rfl)

theorem failsWithin_defaultLocation (n : TableName) (h : "get_database" ∈ calls) :
    (c.defaultLocation n).FailsWithin calls := by
  refine (failsWithin_loadNamespace n.space h).bind fun properties => ?_
  cases (properties.get? locationKey).filter (· ≠ "") with
  | some location => exact Action.failsWithin_ok _
  | none =>
      cases c.warehouse with
      | some warehouse => exact Action.failsWithin_ok _
      | none => exact Action.failsWithin_error (.of_failures rfl)

theorem failsWithin_tableLocation (n : TableName) (creation : TableCreation)
    (h : "get_database" ∈ calls) : (c.tableLocation n creation).FailsWithin calls := by
  unfold tableLocation
  cases usableLocation creation.location with
  | some location => exact Action.failsWithin_ok location
  | none => exact c.failsWithin_defaultLocation n h

theorem failsWithin_createAt (fresh : Fresh) (n : TableName) (creation : TableCreation)
    (location : String) (hcreate : "create_table" ∈ calls) (hget : "get_table" ∈ calls) :
    (c.createAt fresh n creation location).FailsWithin calls := by
  unfold createAt
  refine Action.FailsWithin.bind (Objects.failsWithin_writeMetadata _ _) fun _ => ?_
  refine Action.FailsWithin.bind (failsWithin_createTableRecord n _ hcreate) fun _ => ?_
  exact c.failsWithin_loadTable n hget

theorem failsWithin_createTable (fresh : Fresh) (n : TableName) (creation : TableCreation)
    (hspace : "get_database" ∈ calls) (hcreate : "create_table" ∈ calls)
    (hget : "get_table" ∈ calls) : (c.createTable fresh n creation).FailsWithin calls := by
  rw [createTable_eq]
  exact Action.FailsWithin.bind (c.failsWithin_tableLocation n creation hspace) fun location =>
    c.failsWithin_createAt fresh n creation location hcreate hget

/-- A failed rename hands on what its last step and the undoing of it have met. -/
theorem failsWithin_renameTable (source target : TableName) (hget : "get_table" ∈ calls)
    (hcreate : "create_table" ∈ calls) (hdelete : "delete_table" ∈ calls) :
    (c.renameTable source target).FailsWithin calls := by
  refine (failsWithin_tableRecord source hget).bind fun record => ?_
  refine (failsWithin_metadataLocation source record).bind fun _ => ?_
  refine (failsWithin_createTableRecord target _ hcreate).bind fun _ => ?_
  refine (failsWithin_dropTable source hdelete).attempt
    (fun _ => c.failsWithin_loadTable target hget) fun cause hcause => ?_
  refine (failsWithin_dropTable target hdelete).attempt
    (fun _ => Action.failsWithin_error hcause) fun rollback hrollback => ?_
  refine Action.failsWithin_error ?_
  intro operation f hf
  rcases List.mem_append.1 hf with hcaused | hrolled
  · exact hcause operation f hcaused
  · exact hrollback operation f hrolled

end Catalog

/-! ### Listings -/

namespace Listing

section Walk

variable {I : Interface} {ε α σ ρ : Type} {fetch : Option String → Program I (Except ε (Page α))}
  {consumer : Consumer ε α σ ρ} {P : Except ε α → Prop} {ends : ρ → Prop}

theorem step_of_feed {s : σ} {items : List α} {answer : ρ}
    (h : feed consumer s items = .enough answer) :
    ∃ s' a, consumer.step s' (.ok a) = .enough answer := by
  induction items generalizing s with
  | nil => cases h
  | cons a items ih =>
      unfold feed at h
      cases hstep : consumer.step s (.ok a) with
      | more s' =>
          rw [hstep] at h
          exact ih h
      | enough answer' =>
          rw [hstep] at h
          exact ⟨s, a, hstep.trans h⟩

/-- **A walk ends** with what the consumer answers to items and to errors of one kind. -/
theorem ends_walk (hfetch : ∀ token, (fetch token).Ends fun r => ∀ e, r = .error e → P (.error e))
    (hitem : ∀ a, P (.ok a))
    (hstep : ∀ s r answer, P r → consumer.step s r = .enough answer → ends answer)
    (hfinish : ∀ s, ends (consumer.finish s)) (budget : Nat) (s : σ) (cursor : Cursor) :
    (walk fetch consumer budget s cursor).Ends ends := by
  induction budget generalizing s cursor with
  | zero =>
      cases cursor with
      | finished => exact hfinish s
      | before token => trivial
  | succ budget ih =>
      cases cursor with
      | finished => exact hfinish s
      | before token =>
          refine Program.ends_bind (hfetch token) ?_
          intro r hr
          cases r with
          | error e =>
              dsimp only
              cases hanswer : consumer.step s (.error e) with
              | more s' => exact hfinish s'
              | enough answer => exact hstep s _ answer (hr e rfl) hanswer
          | ok page =>
              dsimp only
              cases hfed : feed consumer s page.items with
              | more s' => exact ih s' _
              | enough answer =>
                  obtain ⟨s', a, hanswer⟩ := step_of_feed hfed
                  exact hstep s' _ answer (hitem a) hanswer

end Walk

variable {α β : Type} {calls : List String}

/-- What a consumer of listed things answers, it answers to something that is listed. -/
theorem enough_of_comap {σ ρ : Type} {consumer : Consumer CatalogError α σ ρ}
    {listed : Except CatalogError β → Option (Except CatalogError α)} {s : σ}
    {r : Except CatalogError β} {answer : ρ}
    (h : (consumer.comap listed).step s r = .enough answer) :
    ∃ r', listed r = some r' ∧ consumer.step s r' = .enough answer := by
  unfold Consumer.comap at h
  dsimp only at h
  cases hlisted : listed r with
  | none =>
      rw [hlisted] at h
      cases h
  | some r' =>
      rw [hlisted] at h
      exact ⟨r', rfl, h⟩

/-- Collecting ends with an error only when the listing has one. -/
theorem outcomeWithin_of_collect {s : List α} {r : Except CatalogError α}
    {answer : Except CatalogError (List α)} (hr : OutcomeWithin calls r)
    (h : collectConsumer.step s r = .enough answer) : OutcomeWithin calls answer := by
  cases r with
  | ok a => cases h
  | error e =>
      cases h
      intro e' he'
      cases he'
      exact hr e rfl

end Listing

namespace Catalog

variable {calls : List String} (c : Catalog)

theorem outcomeWithin_listedTable {n : NamespaceName} {r : Except CatalogError TableRecord}
    (hr : OutcomeWithin calls r) {r' : Except CatalogError TableName}
    (h : listedTable n r = some r') : OutcomeWithin calls r' := by
  cases r with
  | ok record =>
      cases h
      intro e he
      cases hname : TableName.ofParts n.text record.name with
      | ok name =>
          rw [hname] at he
          cases he
      | error fault =>
          rw [hname] at he
          cases he
          exact .of_failures rfl
  | error e =>
      cases h
      intro e' he'
      cases he'
      exact hr e rfl

theorem outcomeWithin_listedNamespace {r : Except CatalogError DatabaseRecord}
    (hr : OutcomeWithin calls r) {r' : Except CatalogError NamespaceName}
    (h : listedNamespace r = some r') : OutcomeWithin calls r' := by
  cases r with
  | ok record =>
      obtain ⟨name, -, rfl⟩ := Option.map_eq_some_iff.1 h
      exact nofun
  | error e =>
      cases h
      intro e' he'
      cases he'
      exact hr e rfl

theorem ends_fetchTables (n : NamespaceName) (token : Option String) (h : "get_tables" ∈ calls) :
    (fetchTables n token).Ends fun r =>
      ∀ e, r = .error e → OutcomeWithin calls (.error e : Except CatalogError TableRecord) := by
  have hcall := Action.failsWithin_call (c := .getTables n.text token)
    (translates_namespaceFailure n.text rfl) h
  intro reply e he e' he'
  cases he'
  exact hcall.ends reply e he

theorem ends_fetchDatabases (token : Option String) (h : "get_databases" ∈ calls) :
    (fetchDatabases token).Ends fun r =>
      ∀ e, r = .error e → OutcomeWithin calls (.error e : Except CatalogError DatabaseRecord) := by
  have hcall := Action.failsWithin_call (c := .getDatabases token) translates_getDatabases h
  intro reply e he e' he'
  cases he'
  exact hcall.ends reply e he

theorem failsWithin_listTables (n : NamespaceName) (h : "get_tables" ∈ calls) :
    (c.listTables n).FailsWithin calls := by
  constructor
  refine Listing.ends_walk (P := OutcomeWithin calls) (fun token => ends_fetchTables n token h)
    (fun _ => nofun) ?_ (fun _ => nofun) _ _ _
  intro s r answer hr hanswer
  obtain ⟨r', hlisted, hstep⟩ := Listing.enough_of_comap hanswer
  exact Listing.outcomeWithin_of_collect (outcomeWithin_listedTable hr hlisted) hstep

theorem failsWithin_listNamespaces (parent : Option NamespaceName) (h : "get_databases" ∈ calls) :
    (c.listNamespaces parent).FailsWithin calls := by
  cases parent with
  | some n => exact Action.failsWithin_ok []
  | none =>
      constructor
      refine Listing.ends_walk (P := OutcomeWithin calls) (fun token => ends_fetchDatabases token h)
        (fun _ => nofun) ?_ (fun _ => nofun) _ _ _
      intro s r answer hr hanswer
      obtain ⟨r', hlisted, hstep⟩ := Listing.enough_of_comap hanswer
      exact Listing.outcomeWithin_of_collect (outcomeWithin_listedNamespace hr hlisted) hstep

/-- The first result of a listing is an error only when the listing has one. -/
theorem ends_firstTable (n : NamespaceName) (h : "get_tables" ∈ calls) :
    (c.walkTables n Listing.firstConsumer ()).Ends fun o =>
      ∀ r, o = some r → OutcomeWithin calls r := by
  refine Listing.ends_walk (P := OutcomeWithin calls) (fun token => ends_fetchTables n token h)
    (fun _ => nofun) ?_ (fun _ => nofun) _ _ _
  intro s r answer hr hanswer
  obtain ⟨r', hlisted, hstep⟩ := Listing.enough_of_comap hanswer
  cases hstep
  intro r'' hr''
  cases hr''
  exact outcomeWithin_listedTable hr hlisted

theorem failsWithin_dropNamespace (n : NamespaceName) (hlist : "get_tables" ∈ calls)
    (hdelete : "delete_database" ∈ calls) : (c.dropNamespace n).FailsWithin calls := by
  refine Action.FailsWithin.bind ⟨?_⟩ ?_
  · refine Program.ends_bind (c.ends_firstTable n hlist) ?_
    intro o ho
    cases o with
    | none => exact nofun
    | some r =>
        cases r with
        | ok name => exact nofun
        | error e =>
            intro e' he'
            cases he'
            exact ho _ rfl e rfl
  · intro first
    cases first with
    | true => exact Action.failsWithin_error (.of_failures rfl)
    | false => exact Action.failsWithin_call (translates_namespaceFailure n.text rfl) hdelete

end Catalog

namespace Operation

/-- **Nothing translated is handed on**, whatever an operation is given and whatever it is
answered. -/
theorem failsWithin (op : Operation) (c : Catalog) (input : op.Input) :
    (op.action c input).FailsWithin op.calls := by
  cases op with
  | createTable =>
      exact c.failsWithin_createTable _ _ _ (by decide) (by decide) (by decide)
  | loadTable => exact c.failsWithin_loadTable _ (by decide)
  | dropTable => exact Catalog.failsWithin_dropTable _ (by decide)
  | renameTable => exact c.failsWithin_renameTable _ _ (by decide) (by decide) (by decide)
  | tableExists => exact Catalog.failsWithin_tableExists _ (by decide)
  | listTables => exact c.failsWithin_listTables _ (by decide)
  | createNamespace =>
      exact Action.failsWithin_call (Catalog.translates_createDatabase _) List.mem_cons_self
  | dropNamespace => exact c.failsWithin_dropNamespace _ (by decide) (by decide)
  | listNamespaces => exact c.failsWithin_listNamespaces _ (by decide)
  | loadNamespace => exact Catalog.failsWithin_loadNamespace _ (by decide)
  | updateNamespace => exact Catalog.failsWithin_updateNamespace _ _ _ (by decide) (by decide)
  | namespaceExists => exact Catalog.failsWithin_namespaceExists _ (by decide)

end Operation

/-! ### Everything else is handed on -/

namespace Action

variable {α β : Type} {operation : String} {f : Failure}

/-- The action hands on the failure with which every call of one name is refused. -/
def HandsOn (operation : String) (f : Failure) (a : Action α) : Prop :=
  ∃ e, a.perform (deny operation f) () = (some (.error e), ()) ∧ (operation, f) ∈ e.failures

/-- A refused call, when its signal is not translated. -/
theorem perform_call_deny {c : Call} {onError : Failure → CatalogError}
    (ht : Translates operation onError) (hf : f.signal ∉ translated operation)
    (hc : c.operation = operation) :
    (call c onError).perform (deny operation f) ()
      = (some (.error (.metastore operation f)), ()) := by
  have hrefused : (deny operation f).call c () = (.error f, ()) := by
    show ((if c.operation = operation then _ else _), ()) = _
    rw [if_pos hc]
  rw [perform_call_error hrefused, (ht f).2 hf]

theorem handsOn_of_perform {a : Action α}
    (h : a.perform (deny operation f) () = (some (.error (.metastore operation f)), ())) :
    a.HandsOn operation f :=
  ⟨_, h, List.mem_cons_self⟩

theorem handsOn_call {c : Call} {onError : Failure → CatalogError}
    (ht : Translates operation onError) (hf : f.signal ∉ translated operation)
    (hc : c.operation = operation) : (call c onError).HandsOn operation f :=
  handsOn_of_perform (perform_call_deny ht hf hc)

theorem HandsOn.bind {a : Action α} (ha : a.HandsOn operation f) (g : α → Action β) :
    (a >>= g).HandsOn operation f := by
  obtain ⟨e, he, hmem⟩ := ha
  exact ⟨e, perform_bind_error _ he, hmem⟩

theorem HandsOn.after {g : α → Action β} {x : α} (hg : (g x).HandsOn operation f) {a : Action α}
    (ha : a.perform (deny operation f) () = (some (.ok x), ())) :
    (a >>= g).HandsOn operation f := by
  obtain ⟨e, he, hmem⟩ := hg
  exact ⟨e, (perform_bind_ok _ ha).trans he, hmem⟩

end Action

namespace Catalog

variable {f : Failure} (c : Catalog) (n : TableName) (space : NamespaceName)

theorem handsOn_tableRecord (hf : f.signal ∉ translated "get_table") :
    (tableRecord n).HandsOn "get_table" f :=
  Action.handsOn_call (translates_getTable n) hf rfl

theorem handsOn_loadTable (hf : f.signal ∉ translated "get_table") :
    (c.loadTable n).HandsOn "get_table" f :=
  (handsOn_tableRecord n hf).bind _

theorem handsOn_tableExists (hf : f.signal ∉ translated "get_table") :
    (tableExists n).HandsOn "get_table" f := by
  refine Action.handsOn_of_perform ?_
  exact Action.perform_attempt _ (Action.perform_call_deny (translates_getTable n) hf rfl)

theorem handsOn_createTableRecord (record : TableRecord)
    (hf : f.signal ∉ translated "create_table") :
    (createTableRecord n record).HandsOn "create_table" f :=
  Action.handsOn_call (translates_createTable n) hf rfl

theorem handsOn_dropTable (hf : f.signal ∉ translated "delete_table") :
    (dropTable n).HandsOn "delete_table" f :=
  Action.handsOn_call (translates_deleteTable n) hf rfl

theorem perform_loadNamespace_deny (hf : f.signal ∉ translated "get_database") :
    (loadNamespace space).perform (deny "get_database" f) ()
      = (some (.error (.metastore "get_database" f)), ()) :=
  Action.perform_bind_error _
    (Action.perform_call_deny (translates_namespaceFailure space.text rfl) hf rfl)

theorem handsOn_namespaceExists (hf : f.signal ∉ translated "get_database") :
    (namespaceExists space).HandsOn "get_database" f :=
  Action.handsOn_of_perform (Action.perform_attempt _ (perform_loadNamespace_deny space hf))

theorem handsOn_updateDatabase (hf : f.signal ∉ translated "update_database") :
    (updateNamespace space .empty .empty).HandsOn "update_database" f := by
  rw [Site.updateNamespace_eq rfl]
  have hload : (loadNamespace space).perform (deny "update_database" f) ()
      = (some (.ok .empty), ()) := rfl
  refine Action.HandsOn.after ?_ hload
  exact (Action.handsOn_call (translates_namespaceFailure space.text rfl) hf rfl).bind _

/-- Listings that fetch a page meet a refusal on the first. -/
theorem run_fetchTables_deny (token : Option String) (hf : f.signal ∉ translated "get_tables") :
    (fetchTables space token).run (deny "get_tables" f) ()
      = (some (.error (.metastore "get_tables" f)), ()) :=
  Action.perform_call_deny (c := .getTables space.text token)
    (translates_namespaceFailure space.text rfl) hf rfl

theorem handsOn_listTables (hf : f.signal ∉ translated "get_tables") :
    (Site.lake.listTables space).HandsOn "get_tables" f := by
  refine Action.handsOn_of_perform ?_
  show (Program.bind (fetchTables space none) _).run (deny "get_tables" f) () = _
  rw [Program.run_bind, run_fetchTables_deny space none hf]
  rfl

theorem handsOn_listNamespaces (hf : f.signal ∉ translated "get_databases") :
    (Site.lake.listNamespaces none).HandsOn "get_databases" f := by
  have hfetch : (fetchDatabases none).run (deny "get_databases" f) ()
      = (some (.error (.metastore "get_databases" f)), ()) :=
    Action.perform_call_deny (c := .getDatabases none) translates_getDatabases hf rfl
  refine Action.handsOn_of_perform ?_
  show (Program.bind (fetchDatabases none) _).run (deny "get_databases" f) () = _
  rw [Program.run_bind, hfetch]
  rfl

theorem handsOn_dropNamespace_getTables (hf : f.signal ∉ translated "get_tables") :
    (Site.lake.dropNamespace space).HandsOn "get_tables" f := by
  refine Action.HandsOn.bind (Action.handsOn_of_perform ?_) _
  show (Program.bind (Program.bind (fetchTables space none) _) _).run (deny "get_tables" f) () = _
  rw [Program.run_bind, Program.run_bind, run_fetchTables_deny space none hf]
  rfl

theorem handsOn_dropNamespace_deleteDatabase (hf : f.signal ∉ translated "delete_database") :
    (Site.lake.dropNamespace space).HandsOn "delete_database" f := by
  have hdelete : (Action.call (.deleteDatabase space.text)
      (namespaceFailure space.text "delete_database")).HandsOn "delete_database" f :=
    Action.handsOn_call (translates_namespaceFailure space.text rfl) hf rfl
  exact hdelete

/-- The place of the table is asked for first. -/
theorem handsOn_createTable_getDatabase (fresh : Fresh)
    (hf : f.signal ∉ translated "get_database") :
    (c.createTable fresh n Site.bareTable).HandsOn "get_database" f := by
  rw [createTable_eq]
  exact (Action.handsOn_of_perform
    (Action.perform_bind_error _ (perform_loadNamespace_deny n.space hf))).bind _

/-- A table with a place of its own is written before a question to the metastore is asked. -/
theorem handsOn_createTable_placed {operation : String}
    (h : (createTableRecord n (.ofMetadata n.table
      (Metadata.fileLocation Site.firstIds.fileId "s3://w/t") .empty) >>= fun _ =>
        c.loadTable n).HandsOn operation f) :
    (c.createTable Site.firstIds n Site.placedTable).HandsOn operation f := by
  have hlocation : (c.tableLocation n Site.placedTable).perform (deny operation f) ()
      = (some (.ok "s3://w/t"), ()) := rfl
  have hpath : Objects.pathOf (Metadata.fileLocation Site.firstIds.fileId "s3://w/t")
      = .ok "t/metadata/00000-11111111-1111-1111-1111-111111111111.metadata.json" := by
    decide +kernel
  have hwrite := perform_writeMetadata (deny operation f) Site.firstIds Site.placedTable
    "s3://w/t" hpath ()
  rw [createTable_eq]
  refine Action.HandsOn.after ?_ hlocation
  exact Action.HandsOn.after (x := ()) h hwrite

theorem handsOn_renameTable_createTable (source target : TableName)
    (hf : f.signal ∉ translated "create_table") :
    (c.renameTable source target).HandsOn "create_table" f := by
  have hrecord : (tableRecord source).perform (deny "create_table" f) ()
      = (some (.ok (.ofMetadata source.table "s3://w/m.json" .empty)), ()) := rfl
  have hlocation : (Action.ofExcept ((TableRecord.ofMetadata source.table "s3://w/m.json"
      .empty).metadataLocation source)).perform (deny "create_table" f) ()
      = (some (.ok "s3://w/m.json"), ()) := rfl
  refine Action.HandsOn.after ?_ hrecord
  refine Action.HandsOn.after ?_ hlocation
  exact (handsOn_createTableRecord target _ hf).bind _

/-- The rename meets the failure twice, and hands both on. -/
theorem handsOn_renameTable_deleteTable (source target : TableName)
    (hf : f.signal ∉ translated "delete_table") :
    (c.renameTable source target).HandsOn "delete_table" f := by
  have hdrop : ∀ n, (dropTable n).perform (deny "delete_table" f) ()
      = (some (.error (.metastore "delete_table" f)), ()) :=
    fun n => Action.perform_call_deny (translates_deleteTable n) hf rfl
  have hlast : (RenameCall.dropSource ⟨c, source, target⟩).perform (deny "delete_table" f) ()
      = (some (.error (.manualInterventionRequired source.toText target.toText
          (.metastore "delete_table" f) (.metastore "delete_table" f))), ()) := by
    unfold RenameCall.dropSource
    rw [Action.perform_attempt _ (hdrop source)]
    exact Action.perform_attempt _ (hdrop target)
  exact ⟨_, hlast, List.mem_cons_self⟩

end Catalog

namespace Operation

/-- **Every other signal is handed on** by an operation that makes the call. -/
theorem handsOn (op : Operation) {operation : String} {f : Failure} (hcall : operation ∈ op.calls)
    (hf : f.signal ∉ translated operation) :
    ∃ c input, (op.action c input).HandsOn operation f := by
  cases op with
  | createTable =>
      rcases List.mem_cons.1 hcall with rfl | hcall
      · exact ⟨Site.lake, (Site.firstIds, longName, Site.bareTable),
          Catalog.handsOn_createTable_getDatabase _ _ _ hf⟩
      refine ⟨Site.lake, (Site.firstIds, longName, Site.placedTable),
        Catalog.handsOn_createTable_placed _ _ ?_⟩
      rcases List.mem_cons.1 hcall with rfl | hcall
      · exact (Catalog.handsOn_createTableRecord _ _ hf).bind _
      · obtain rfl := List.mem_singleton.1 hcall
        exact Action.HandsOn.after (x := ()) (Catalog.handsOn_loadTable _ _ hf) rfl
  | loadTable =>
      obtain rfl := List.mem_singleton.1 hcall
      exact ⟨Site.lake, longName, Catalog.handsOn_loadTable _ _ hf⟩
  | dropTable =>
      obtain rfl := List.mem_singleton.1 hcall
      exact ⟨Site.lake, longName, Catalog.handsOn_dropTable _ hf⟩
  | renameTable =>
      rcases List.mem_cons.1 hcall with rfl | hcall
      · exact ⟨Site.lake, (longName, longName), (Catalog.handsOn_tableRecord _ hf).bind _⟩
      rcases List.mem_cons.1 hcall with rfl | hcall
      · exact ⟨Site.lake, (longName, longName), Catalog.handsOn_renameTable_createTable _ _ _ hf⟩
      · obtain rfl := List.mem_singleton.1 hcall
        exact ⟨Site.lake, (longName, longName), Catalog.handsOn_renameTable_deleteTable _ _ _ hf⟩
  | tableExists =>
      obtain rfl := List.mem_singleton.1 hcall
      exact ⟨Site.lake, longName, Catalog.handsOn_tableExists _ hf⟩
  | listTables =>
      obtain rfl := List.mem_singleton.1 hcall
      exact ⟨Site.lake, longName.space, Catalog.handsOn_listTables _ hf⟩
  | createNamespace =>
      obtain rfl := List.mem_singleton.1 hcall
      exact ⟨Site.lake, (longName.space, .empty),
        Action.handsOn_call (Catalog.translates_createDatabase _) hf rfl⟩
  | dropNamespace =>
      rcases List.mem_cons.1 hcall with rfl | hcall
      · exact ⟨Site.lake, longName.space, Catalog.handsOn_dropNamespace_getTables _ hf⟩
      · obtain rfl := List.mem_singleton.1 hcall
        exact ⟨Site.lake, longName.space, Catalog.handsOn_dropNamespace_deleteDatabase _ hf⟩
  | listNamespaces =>
      obtain rfl := List.mem_singleton.1 hcall
      exact ⟨Site.lake, none, Catalog.handsOn_listNamespaces hf⟩
  | loadNamespace =>
      obtain rfl := List.mem_singleton.1 hcall
      exact ⟨Site.lake, longName.space,
        Action.handsOn_of_perform (Catalog.perform_loadNamespace_deny _ hf)⟩
  | updateNamespace =>
      rcases List.mem_cons.1 hcall with rfl | hcall
      · refine ⟨Site.lake, (longName.space, .empty, .empty), ?_⟩
        exact Action.HandsOn.bind
          (Action.handsOn_of_perform (Catalog.perform_loadNamespace_deny longName.space hf)) _
      · obtain rfl := List.mem_singleton.1 hcall
        exact ⟨Site.lake, (longName.space, .empty, .empty), Catalog.handsOn_updateDatabase _ hf⟩
  | namespaceExists =>
      obtain rfl := List.mem_singleton.1 hcall
      exact ⟨Site.lake, longName.space, Catalog.handsOn_namespaceExists _ hf⟩

/-- **Which failures of a metastore come through.**  An operation, given anything and answered
anything, may end with an error that hands on a failed call, as it is or inside a failed rename,
exactly when it makes the call and the signal of the failure is not translated there.  So `service`
always comes through, which is translated nowhere; and so does the refusal of a name, in every call
that is about one table or creates a database. -/
theorem handed_on_iff (op : Operation) (operation : String) (f : Failure) :
    (∃ (c : Catalog) (input : op.Input) (σ : Type) (h : Handler Backend σ) (s s' : σ)
        (e : CatalogError), (op.action c input).perform h s = (some (.error e), s') ∧
          (operation, f) ∈ e.failures) ↔
      operation ∈ op.calls ∧ f.signal ∉ translated operation := by
  constructor
  · rintro ⟨c, input, σ, h, s, s', e, hperform, hmem⟩
    exact (op.failsWithin c input).ends.run hperform e rfl operation f hmem
  · rintro ⟨hcall, hf⟩
    obtain ⟨c, input, e, hperform, hmem⟩ := op.handsOn hcall hf
    exact ⟨c, input, Unit, deny operation f, (), (), e, hperform, hmem⟩

end Operation

/-! ### A signal that comes through -/

namespace Site

/-- A metastore in memory refuses to look up a name that is too long, and loading a table of the
name hands this on. -/
theorem perform_loadTable_long (c : Catalog) {n : TableName} (hlong : ¬Registry.Short n.table)
    (s : Site) : (c.loadTable n).perform answer s
      = (some (.error (.metastore "get_table" (Memory.invalidName "Table" n.table))), s) := by
  have hget : s.metastore.getTable n.space.text n.table
      = .error (Memory.invalidName "Table" n.table) := by
    unfold Memory.getTable
    rw [Memory.checkName_of_long n.isSegment hlong]
    rfl
  have hcall : Handler.call answer (.getTable n.space.text n.table) s
      = (.error (Memory.invalidName "Table" n.table), s) := by
    show (s.metastore.getTable n.space.text n.table, s) = _
    rw [hget]
  exact Action.perform_bind_error answer (Action.perform_call_error hcall)

end Site

/-- **A signal that comes through**: with a metastore in memory that has a namespace `db`, loading
the table of a name of 256 letters there ends with a failed call whose signal is that of a refused
name. -/
theorem invalidInput_handed_on :
    ∃ f, (Operation.loadTable.action Site.lake longName).perform Site.answer Site.firstSite
        = (some (.error (.metastore "get_table" f)), Site.firstSite) ∧
      f.signal = .invalidInput ∧ f.signal ≠ .service :=
  ⟨_, Site.perform_loadTable_long Site.lake not_short_longName Site.firstSite, rfl, by decide⟩

end LakeCatalog
