import LakeCatalog.Proofs.Create
import LakeCatalog.Proofs.DropRace
import LakeCatalog.Proofs.RenameRace

/-!
# What removes a registration

Of all calls to the metastore only two remove a registration: dropping a table, and dropping a
database with what is in it.  Of the requests that are not to drop anything only renames make one of
them, which they do in two places: behind the copy, and to take the copy back.

* `BackendQuery.RemovesNothing`, `record?_respond` — the other calls, and that they keep every
  record;
* `Program.Keeps` — a program that asks for nothing else;
* `Program.Moves`, `Copies`, `Clears`, `Undoes` — what is left of a rename, from its first question
  to its last;
* `Request.moves_or_keeps` — a request that drops nothing is a rename or removes nothing.
-/

namespace LakeCatalog

open Metastore (Call DatabaseState Failure Memory)

/-! ### Questions that remove nothing -/

/-- Questions with which neither a table nor a database is removed. -/
def BackendQuery.RemovesNothing : BackendQuery → Prop
  | .metastore (.deleteTable ..) => False
  | .metastore (.deleteDatabase _) => False
  | _ => True

theorem BackendQuery.IsRead.removesNothing {q : BackendQuery} (hq : q.IsRead) :
    q.RemovesNothing := by
  cases q with
  | get path => exact trivial
  | put path data => exact trivial
  | metastore c =>
      cases c with
      | deleteTable database t => exact absurd hq id
      | deleteDatabase name => exact absurd hq id
      | _ => exact trivial

namespace Metastore.Memory

variable {m m' : Memory} {n : TableName} {r : TableRecord} {name : String}

/-- A table that is added had no record before. -/
theorem free_of_createTable {d : DatabaseState} {r : TableRecord}
    (h : m.createTable name r = .ok m') (hd : m.databases.get? name = some d) :
    d.tables.get? r.name = none := by
  unfold createTable at h
  rw [database_of_get? hd] at h
  cases hc : checkName "Table" r.name with
  | error f =>
      rw [hc] at h
      cases h
  | ok _ =>
      rw [hc] at h
      cases ht : d.tables.contains r.name with
      | true =>
          simp only [bind, Except.bind, ht] at h
          cases h
      | false =>
          rw [OrderedMap.contains_eq] at ht
          exact Option.not_isSome_iff_eq_none.1 (Bool.eq_false_iff.1 ht)

/-- A database that is created was not there before. -/
theorem absent_of_createDatabase {record : DatabaseRecord} (h : m.createDatabase record = .ok m') :
    m.databases.get? record.name = none := by
  unfold createDatabase at h
  cases hc : checkName "Database" record.name with
  | error f =>
      rw [hc] at h
      cases h
  | ok _ =>
      rw [hc] at h
      cases hheld : m.databases.contains record.name with
      | true =>
          simp only [bind, Except.bind, hheld] at h
          cases h
      | false =>
          rw [OrderedMap.contains_eq] at hheld
          exact Option.not_isSome_iff_eq_none.1 (Bool.eq_false_iff.1 hheld)

/-- A database that is set with all the tables that it has keeps each record. -/
theorem record?_setDatabase {d' : DatabaseState} (hr : m.record? n = some r)
    (hd' : ∀ d, m.databases.get? name = some d → n.space.text = name →
      d.tables.get? n.table = some r → d'.tables.get? n.table = some r) :
    (m.setDatabase name d').record? n = some r := by
  obtain ⟨d, hd, ht⟩ := exists_of_record? hr
  unfold record?
  rw [get?_setDatabase]
  by_cases hname : name = n.space.text
  · rw [if_pos hname]
    rw [← hname] at hd
    exact hd' d hd hname.symm ht
  · rw [if_neg hname]
    exact hr

/-- **What is registered stays registered**, by any call that removes nothing. -/
theorem record?_respond {c : Call} (hc : (BackendQuery.metastore c).RemovesNothing)
    (hr : m.record? n = some r) : (m.respond c).2.record? n = some r := by
  cases c with
  | getTable database t => exact hr
  | getTables database token => exact hr
  | getDatabase name => exact hr
  | getDatabases token => exact hr
  | deleteTable database t => exact absurd hc id
  | deleteDatabase name => exact absurd hc id
  | createTable database added =>
      refine changed_cases (P := fun m' => m'.record? n = some r) hr ?_
      intro m' h
      obtain ⟨d, hd, rfl⟩ := createTable_ok h
      refine record?_setDatabase hr ?_
      intro d' hd' _ ht
      rw [hd, Option.some.injEq] at hd'
      subst hd'
      have hne : added.name ≠ n.table := by
        intro hsame
        have hfree := free_of_createTable h hd
        rw [hsame, ht] at hfree
        cases hfree
      exact (OrderedMap.get?_insert_of_ne _ hne).trans ht
  | createDatabase record =>
      refine changed_cases (P := fun m' => m'.record? n = some r) hr ?_
      intro m' h
      obtain ⟨-, rfl⟩ := createDatabase_ok h
      refine record?_setDatabase hr ?_
      intro d hd _ _
      rw [absent_of_createDatabase h] at hd
      cases hd
  | updateDatabase name record =>
      refine changed_cases (P := fun m' => m'.record? n = some r) hr ?_
      intro m' h
      obtain ⟨d, hd, rfl⟩ := updateDatabase_ok h
      refine record?_setDatabase hr ?_
      intro d' hd' _ ht
      rw [hd, Option.some.injEq] at hd'
      subst hd'
      exact ht

end Metastore.Memory

theorem Site.record?_answer {s : Site} {q : BackendQuery} (hq : q.RemovesNothing) {n : TableName}
    {r : TableRecord} (hr : s.metastore.record? n = some r) :
    (Site.answer q s).2.metastore.record? n = some r := by
  cases q with
  | metastore c => exact Memory.record?_respond hq hr
  | put path data => exact hr
  | get path => exact hr

/-! ### What is left of a request -/

namespace Program

variable {α β : Type}

/-- The program asks for nothing that removes a table or a database. -/
structure Keeps (p : Program Backend α) : Prop where
  conforms : p.Conforms BackendQuery.RemovesNothing fun _ => True

theorem keeps_done (a : α) : Keeps (.done a) := ⟨trivial⟩

/-- What is left of a rename that takes its copy back. -/
def Undoes (target : TableName) (p : Program Backend α) : Prop :=
  ∃ next, p = .ask (.metastore (.deleteTable target.space.text target.table)) next ∧
    ∀ reply, (next reply).Keeps

/-- What is left of a rename that has registered its copy. -/
def Clears (source target : TableName) (p : Program Backend α) : Prop :=
  ∃ next, p = .ask (.metastore (.deleteTable source.space.text source.table)) next ∧
    (next (.ok ())).Keeps ∧ ∀ f, (next (.error f)).Undoes target

/-- What is left of a rename that has found its source. -/
def Copies (source target : TableName) (r : TableRecord) (p : Program Backend α) : Prop :=
  ∃ next, p = .ask (.metastore (.createTable target.space.text (r.renamed target.table))) next ∧
    (next (.ok ())).Clears source target ∧ ∀ f, (next (.error f)).Keeps

/-- The program of a rename. -/
def Moves (source target : TableName) (p : Program Backend α) : Prop :=
  ∃ next, p = .ask (.metastore (.getTable source.space.text source.table)) next ∧
    (∀ r, (next (.ok r)).Copies source target r ∨ (next (.ok r)).Keeps) ∧
      ∀ f, (next (.error f)).Keeps

/-- The program asks next to remove a table. -/
def Removes (p : Program Backend α) : Prop :=
  ∃ database t next, p = .ask (.metastore (.deleteTable database t)) next

theorem Keeps.not_removes {p : Program Backend α} (hp : p.Keeps) : ¬p.Removes := by
  rintro ⟨database, t, next, rfl⟩
  exact hp.conforms.1

theorem Copies.not_removes {source target : TableName} {r : TableRecord} {p : Program Backend α}
    (hp : p.Copies source target r) : ¬p.Removes := by
  obtain ⟨next, rfl, -⟩ := hp
  rintro ⟨database, t, next', hnext'⟩
  cases hnext'

/-- Who is about to register a copy goes on to remove something. -/
theorem Copies.not_keeps {source target : TableName} {r : TableRecord} {p : Program Backend α}
    (hp : p.Copies source target r) : ¬p.Keeps := by
  obtain ⟨next, rfl, ⟨next', hnext', -⟩, -⟩ := hp
  intro hkeeps
  have hlater : (next (.ok ())).Keeps := ⟨hkeeps.conforms.2 _⟩
  exact hlater.not_removes ⟨_, _, _, hnext'⟩

theorem Keeps.bind {p : Program Backend α} (hp : p.Keeps) {f : α → Program Backend β}
    (hf : ∀ a, (f a).Keeps) : (p.bind f).Keeps :=
  ⟨conforms_bind hp.conforms fun a _ => (hf a).conforms⟩

theorem Conforms.keeps {p : Program Backend α} {ends : α → Prop}
    (hp : p.Conforms BackendQuery.IsRead ends) : p.Keeps := by
  induction p with
  | done a => exact keeps_done a
  | exhausted => exact absurd hp id
  | ask q next ih =>
      exact ⟨hp.1.removesNothing, fun reply => (ih reply (hp.2 reply)).conforms⟩

variable {source target : TableName} {r : TableRecord} {p : Program Backend α}
  {f : α → Program Backend β}

/-- What is done with the result of a rename makes no difference, as long as it removes nothing. -/
theorem Undoes.bind (hp : p.Undoes target) (hf : ∀ a, (f a).Keeps) : (p.bind f).Undoes target := by
  obtain ⟨next, rfl, hnext⟩ := hp
  exact ⟨_, rfl, fun reply => (hnext reply).bind hf⟩

theorem Clears.bind (hp : p.Clears source target) (hf : ∀ a, (f a).Keeps) :
    (p.bind f).Clears source target := by
  obtain ⟨next, rfl, hok, herror⟩ := hp
  exact ⟨_, rfl, hok.bind hf, fun e => (herror e).bind hf⟩

theorem Copies.bind (hp : p.Copies source target r) (hf : ∀ a, (f a).Keeps) :
    (p.bind f).Copies source target r := by
  obtain ⟨next, rfl, hok, herror⟩ := hp
  exact ⟨_, rfl, hok.bind hf, fun e => (herror e).bind hf⟩

theorem Moves.bind (hp : p.Moves source target) (hf : ∀ a, (f a).Keeps) :
    (p.bind f).Moves source target := by
  obtain ⟨next, rfl, hok, herror⟩ := hp
  refine ⟨_, rfl, ?_, fun e => (herror e).bind hf⟩
  intro r
  rcases hok r with hcopies | hkeeps
  · exact Or.inl (hcopies.bind hf)
  · exact Or.inr (hkeeps.bind hf)

end Program

/-- An action removes nothing when its parts remove nothing. -/
theorem Action.keeps_bind {α β : Type} {a : Action α} {f : α → Action β}
    (ha : Program.Keeps a.run) (hf : ∀ x, Program.Keeps (f x).run) :
    Program.Keeps (a >>= f).run :=
  ⟨Action.conforms_bind (fun _ => True) ha.conforms (fun _ _ => trivial) fun x _ =>
    (hf x).conforms⟩

theorem Action.keeps_ask {α ε : Type} {q : BackendQuery} {f : q.Reply → Except ε α}
    {onError : ε → CatalogError} (hq : q.RemovesNothing) :
    Program.Keeps (Action.ask q f onError).run :=
  ⟨Action.conforms_ask hq fun _ => trivial⟩

namespace Catalog

theorem keeps_loadTable (c : Catalog) (n : TableName) : Program.Keeps (c.loadTable n).run :=
  Program.Conforms.keeps (loadTable_conforms c n)

theorem undoes_rollBackRename (source target : TableName) (cause : CatalogError) :
    Program.Undoes target (rollBackRename source target cause).run := by
  refine ⟨_, rfl, ?_⟩
  intro reply
  cases reply with
  | ok _ => exact Program.keeps_done _
  | error f => exact Program.keeps_done _

theorem clears_dropSource (x : RenameCall) :
    Program.Clears x.source x.target x.dropSource.run :=
  ⟨_, rfl, keeps_loadTable x.catalog x.target,
    fun _ => undoes_rollBackRename x.source x.target _⟩

theorem moves_renameTable (x : RenameCall) : x.program.Moves x.source x.target := by
  rw [x.program_eq]
  refine ⟨_, rfl, ?_, fun _ => Program.keeps_done _⟩
  intro r
  show Program.Copies _ _ _ (Action.ofExcept (r.metadataLocation x.source) >>= fun _ =>
      x.register r).run ∨
    Program.Keeps (Action.ofExcept (r.metadataLocation x.source) >>= fun _ => x.register r).run
  cases r.metadataLocation x.source with
  | error e => exact Or.inr (Program.keeps_done _)
  | ok location =>
      exact Or.inl ⟨_, rfl, clears_dropSource x, fun _ => Program.keeps_done _⟩

end Catalog

theorem Objects.keeps_writeMetadata (m : Metadata) (location : String) :
    Program.Keeps (writeMetadata m location).run := by
  unfold writeMetadata
  cases m.write? with
  | none => exact Program.keeps_done _
  | some data =>
      refine Action.keeps_bind ?_ fun _ => Action.keeps_ask trivial
      cases pathOf location with
      | error e => exact Program.keeps_done _
      | ok path => exact Program.keeps_done _

namespace Request

/-- The request is to drop neither a table nor a namespace. -/
def DropsNothing : Request → Prop
  | dropTable _ | dropNamespace _ => False
  | _ => True

variable (c : Catalog)

theorem keeps_createTable (fresh : Fresh) (n : TableName) (creation : TableCreation) :
    Program.Keeps ((createTable fresh n creation).action c).run := by
  show Program.Keeps (c.createTable fresh n creation >>= fun t => pure t.receipt).run
  rw [Catalog.createTable_eq]
  refine Action.keeps_bind ?_ fun _ => Program.keeps_done _
  refine Action.keeps_bind (Program.Conforms.keeps (c.tableLocation_conforms n creation)) ?_
  intro place
  unfold Catalog.createAt
  refine Action.keeps_bind (Objects.keeps_writeMetadata _ _) fun _ => ?_
  exact Action.keeps_bind (Action.keeps_ask trivial) fun _ => c.keeps_loadTable n

theorem keeps_updateNamespace (n : NamespaceName) (removals : KeySet) (updates : Properties) :
    Program.Keeps ((updateNamespace n removals updates).action c).run := by
  refine Action.keeps_bind ?_ fun _ => Program.keeps_done _
  unfold Catalog.updateNamespace
  split
  · exact Program.keeps_done _
  · refine Action.keeps_bind ?_ ?_
    · exact Action.keeps_bind (Action.keeps_ask trivial) fun _ => Program.keeps_done _
    · intro properties
      exact Action.keeps_bind (Action.keeps_ask trivial) fun _ => Program.keeps_done _

theorem moves_renameTable (source target : TableName) :
    Program.Moves source target ((renameTable source target).action c).run := by
  refine Program.Moves.bind (Catalog.moves_renameTable ⟨c, source, target⟩) ?_
  intro outcome
  cases outcome with
  | ok t => exact Program.keeps_done _
  | error e => exact Program.keeps_done _

/-- **What a request asks that drops nothing**: it is a rename, or removes nothing at all. -/
theorem moves_or_keeps {request : Request} (h : request.DropsNothing) :
    (∃ source target, request = .renameTable source target ∧
      Program.Moves source target (request.action c).run) ∨
    Program.Keeps (request.action c).run := by
  cases request with
  | createNamespace n properties =>
      exact Or.inr (Action.keeps_bind (Action.keeps_ask trivial) fun _ => Program.keeps_done _)
  | updateNamespace n removals updates =>
      exact Or.inr (keeps_updateNamespace c n removals updates)
  | createTable fresh n creation => exact Or.inr (keeps_createTable c fresh n creation)
  | renameTable source target => exact Or.inl ⟨_, _, rfl, moves_renameTable c source target⟩
  | dropTable n => exact absurd h id
  | dropNamespace n => exact absurd h id

end Request

end LakeCatalog
