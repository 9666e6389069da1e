import LakeCatalog.Proofs.Removals

/-!
# What has been registered when a creation returns

A creation does not return a table before it has registered one, whatever it is told on the way and
whatever happens between its questions.

* `Program.Registers` — a program that cannot end well without;
* `Registers.bind`, `registers_behind` — such a program with others behind and before it;
* `Request.registers_createTable` — every creation is one.
-/

namespace LakeCatalog

open Metastore (Failure)

namespace TableRecord

/-- The record is one of a table of this catalog, with its metadata at a location. -/
def LeadsTo (location : String) (r : TableRecord) : Prop :=
  ∃ n, r.metadataLocation n = .ok location

end TableRecord

/-- Before the program ends without an error, it registers under a name a record with a property. -/
inductive Program.Registers {α : Type} (n : TableName) (P : TableRecord → Prop) :
    Program Backend (Except CatalogError α) → Prop
  | refused (e : CatalogError) : Registers n P (.done (.error e))
  | exhausted : Registers n P .exhausted
  /-- Whatever the answer is, the record is still to be registered. -/
  | asks {q : BackendQuery} {next : q.Reply → Program Backend (Except CatalogError α)}
      (hnext : ∀ reply, Registers n P (next reply)) : Registers n P (.ask q next)
  /-- The record is registered now, or this is refused. -/
  | registers {r : TableRecord}
      {next : Except Failure Unit → Program Backend (Except CatalogError α)}
      (hname : r.name = n.table) (hP : P r) (hrefused : ∀ f, Registers n P (next (.error f))) :
      Registers n P (.ask (.metastore (.createTable n.space.text r)) next)

namespace Program

variable {α β : Type} {n : TableName} {P : TableRecord → Prop}
  {f : Except CatalogError α → Program Backend (Except CatalogError β)}

/-- What comes behind a program that registers the record can leave this to it. -/
theorem Registers.bind {p : Program Backend (Except CatalogError α)} (hp : p.Registers n P)
    (hf : ∀ e, (f (.error e)).Registers n P) : (p.bind f).Registers n P := by
  induction hp with
  | refused e => exact hf e
  | exhausted => exact .exhausted
  | asks hnext ih => exact .asks ih
  | registers hname hP hrefused ih => exact .registers hname hP ih

/-- What comes before a program that registers the record makes no difference. -/
theorem registers_behind (p : Program Backend (Except CatalogError α))
    (hf : ∀ outcome, (f outcome).Registers n P) : (p.bind f).Registers n P := by
  induction p with
  | done outcome => exact hf outcome
  | exhausted => exact .exhausted
  | ask q next ih => exact .asks ih

end Program

namespace Action

variable {α β : Type} {n : TableName} {P : TableRecord → Prop}

theorem registers_bind {a : Action α} (ha : Program.Registers n P a.run) (f : α → Action β) :
    Program.Registers n P (a >>= f).run :=
  Program.Registers.bind ha fun e => .refused e

theorem registers_behind (a : Action α) {f : α → Action β}
    (hf : ∀ x, Program.Registers n P (f x).run) : Program.Registers n P (a >>= f).run := by
  refine Program.registers_behind a.run ?_
  intro outcome
  cases outcome with
  | ok x => exact hf x
  | error e => exact .refused e

end Action

/-- **A creation registers a table before it returns one**, with a record that leads to a metadata
file with the id of the creation. -/
theorem Request.registers_createTable (c : Catalog) (fresh : Fresh) (n : TableName)
    (creation : TableCreation) :
    Program.Registers n (fun r => ∃ place, r.LeadsTo (Metadata.fileLocation fresh.fileId place))
      ((createTable fresh n creation).action c).run := by
  show Program.Registers n _ (c.createTable fresh n creation >>= fun t => pure t.receipt).run
  refine Action.registers_bind ?_ _
  rw [Catalog.createTable_eq]
  refine Action.registers_behind _ fun place => ?_
  refine Action.registers_behind _ fun _ => ?_
  refine Action.registers_bind (.registers rfl ⟨place, n, ?_⟩ fun f => .refused _) _
  exact Catalog.metadataLocation_ofMetadata n n.table _ creation.properties

end LakeCatalog
