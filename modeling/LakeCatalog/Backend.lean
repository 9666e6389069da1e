import LakeCatalog.Error
import LakeCatalog.Metastore.Call
import LakeCatalog.Program
import LakeCatalog.Table.Metadata

/-!
# The backend of the catalog

The catalog talks to a metastore and to an object store.  An `Action` is a program over the two
that ends with a result or with an error of the catalog.

* `Backend` — the questions to the two stores;
* `Action.call` — one call to the metastore, whose failure is put into the catalog's terms;
* `Objects.read`, `Objects.write` — the content of an object at a location;
* `Objects.readMetadata`, `Objects.writeMetadata` — a metadata file at a location.
-/

namespace LakeCatalog

open Metastore (Call Failure)

/-- A question to the metastore or to the object store. -/
inductive BackendQuery where
  | metastore (c : Call)
  | put (path : String) (data : ByteArray)
  | get (path : String)

namespace BackendQuery

/-- What a question is answered with. -/
abbrev Reply : BackendQuery → Type
  | metastore c => c.Reply
  | put .. => Except StoreError Unit
  | get _ => Except StoreError ByteArray

end BackendQuery

/-- The questions to the two stores and their answers. -/
abbrev Backend : Interface := ⟨BackendQuery, BackendQuery.Reply⟩

/-- A program over the two stores that may fail. -/
abbrev Action (α : Type) := ExceptT CatalogError (Program Backend) α

namespace Action

variable {α β : Type}

/-- The action of a program whose outcome is known. -/
def ofProgram (p : Program Backend (Except CatalogError α)) : Action α := ExceptT.mk p

/-- The action that asks one question and puts a failure into other terms. -/
def ask {ε : Type} (q : BackendQuery) (f : q.Reply → Except ε α) (onError : ε → CatalogError) :
    Action α :=
  ofProgram (.ask q fun r => .done ((f r).mapError onError))

/-- One call to the metastore. -/
def call (c : Call) (onError : Failure → CatalogError) : Action c.Answer :=
  ask (.metastore c) id onError

/-- The action that ends at once. -/
def ofExcept (r : Except CatalogError α) : Action α := ofProgram (.done r)

/-- Runs an action and goes on with its outcome, whether it is a result or an error. -/
def attempt (a : Action α) (next : Except CatalogError α → Action β) : Action β :=
  ofProgram (Program.bind a.run fun r => (next r).run)

end Action

namespace Objects

/-- The path of the object at a location. -/
def pathOf (location : String) : Except CatalogError String :=
  (ObjectPath.ofLocation location).mapError (CatalogError.ofLocation location)

/-- The content of the object at a location. -/
def read (location : String) : Action ByteArray := do
  let path ← Action.ofExcept (pathOf location)
  Action.ask (.get path) id (CatalogError.objectStore location)

/-- Writes the object at a location. -/
def write (location : String) (data : ByteArray) : Action Unit := do
  let path ← Action.ofExcept (pathOf location)
  Action.ask (.put path data) id (CatalogError.objectStore location)

/-- The state in the metadata file at a location. -/
def readMetadata (location : String) : Action Metadata := do
  let data ← read location
  Action.ofExcept <| match Metadata.read? data with
    | some m => .ok m
    | none => .error (.metadata location)

/-- Writes the metadata file of a state. -/
def writeMetadata (m : Metadata) (location : String) : Action Unit :=
  match m.write? with
  | some data => write location data
  | none => Action.ofExcept (.error (.metadata location))

end Objects

end LakeCatalog
