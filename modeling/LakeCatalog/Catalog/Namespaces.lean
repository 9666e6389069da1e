import LakeCatalog.Catalog.Basic

/-!
# Operations on namespaces

A namespace is one database of the metastore.  Its properties are kept as described in
`LakeCatalog.Catalog.Records`; an update removes some keys, sets others, and writes the whole
back.

Databases whose names are no names of flat namespaces are left out of listings.
-/

namespace LakeCatalog

open Metastore (Call Failure)

/-- The keys that an update concerned: removed, set, and asked to be removed but not there.
Each list is sorted. -/
structure UpdateSummary where
  removed : List String := []
  updated : List String := []
  missing : List String := []
deriving DecidableEq

/-- A set of keys. -/
abbrev KeySet := SortedMap String Unit

/-- The set of some keys. -/
def KeySet.ofList (ks : List String) : KeySet := SortedMap.ofList (ks.map (·, ()))

namespace Catalog

/-- A failure that is about a database: one that is not there, or whose name is refused, is no
namespace. -/
def namespaceFailure (space : String) (operation : String) (f : Failure) : CatalogError :=
  match f.signal with
  | .entityNotFound | .invalidInput => .noSuchNamespace space
  | _ => .metastore operation f

/-- A failure to create a database. -/
def createNamespaceFailure (space : String) (f : Failure) : CatalogError :=
  match f.signal with
  | .alreadyExists => .namespaceAlreadyExists space
  | _ => .metastore "create_database" f

/-- Creates a namespace with some properties. -/
def createNamespace (n : NamespaceName) (properties : Properties) : Action Unit :=
  Action.call (.createDatabase (.ofProperties n.text properties))
    (createNamespaceFailure n.text)

/-- The properties of a namespace. -/
def loadNamespace (n : NamespaceName) : Action Properties := do
  let record ← Action.call (.getDatabase n.text) (namespaceFailure n.text "get_database")
  pure record.properties

/-- Whether there is a namespace. -/
def namespaceExists (n : NamespaceName) : Action Bool :=
  (loadNamespace n).attempt fun
    | .ok _ => pure true
    | .error (.noSuchNamespace _) => pure false
    | .error e => throw e

/-! ### Updates -/

/-- The keys that are to be removed and set at once. -/
def overlap (removals : KeySet) (updates : Properties) : List String :=
  removals.keys.filter updates.contains

/-- The properties without the removed keys and with the updates. -/
def applyUpdate (removals : KeySet) (updates properties : Properties) : Properties :=
  updates.entries.foldl (fun p e => p.insert e.1 e.2)
    (removals.keys.foldl (fun p k => p.erase k) properties)

/-- What an update does to some properties. -/
def summarize (removals : KeySet) (updates properties : Properties) : UpdateSummary where
  removed := removals.keys.filter properties.contains
  updated := updates.keys
  missing := removals.keys.filter fun k => !properties.contains k

/-- Removes some properties of a namespace and sets others; no key may be in both. -/
def updateNamespace (n : NamespaceName) (removals : KeySet) (updates : Properties) :
    Action UpdateSummary := do
  if overlap removals updates ≠ [] then
    throw (.ambiguousUpdate n.text (overlap removals updates))
  let properties ← loadNamespace n
  let record := DatabaseRecord.ofProperties n.text (applyUpdate removals updates properties)
  let _ ← Action.call (.updateDatabase n.text record)
    (namespaceFailure n.text "update_database")
  pure (summarize removals updates properties)

/-! ### Listings -/

/-- Fetches a page of databases. -/
def fetchDatabases (token : Option String) :
    Program Backend (Except CatalogError (Page DatabaseRecord)) :=
  (Action.call (.getDatabases token) (CatalogError.metastore "get_databases")).run

/-- The namespace of a listed database, if its name is one. -/
def listedNamespace :
    Except CatalogError DatabaseRecord → Option (Except CatalogError NamespaceName)
  | .ok record => (NamespaceName.parse record.name).toOption.map .ok
  | .error e => some (.error e)

/-- Walks the namespaces in the order of the metastore. -/
def walkNamespaces {σ ρ : Type} (c : Catalog)
    (consumer : Listing.Consumer CatalogError NamespaceName σ ρ) (s : σ) : Program Backend ρ :=
  Listing.walk fetchDatabases (consumer.comap listedNamespace) c.pageBudget s (.before none)

/-- All namespaces.  Namespaces are flat, so none lies below another. -/
def listNamespaces (c : Catalog) (parent : Option NamespaceName) :
    Action (List NamespaceName) :=
  match parent with
  | some _ => pure []
  | none => Action.ofProgram (c.walkNamespaces Listing.collectConsumer [])

end Catalog

end LakeCatalog
