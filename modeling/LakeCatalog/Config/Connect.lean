import LakeCatalog.Catalog.Basic
import LakeCatalog.Config.Basic
import LakeCatalog.Error
import LakeCatalog.Glue.Message

/-!
# From a configuration to a catalog

* `ObjectStore.ofStorage` — the store that a configuration describes; a directory has to exist,
  and a bucket needs a name;
* `Config.connect` — a catalog with its store and the client of its metastore.
-/

namespace LakeCatalog

/-- The store that a configuration describes. -/
def ObjectStore.ofStorage (t : FileTree) : Storage → Except CatalogError ObjectStore
  | .memory => .ok .empty
  | .directory path =>
    match Directory.open? t path with
    | .ok d => .ok (.directory d)
    | .error e => .error (.objectStoreBuild e)
  | .bucket b =>
    match b.bucket with
    | some name => .ok (.bucket name)
    | none => .error (.objectStoreBuild (.generic bucketStoreName))

/-- A catalog with what it works on. -/
structure Connection where
  catalog : Catalog
  client : Glue.Client
  store : ObjectStore

/-- The catalog that a configuration describes.  Its listings are given up after so many
pages. -/
def Config.connect (t : FileTree) (pageBudget : Nat) (c : Config) :
    Except CatalogError Connection := do
  let store ← ObjectStore.ofStorage t c.storage
  pure {
    catalog := ⟨c.name, c.warehouse, pageBudget⟩
    client := ⟨c.glue.catalogId, c.glue.pageSize⟩
    store }

end LakeCatalog
