import LakeCatalog.Identifier
import LakeCatalog.Metastore.Failure
import LakeCatalog.ObjectStore.Basic

/-!
# Errors of the catalog

Each way in which an operation of the catalog fails, with the names that it concerns.  The
wording is in one place, `CatalogError.message`; the words of a layer below, such as an object
store or the reader of metadata, are not repeated there and stand as `<source>`.
-/

namespace LakeCatalog

/-- Why an operation of the catalog failed. -/
inductive CatalogError where
  | invalidIdentifier (e : NameError)
  | noSuchNamespace (space : String)
  | noSuchTable (space table : String)
  | notThisFormat (space table : String) (found : Option String)
  | missingProperty (space table property : String)
  | tableAlreadyExists (space table : String)
  | namespaceAlreadyExists (space : String)
  | namespaceNotEmpty (space : String)
  | ambiguousUpdate (space : String) (keys : List String)
  | noDefaultLocation (space table : String)
  | renameFailed (source target : String) (cause : CatalogError)
  | manualInterventionRequired (source target : String) (cause rollback : CatalogError)
  | unsupported (operation : String)
  | metastore (operation : String) (failure : Metastore.Failure)
  | objectStore (location : String) (cause : StoreError)
  | objectStoreBuild (cause : StoreError)
  | metadata (location : String)
  | notUrl (location : String) (fault : Url.Fault)
  | noObject (location : String)
deriving DecidableEq, Repr

namespace CatalogError

/-- What stands for the words of a layer below. -/
def sourceText : String := "<source>"

/-- Why a location without an object is refused. -/
def noObjectReason : String := "location has no object path"

/-- The keys of an ambiguous update as one text. -/
def keysText (keys : List String) : String := ", ".intercalate keys

/-- The error in words. -/
def message : CatalogError → String
  | .invalidIdentifier e => s!"Invalid identifier '{e.identifier}': {e.fault.reason}"
  | .noSuchNamespace s => s!"Namespace does not exist: {s}"
  | .noSuchTable s t => s!"Table does not exist: {s}.{t}"
  | .notThisFormat s t found =>
    "Property table_type is " ++ found.getD "missing" ++ s!", expected ICEBERG: {s}.{t}"
  | .missingProperty s t p =>
    s!"Table property {p} is missing, cannot find metadata for: {s}.{t}"
  | .tableAlreadyExists s t => s!"Table {s}.{t} already exists"
  | .namespaceAlreadyExists s => s!"Namespace {s} already exists"
  | .namespaceNotEmpty s => s!"Namespace {s} is not empty"
  | .ambiguousUpdate s keys =>
    s!"Updates and removals for namespace {s} overlap on keys: " ++ keysText keys
  | .noDefaultLocation s t =>
    s!"No default location for table {s}.{t}: " ++
      "the namespace has no location and no warehouse is configured"
  | .renameFailed a b cause =>
    s!"Failed to drop old table {a} while renaming it to {b}. " ++
      s!"Rolled back table creation for {b}: " ++ cause.message
  | .manualInterventionRequired a b cause rollback =>
    s!"Failed to drop old table {a} and failed to roll back table creation for {b}. " ++
      "Both tables may now exist, please clean up manually. Drop error: " ++ cause.message ++
      "; rollback error: " ++ rollback.message
  | .unsupported operation => s!"Operation not supported by this catalog: {operation}"
  | .metastore operation failure => s!"Metastore {operation} failed: " ++ failure.message
  | .objectStore location _ => s!"Object store error at '{location}': {sourceText}"
  | .objectStoreBuild _ => s!"Unable to build object store: {sourceText}"
  | .metadata location => s!"Invalid table metadata at '{location}': {sourceText}"
  | .notUrl location fault => s!"Invalid location URL '{location}': " ++ fault.message
  | .noObject location => s!"Invalid location '{location}': {noObjectReason}"

/-- The error for a location that names no object. -/
def ofLocation (location : String) : LocationFault → CatalogError
  | .notUrl fault => .notUrl location fault
  | .noObject => .noObject location

end CatalogError

end LakeCatalog
