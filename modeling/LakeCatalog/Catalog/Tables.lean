import LakeCatalog.Catalog.Namespaces

/-!
# Operations on tables

The metastore keeps a pointer to each table: a record with the location of the current metadata
file.  The files themselves lie in the object store and stay there when the pointer goes.

The metastore cannot rename.  A rename registers a copy under the new name and then drops the
old record; when that fails the copy is dropped again, and when that fails too, both records
may be there and somebody has to look.
-/

namespace LakeCatalog.Catalog

open Metastore (Call Failure)

/-- A failure that is about a table. -/
def tableFailure (n : TableName) (operation : String) (f : Failure) : CatalogError :=
  match f.signal with
  | .entityNotFound => .noSuchTable n.space.text n.table
  | _ => .metastore operation f

/-- A failure to create a table. -/
def createTableFailure (n : TableName) (f : Failure) : CatalogError :=
  match f.signal with
  | .alreadyExists => .tableAlreadyExists n.space.text n.table
  | .entityNotFound => .noSuchNamespace n.space.text
  | _ => .metastore "create_table" f

/-- The record of a table. -/
def tableRecord (n : TableName) : Action TableRecord :=
  Action.call (.getTable n.space.text n.table) (tableFailure n "get_table")

/-- Registers a record in the namespace of a table. -/
def createTableRecord (n : TableName) (record : TableRecord) : Action Unit :=
  Action.call (.createTable n.space.text record) (createTableFailure n)

/-- Removes the record of a table.  Its files stay. -/
def dropTable (n : TableName) : Action Unit :=
  Action.call (.deleteTable n.space.text n.table) (tableFailure n "delete_table")

/-- Loads a table: its record says where its current state is read. -/
def loadTable (c : Catalog) (n : TableName) : Action Table := do
  let record ← tableRecord n
  let location ← Action.ofExcept (record.metadataLocation n)
  let metadata ← Objects.readMetadata location
  pure ⟨n, metadata, location, c⟩

/-- Whether there is a record of a table. -/
def tableExists (n : TableName) : Action Bool :=
  (tableRecord n).attempt fun
    | .ok _ => pure true
    | .error (.noSuchTable ..) => pure false
    | .error e => throw e

/-! ### New tables -/

/-- A location without slashes at its end, unless nothing is left. -/
def usableLocation (location : Option String) : Option String :=
  (location.map (Text.trimRight '/')).filter (· ≠ "")

/-- Where a table goes that asks for no place: below the location of its namespace, or else
below the warehouse. -/
def defaultLocation (c : Catalog) (n : TableName) : Action String := do
  let properties ← loadNamespace n.space
  match (properties.get? locationKey).filter (· ≠ "") with
  | some location => pure (Text.trimRight '/' location ++ "/" ++ n.table)
  | none =>
    match c.warehouse with
    | some warehouse =>
      pure (Text.trimRight '/' warehouse ++ "/" ++ n.space.text ++ ".db/" ++ n.table)
    | none => throw (.noDefaultLocation n.space.text n.table)

/-- Creates a table: writes its first metadata file, registers it, and loads it. -/
def createTable (c : Catalog) (fresh : Fresh) (n : TableName) (creation : TableCreation) :
    Action Table := do
  let location ← match usableLocation creation.location with
    | some location => pure location
    | none => c.defaultLocation n
  let file := Metadata.fileLocation fresh.fileId location
  let metadata := Metadata.initial fresh location creation.schema creation.partitionSpec
    creation.sortOrder creation.properties
  Objects.writeMetadata metadata file
  createTableRecord n (.ofMetadata n.table file creation.properties)
  c.loadTable n

/-- Tables that exist elsewhere cannot be taken in. -/
def registerTable (_ : TableName) (_ : String) : Action Table :=
  throw (.unsupported "register_table")

/-- The state of a table cannot be replaced. -/
def commitTable (_ : TableCommit) : Action Table :=
  throw (.unsupported "commit_table")

/-! ### Renaming -/

/-- Undoes a rename whose last step failed. -/
def rollBackRename (source target : TableName) (cause : CatalogError) : Action Table :=
  (dropTable target).attempt fun
    | .ok () => throw (.renameFailed source.toText target.toText cause)
    | .error rollback =>
      throw (.manualInterventionRequired source.toText target.toText cause rollback)

/-- Moves a table to another name, possibly in another namespace. -/
def renameTable (c : Catalog) (source target : TableName) : Action Table := do
  let record ← tableRecord source
  let _ ← Action.ofExcept (record.metadataLocation source)
  createTableRecord target (record.renamed target.table)
  (dropTable source).attempt fun
    | .ok () => c.loadTable target
    | .error cause => rollBackRename source target cause

/-! ### Listings -/

/-- Fetches a page of the tables of a namespace. -/
def fetchTables (n : NamespaceName) (token : Option String) :
    Program Backend (Except CatalogError (Page TableRecord)) :=
  (Action.call (.getTables n.text token) (namespaceFailure n.text "get_tables")).run

/-- The name of a listed table; a record whose name is none is an error in its place. -/
def listedTable (n : NamespaceName) :
    Except CatalogError TableRecord → Option (Except CatalogError TableName)
  | .ok record =>
    some ((TableName.ofParts n.text record.name).mapError CatalogError.invalidIdentifier)
  | .error e => some (.error e)

/-- Walks the tables of a namespace in the order of the metastore. -/
def walkTables {σ ρ : Type} (c : Catalog) (n : NamespaceName)
    (consumer : Listing.Consumer CatalogError TableName σ ρ) (s : σ) : Program Backend ρ :=
  Listing.walk (fetchTables n) (consumer.comap (listedTable n)) c.pageBudget s (.before none)

/-- All tables of a namespace. -/
def listTables (c : Catalog) (n : NamespaceName) : Action (List TableName) :=
  Action.ofProgram (c.walkTables n Listing.collectConsumer [])

/-- Drops a namespace that holds no table. -/
def dropNamespace (c : Catalog) (n : NamespaceName) : Action Unit := do
  let first ← Action.ofProgram ((c.walkTables n Listing.firstConsumer ()).bind fun
    | none => .done (.ok false)
    | some (.ok _) => .done (.ok true)
    | some (.error e) => .done (.error e))
  if first then throw (.namespaceNotEmpty n.text)
  Action.call (.deleteDatabase n.text) (namespaceFailure n.text "delete_database")

end LakeCatalog.Catalog

namespace LakeCatalog.Table

/-- The table as it is now. -/
def refresh (t : Table) : Action Table := do
  let current ← t.catalog.loadTable t.name
  pure { t with metadata := current.metadata, metadataLocation := current.metadataLocation }

/-- Proposes a next state of the table, based on the one that was loaded. -/
def commit (t : Table) (metadata : Metadata) : Action Table :=
  Catalog.commitTable ⟨t.name, t.metadataLocation, metadata⟩

end LakeCatalog.Table
