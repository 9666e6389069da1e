import LakeCatalog.Metastore.Call
import LakeCatalog.OrderedMap
import LakeCatalog.Text.Numeral

/-!
# A metastore in memory

Databases stand in the order in which they were created, and so do the tables of each.
Listings come in pages of a fixed number of records, and the token of a page is the number of
records before it.

* `State` — databases by name, each with its record and its tables;
* `Memory` — a state with the size of its pages;
* `respond` — the answer to a call, and the metastore after it.
-/

namespace LakeCatalog.Metastore

/-- A database with its tables. -/
structure DatabaseState where
  record : DatabaseRecord
  tables : OrderedMap TableRecord := .empty
deriving DecidableEq

/-- What a metastore holds. -/
abbrev State := OrderedMap DatabaseState

/-- A metastore in memory. -/
structure Memory where
  databases : State := .empty
  pageSize : Nat := 100
deriving DecidableEq

namespace Memory

/-- The longest name, in bytes. -/
def maxNameLength : Nat := 255

/-- Tokens stand for numbers below this bound. -/
def tokenBound : Nat := UInt64.size

/-- A metastore without databases; pages hold at least one record. -/
def withPageSize (n : Nat) : Memory := { pageSize := max n 1 }

/-! ### Failures -/

/-- A name that is empty or too long. -/
def invalidName (kind name : String) : Failure :=
  ⟨.invalidInput, kind ++ " name '" ++ name ++ "' must be 1 to 255 characters long"⟩

/-- A database that is not there. -/
def databaseNotFound (name : String) : Failure :=
  ⟨.entityNotFound, "Database " ++ name ++ " not found"⟩

/-- A database that is there already. -/
def databaseExists (name : String) : Failure :=
  ⟨.alreadyExists, "Database " ++ name ++ " already exists"⟩

/-- A table that is not there. -/
def tableNotFound (database name : String) : Failure :=
  ⟨.entityNotFound, "Table " ++ name ++ " not found in database " ++ database⟩

/-- A table that is there already. -/
def tableExists (database name : String) : Failure :=
  ⟨.alreadyExists, "Table " ++ name ++ " already exists in database " ++ database⟩

/-- A token that is no number. -/
def invalidToken (token : String) : Failure :=
  ⟨.invalidInput, "Invalid continuation token '" ++ token ++ "'"⟩

/-- Refuses names that are empty or too long. -/
def checkName (kind name : String) : Outcome Unit :=
  if name ≠ "" ∧ name.utf8ByteSize ≤ maxNameLength then .ok () else .error (invalidName kind name)

/-! ### Pages -/

/-- The number of records before the page with a token. -/
def pageStart (token : Option String) : Outcome Nat :=
  match token with
  | none => .ok 0
  | some t =>
    match Text.Numeral.readBelow? tokenBound t.toList with
    | some n => .ok n
    | none => .error (invalidToken t)

/-- The page of some records that begins at `start`. -/
def pageAt {α : Type} (records : List α) (size start : Nat) : Page α where
  items := (records.drop start).take size
  next :=
    if min (start + size) records.length < records.length then
      some (Text.Numeral.text (start + size))
    else none

/-- The page of some records with a token. -/
def page {α : Type} (records : List α) (size : Nat) (token : Option String) :
    Outcome (Page α) :=
  (pageStart token).map (pageAt records size)

/-! ### Calls -/

variable (m : Memory)

/-- The database of a name. -/
def database (name : String) : Outcome DatabaseState :=
  match m.databases.get? name with
  | some d => .ok d
  | none => .error (databaseNotFound name)

/-- The metastore with another state of a database. -/
def setDatabase (name : String) (d : DatabaseState) : Memory :=
  { m with databases := m.databases.insert name d }

/-- Looks a table up. -/
def getTable (database name : String) : Outcome TableRecord := do
  checkName "Table" name
  let d ← m.database database
  match d.tables.get? name with
  | some t => pure t
  | none => throw (tableNotFound database name)

/-- Adds a table at the end of a database, which becomes its owner. -/
def createTable (database : String) (table : TableRecord) : Outcome Memory := do
  checkName "Table" table.name
  let d ← m.database database
  if d.tables.contains table.name then throw (tableExists database table.name)
  let table := { table with databaseName := some database }
  pure (m.setDatabase database { d with tables := d.tables.insert table.name table })

/-- Removes a table; the others keep their order. -/
def deleteTable (database name : String) : Outcome Memory := do
  let d ← m.database database
  if d.tables.contains name then
    pure (m.setDatabase database { d with tables := d.tables.erase name })
  else throw (tableNotFound database name)

/-- Lists a page of the tables of a database. -/
def getTables (database : String) (token : Option String) : Outcome (Page TableRecord) := do
  let d ← m.database database
  page d.tables.values m.pageSize token

/-- Adds a database without tables at the end. -/
def createDatabase (record : DatabaseRecord) : Outcome Memory := do
  checkName "Database" record.name
  if m.databases.contains record.name then throw (databaseExists record.name)
  pure (m.setDatabase record.name { record })

/-- Looks a database up. -/
def getDatabase (name : String) : Outcome DatabaseRecord := do
  checkName "Database" name
  let d ← m.database name
  pure d.record

/-- Replaces the record of a database, whatever name the new record has. -/
def updateDatabase (name : String) (record : DatabaseRecord) : Outcome Memory := do
  checkName "Database" name
  let d ← m.database name
  pure (m.setDatabase name { d with record })

/-- Removes a database and all its tables. -/
def deleteDatabase (name : String) : Outcome Memory := do
  let _ ← m.database name
  pure { m with databases := m.databases.erase name }

/-- Lists a page of the databases. -/
def getDatabases (token : Option String) : Outcome (Page DatabaseRecord) :=
  page (m.databases.values.map (·.record)) m.pageSize token

/-- The metastore after a change: a call that fails changes nothing. -/
def changed (r : Outcome Memory) : Outcome Unit × Memory :=
  match r with
  | .ok m' => (.ok (), m')
  | .error e => (.error e, m)

/-- The answer to a call, and the metastore after it. -/
def respond : (c : Call) → c.Reply × Memory
  | .getTable database name => (m.getTable database name, m)
  | .createTable database table => m.changed (m.createTable database table)
  | .deleteTable database name => m.changed (m.deleteTable database name)
  | .getTables database token => (m.getTables database token, m)
  | .createDatabase record => m.changed (m.createDatabase record)
  | .getDatabase name => (m.getDatabase name, m)
  | .updateDatabase name record => m.changed (m.updateDatabase name record)
  | .deleteDatabase name => m.changed (m.deleteDatabase name)
  | .getDatabases token => (m.getDatabases token, m)

end Memory

end LakeCatalog.Metastore
