import LakeCatalog.Listing
import LakeCatalog.Metastore.Failure
import LakeCatalog.Record

/-!
# Calls to a metastore

Everything that the catalog may ask a metastore.  Each call is one round trip: it is answered
with a record, with a page of records, or with nothing but success, and it may fail.
-/

namespace LakeCatalog.Metastore

/-- The answer to a call, unless it fails. -/
abbrev Outcome (α : Type) := Except Failure α

/-- A call. -/
inductive Call where
  | getTable (database name : String)
  | createTable (database : String) (table : TableRecord)
  | deleteTable (database name : String)
  | getTables (database : String) (token : Option String)
  | createDatabase (database : DatabaseRecord)
  | getDatabase (name : String)
  | updateDatabase (name : String) (database : DatabaseRecord)
  | deleteDatabase (name : String)
  | getDatabases (token : Option String)
deriving DecidableEq

namespace Call

/-- What a call is answered with when it succeeds. -/
abbrev Answer : Call → Type
  | getTable .. => TableRecord
  | createTable .. => Unit
  | deleteTable .. => Unit
  | getTables .. => Page TableRecord
  | createDatabase .. => Unit
  | getDatabase .. => DatabaseRecord
  | updateDatabase .. => Unit
  | deleteDatabase .. => Unit
  | getDatabases .. => Page DatabaseRecord

/-- What a call is answered with. -/
abbrev Reply (c : Call) : Type := Outcome c.Answer

/-- The name of the operation. -/
def operation : Call → String
  | getTable .. => "get_table"
  | createTable .. => "create_table"
  | deleteTable .. => "delete_table"
  | getTables .. => "get_tables"
  | createDatabase .. => "create_database"
  | getDatabase .. => "get_database"
  | updateDatabase .. => "update_database"
  | deleteDatabase .. => "delete_database"
  | getDatabases .. => "get_databases"

/-- The reply of a failed call. -/
def failed (c : Call) (f : Failure) : c.Reply := .error f

end Call

end LakeCatalog.Metastore
