import LakeCatalog.SortedMap

/-!
# Records of the metastore

What a metastore keeps of a namespace and of a table.  Of a table record the catalog itself
reads the name, the database and two parameters; everything else is bookkeeping of the
metastore, which is carried along unchanged when a table is renamed.
-/

namespace LakeCatalog

/-- Texts by name, as tables and namespaces have them. -/
abbrev Properties := SortedMap String String

instance : Inhabited Properties := ⟨.empty⟩

/-- The record of a namespace. -/
structure DatabaseRecord where
  name : String
  description : Option String := none
  locationUri : Option String := none
  parameters : Properties := .empty
deriving DecidableEq, Inhabited

/-- A column of stored data. -/
structure Column where
  name : String
  columnType : Option String := none
  comment : Option String := none
  parameters : Properties := .empty
deriving DecidableEq, Inhabited

/-- How rows of stored data are laid out. -/
structure SerdeInfo where
  name : Option String := none
  serializationLibrary : Option String := none
  parameters : Properties := .empty
deriving DecidableEq, Inhabited

/-- Where and how the data of a table is stored. -/
structure StorageDescriptor where
  location : Option String := none
  inputFormat : Option String := none
  outputFormat : Option String := none
  compressed : Bool := false
  numberOfBuckets : Int32 := 0
  columns : List Column := []
  bucketColumns : List String := []
  serdeInfo : Option SerdeInfo := none
  parameters : Properties := .empty
  storedAsSubDirectories : Bool := false
deriving DecidableEq, Inhabited

/-- The record of a table. -/
structure TableRecord where
  name : String
  databaseName : Option String := none
  tableType : Option String := none
  owner : Option String := none
  description : Option String := none
  parameters : Properties := .empty
  storageDescriptor : Option StorageDescriptor := none
deriving DecidableEq, Inhabited

/-- The kinds of table records. -/
inductive TableKind where
  | external
  | managed
  | view
deriving DecidableEq, Repr

namespace TableKind

/-- The word that stands for the kind in a record. -/
def word : TableKind → String
  | .external => "EXTERNAL_TABLE"
  | .managed => "MANAGED_TABLE"
  | .view => "VIRTUAL_VIEW"

/-- The kind that a word stands for. -/
def ofWord? (s : String) : Option TableKind :=
  [external, managed, view].find? fun k => k.word = s

theorem ofWord?_word (k : TableKind) : ofWord? k.word = some k := by
  cases k <;> decide

end TableKind

end LakeCatalog
