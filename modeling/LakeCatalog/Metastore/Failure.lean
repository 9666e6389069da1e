/-!
# Failures of a metastore

A metastore refuses a call in one of four ways.  The first three say something about names and
records, which the catalog puts into its own terms; the last stands for everything else.
-/

namespace LakeCatalog.Metastore

/-- The ways in which a call fails. -/
inductive Signal where
  | entityNotFound
  | alreadyExists
  | invalidInput
  | service
deriving DecidableEq, Repr

/-- A failed call: the way, and the words of the metastore. -/
structure Failure where
  signal : Signal
  detail : String
deriving DecidableEq, Repr

/-- The failure in words. -/
def Failure.message (f : Failure) : String :=
  let lead := match f.signal with
    | .entityNotFound => "Entity not found: "
    | .alreadyExists => "Entity already exists: "
    | .invalidInput => "Invalid input: "
    | .service => "Metastore service error: "
  lead ++ f.detail

end LakeCatalog.Metastore
