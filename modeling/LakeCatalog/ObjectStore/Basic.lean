import LakeCatalog.ObjectStore.Directory
import LakeCatalog.ObjectStore.Path

/-!
# Object stores

A store holds the content of objects by path.  Objects are kept in memory, in the order in which
they were first written, or in a directory; a bucket of a remote service is only named here.
-/

namespace LakeCatalog

/-- A place for objects. -/
inductive ObjectStore where
  | memory (objects : OrderedMap ByteArray)
  | directory (d : Directory)
  | bucket (name : String)

namespace ObjectStore

/-- A store in memory without objects. -/
def empty : ObjectStore := .memory .empty

/-- What the store calls itself. -/
def describe : ObjectStore → String
  | .memory _ => "InMemory"
  | .directory d => "LocalFileSystem(" ++ d.rootUrl ++ ")"
  | .bucket name => "AmazonS3(" ++ name ++ ")"

/-- The name of a remote service in errors. -/
def bucketStoreName : String := "S3"

/-- The content of an object. -/
def get (s : ObjectStore) (path : String) : Except StoreError ByteArray :=
  match s with
  | .memory objects =>
    match objects.get? path with
    | some data => .ok data
    | none => .error (.notFound path)
  | .directory d => d.get path
  | .bucket _ => .error (.generic bucketStoreName)

/-- Writes the content of an object, and returns the store after it. -/
def put (s : ObjectStore) (path : String) (data : ByteArray) :
    Except StoreError Unit × ObjectStore :=
  match s with
  | .memory objects => (.ok (), .memory (objects.insert path data))
  | .directory d =>
    let (result, d) := d.put path data
    (result, .directory d)
  | .bucket _ => (.error (.generic bucketStoreName), s)

/-- All objects with their content. -/
def objects : ObjectStore → List (String × ByteArray)
  | .memory objects => objects.entries
  | .directory d => d.objects
  | .bucket _ => []

end ObjectStore

end LakeCatalog
