import LakeCatalog.Json.Record

/-!
# Configuration of a catalog

A configuration names the catalog, the place for tables that have none of their own, the store
for metadata files, and how the metastore is reached.

* `Config` — a configuration, with `Storage`, `Credentials` and `GlueSettings` in it;
* `Config.new` — the configuration that has nothing but a name;
* `Config.toJson` — a configuration as a JSON value; absent members are written as null.
-/

namespace LakeCatalog

/-- How a remote store knows its user. -/
inductive Credentials where
  | accessKey (id secret : String)
  | token (token : String)
deriving DecidableEq, Repr

/-- A bucket of a remote store. -/
structure BucketSettings where
  region : Option String := none
  bucket : Option String := none
  endpoint : Option String := none
  credentials : Option Credentials := none
deriving DecidableEq, Repr

/-- Where metadata files are kept. -/
inductive Storage where
  | memory
  | directory (path : String)
  | bucket (b : BucketSettings)
deriving DecidableEq, Repr

/-- How the metastore is reached. -/
structure GlueSettings where
  region : Option String := none
  endpoint : Option String := none
  catalogId : Option String := none
  pageSize : Option Int32 := none
deriving DecidableEq, Repr

/-- A configuration of a catalog. -/
structure Config where
  name : String
  warehouse : Option String := none
  storage : Storage := .memory
  glue : GlueSettings := {}
deriving DecidableEq, Repr

/-- The member that tells the kinds of storage apart. -/
def Storage.kindMember : String := "type"

/-- The member that tells the kinds of credentials apart. -/
def Credentials.kindMember : String := "credential_type"

/-- A text, or null. -/
def Json.ofText? : Option String → Json := Json.ofOption .str

/-- Credentials as a JSON value. -/
def Credentials.toJson : Credentials → Json
  | .accessKey id secret =>
    .obj [(kindMember, .str "access_key"), ("aws_access_key_id", .str id),
      ("aws_secret_access_key", .str secret)]
  | .token t => .obj [(kindMember, .str "token"), ("token", .str t)]

/-- A storage as a JSON value. -/
def Storage.toJson : Storage → Json
  | .memory => .obj [(kindMember, .str "memory")]
  | .directory path => .obj [(kindMember, .str "file"), ("path", .str path)]
  | .bucket b =>
    .obj [(kindMember, .str "s3"), ("region", .ofText? b.region), ("bucket", .ofText? b.bucket),
      ("endpoint", .ofText? b.endpoint), ("credentials", .ofOption (·.toJson) b.credentials)]

/-- Settings of the metastore as a JSON value. -/
def GlueSettings.toJson (g : GlueSettings) : Json :=
  .obj [("region", .ofText? g.region), ("endpoint", .ofText? g.endpoint),
    ("catalog-id", .ofText? g.catalogId), ("page-size", .ofOption .ofInt32 g.pageSize)]

namespace Config

/-- The configuration that has nothing but a name. -/
def new (name : String) : Config := { name }

/-- A configuration as a JSON value. -/
def toJson (c : Config) : Json :=
  .obj [("name", .str c.name), ("warehouse", .ofText? c.warehouse),
    ("file-io", c.storage.toJson), ("glue", c.glue.toJson)]

end Config

end LakeCatalog
