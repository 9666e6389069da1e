import LakeCatalog.Config.Basic
import LakeCatalog.Url.Basic

/-!
# What a configuration has to meet

Each field of a configuration has at most one condition: a text must not be empty or has to be a
URL, and the page size has bounds.  A field that is absent has none.

* `Condition.Holds` — what each condition says;
* `Config.checks` — the conditions on the fields of a configuration, each under its path;
* `Config.violations`, `Config.IsValid` — the conditions that fail, and that none does
  (`violations_eq_nil_iff`).
-/

namespace LakeCatalog

/-- A condition, with the value that it is about. -/
inductive Condition where
  | nonempty (s : String)
  | url (s : String)
  | pageSize (n : Int32)
  | token (s : String)
deriving DecidableEq, Repr

namespace Condition

/-- The least size of a page. -/
def minPageSize : Int32 := 1

/-- The greatest size of a page. -/
def maxPageSize : Int32 := 100

/-- Whether the value meets the condition. -/
def Holds : Condition → Prop
  | nonempty s => s ≠ ""
  | url s => Url.isUrl s = true
  | pageSize n => minPageSize ≤ n ∧ n ≤ maxPageSize
  | token s => s ≠ ""

instance : DecidablePred Holds
  | nonempty _ => inferInstanceAs (Decidable (_ ≠ _))
  | url _ => inferInstanceAs (Decidable (_ = true))
  | pageSize _ => inferInstanceAs (Decidable (_ ∧ _))
  | token _ => inferInstanceAs (Decidable (_ ≠ _))

/-- The word for a violated condition. -/
def code : Condition → String
  | nonempty _ => "length"
  | url _ => "url"
  | pageSize _ => "range"
  | token _ => "Token must not be empty"

/-- What is said about a violated condition: the value and its bounds. -/
def details : Condition → List (String × Json)
  | nonempty s => [("min", .int 1), ("value", .str s)]
  | url s => [("value", .str s)]
  | pageSize n =>
    [("min", .ofInt32 minPageSize), ("max", .ofInt32 maxPageSize), ("value", .ofInt32 n)]
  | token _ => []

end Condition

/-- A condition on the field at a path. -/
structure Check where
  path : List String
  condition : Condition
deriving DecidableEq, Repr

namespace Check

/-- The names on the path, joined by points. -/
def field (k : Check) : String := ".".intercalate k.path

/-- A condition on a field that may be absent. -/
def optional {α : Type} (name : String) (condition : α → Condition) : Option α → List Check
  | some a => [⟨[name], condition a⟩]
  | none => []

/-- The conditions on the fields of a record that is itself a field. -/
def below (name : String) (ks : List Check) : List Check :=
  ks.map fun k => { k with path := name :: k.path }

end Check

/-- The conditions on credentials. -/
def Credentials.checks : Credentials → List Check
  | .accessKey id secret =>
    [⟨["aws_access_key_id"], .nonempty id⟩, ⟨["aws_secret_access_key"], .nonempty secret⟩]
  | .token t => [⟨["token"], .token t⟩]

/-- The conditions on a storage. -/
def Storage.checks : Storage → List Check
  | .memory => []
  | .directory path => [⟨["path"], .nonempty path⟩]
  | .bucket b =>
    Check.optional "region" .nonempty b.region ++ Check.optional "bucket" .nonempty b.bucket
      ++ Check.optional "endpoint" .url b.endpoint
      ++ Check.below "credentials" (b.credentials.elim [] (·.checks))

/-- The conditions on the settings of the metastore. -/
def GlueSettings.checks (g : GlueSettings) : List Check :=
  Check.optional "region" .nonempty g.region ++ Check.optional "endpoint" .url g.endpoint
    ++ Check.optional "catalog_id" .nonempty g.catalogId
    ++ Check.optional "page_size" .pageSize g.pageSize

namespace Config

/-- The conditions on a configuration. -/
def checks (c : Config) : List Check :=
  ⟨["name"], .nonempty c.name⟩ :: Check.optional "warehouse" .url c.warehouse
    ++ Check.below "file_io" c.storage.checks ++ Check.below "glue" c.glue.checks

/-- The conditions that fail. -/
def violations (c : Config) : List Check := c.checks.filter fun k => ¬k.condition.Holds

/-- A configuration that meets all its conditions. -/
def IsValid (c : Config) : Prop := ∀ k ∈ c.checks, k.condition.Holds

theorem violations_eq_nil_iff (c : Config) : c.violations = [] ↔ c.IsValid := by
  simp [violations, IsValid, List.filter_eq_nil_iff]

end Config

end LakeCatalog
