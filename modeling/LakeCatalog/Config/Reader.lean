import LakeCatalog.Config.Basic
import LakeCatalog.Yaml.Value

/-!
# Reading a configuration

A configuration is a mapping of YAML.  Its own members and those of the metastore are texts as
they are written, whatever their spelling means elsewhere.  Storage and credentials come in
kinds, and a member tells which; their other members are values, and only a text is taken for a
text.

A record that comes in kinds can also be written as a list: its kind and then the values of its
fields, all of them and in order.  A field can be named by its number instead of its name.

* `Variant` — the kind of a record, and its fields;
* `Config.read?` — the configuration that a text holds, whether or not it makes sense.
-/

namespace LakeCatalog

namespace Yaml

/-- A record that comes in kinds: the value that tells its kind, and the other members as a
mapping or a list. -/
structure Variant where
  kind : Value
  body : Value

namespace Variant

/-- The record in a value, in which a member of this name tells the kind. -/
def ofValue? (kindMember : String) : Value → Option Variant
  | .map es =>
    let isKind (e : Value × Value) : Bool := match e.1 with
      | .text k => k = kindMember
      | _ => false
    match es.filter isKind with
    | [e] => some ⟨e.2, .map (es.filter fun e => !isKind e)⟩
    | _ => none
  | .list (v :: vs) => some ⟨v, .list vs⟩
  | _ => none

/-- The place of a field among the fields of its kind, as its name or number tells.  A place
behind all fields has no meaning. -/
def placeOf? (fields : List String) : Value → Option Nat
  | .text name => some (fields.idxOf name)
  | .natural n => some n
  | _ => none

/-- The values of some fields, in their order.  No field may be given twice.  In a list all have
to be given, and nothing else. -/
def fields? (fields : List String) : Value → Option (List (Option Value))
  | .list vs => if vs.length = fields.length then some (vs.map some) else none
  | .map es => do
    let placed ← es.mapM fun e => (placeOf? fields e.1).map (·, e.2)
    (List.range fields.length).mapM fun i =>
      match placed.filter fun e => e.1 = i with
      | [] => some none
      | [e] => some (some e.2)
      | _ => none
  | _ => none

/-- The text of a field that has to be there. -/
def text? : Option Value → Option String
  | some (.text s) => some s
  | _ => none

/-- The text of a field that may be missing or null. -/
def optionalText? : Option Value → Option (Option String)
  | none | some .null => some none
  | some (.text s) => some (some s)
  | _ => none

/-- The word for the kind; a number stands for the word in its place. -/
def kindAmong? (kinds : List String) (v : Variant) : Option String :=
  match v.kind with
  | .text s => if kinds.contains s then some s else none
  | .natural n => kinds[n]?
  | _ => none

end Variant

/-- Collections may be nested this deep, the whole document and the record included. -/
def maxDepth : Nat := 128

/-- The record of a member of the document.  Its kind is a text as it is written, and the rest
are values. -/
def Document.variant? (d : Document) (kindMember : String) (n : Node) : Following Variant := do
  let n ← d.follow n
  let depth := maxDepth - 2
  match n with
  | .mapping tag es =>
    if isOwnTag tag then failure
    let es ← es.mapM fun e => do
      let key ← d.value? depth e.1
      let value ← match key with
        | .text k => if k = kindMember then .text <$> d.text? e.2 else d.value? depth e.2
        | _ => d.value? depth e.2
      return (key, value)
    match Variant.ofValue? kindMember (.map es) with
    | some v => pure v
    | none => failure
  | .sequence tag (n :: ns) =>
    if isOwnTag tag then failure
    let kind ← d.text? n
    return ⟨.text kind, .list (← ns.mapM fun n => d.value? depth n)⟩
  | _ => failure

/-- Reads a member that may be missing, but not stand twice. -/
def Document.member? {α : Type} (es : List (String × Node)) (name : String)
    (default : α) (f : Node → Following α) : Following α :=
  match Json.valuesOf es name with
  | [] => pure default
  | [n] => f n
  | _ => failure

end Yaml

open Yaml (Value Variant Document Node Following)

/-- The credentials in a value. -/
def Credentials.ofValue? (v : Value) : Option Credentials := do
  let r ← Variant.ofValue? kindMember v
  if (← r.kindAmong? ["access_key", "token"]) = "access_key" then
    match ← Variant.fields? ["aws_access_key_id", "aws_secret_access_key"] r.body with
    | [id, secret] => pure (.accessKey (← Variant.text? id) (← Variant.text? secret))
    | _ => none
  else
    match ← Variant.fields? ["token"] r.body with
    | [t] => pure (.token (← Variant.text? t))
    | _ => none

/-- The credentials in a field that may be missing or null. -/
def Credentials.ofField? : Option Value → Option (Option Credentials)
  | none | some .null => some none
  | some v => (ofValue? v).map some

/-- The storage in a record.  The record of storage in memory has no fields, and what else a
mapping holds does not matter. -/
def Storage.ofVariant? (r : Variant) : Option Storage := do
  match ← r.kindAmong? ["memory", "file", "s3"] with
  | "memory" =>
    match r.body with
    | .list (_ :: _) => none
    | _ => pure .memory
  | "file" =>
    match ← Variant.fields? ["path"] r.body with
    | [path] => (Variant.text? path).map .directory
    | _ => none
  | _ =>
    match ← Variant.fields? ["region", "bucket", "endpoint", "credentials"] r.body with
    | [region, name, endpoint, credentials] =>
      pure (.bucket ⟨← Variant.optionalText? region, ← Variant.optionalText? name,
        ← Variant.optionalText? endpoint, ← Credentials.ofField? credentials⟩)
    | _ => none

/-- Reads the storage of a configuration. -/
def Storage.ofNode (d : Document) (n : Node) : Following Storage := do
  match Storage.ofVariant? (← d.variant? kindMember n) with
  | some s => pure s
  | none => failure

/-- Reads the settings of the metastore. -/
def GlueSettings.ofNode (d : Document) (n : Node) : Following GlueSettings := do
  let es ← d.members? n
  let text (name : String) := Document.member? es name none (d.nullable d.text?)
  pure {
    region := ← text "region"
    endpoint := ← text "endpoint"
    catalogId := ← text "catalog-id"
    pageSize := ← Document.member? es "page-size" none (d.nullable d.int32?) }

namespace Config

/-- Reads a configuration. -/
def ofNode (d : Document) (n : Node) : Following Config := do
  let es ← d.members? n
  let some name ← Document.member? es "name" none fun n => some <$> d.text? n | failure
  pure {
    name
    warehouse := ← Document.member? es "warehouse" none (d.nullable d.text?)
    storage := ← Document.member? es "file-io" .memory (Storage.ofNode d)
    glue := ← Document.member? es "glue" {} (GlueSettings.ofNode d) }

/-- The configuration that a text holds. -/
def read? (text : String) : Option Config := do
  let d ← Document.parse? text
  d.read? (ofNode d)

end Config

end LakeCatalog
