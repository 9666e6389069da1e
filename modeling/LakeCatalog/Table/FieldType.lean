import LakeCatalog.Json.Record
import LakeCatalog.Text.Blank
import LakeCatalog.Text.Numeral

/-!
# Types of fields

A field of a table holds values of a primitive type, or of a type made of others: a struct with
named fields, a list, or a map.  In metadata a primitive type is a text and every other type is
a record, told apart by its members.

* `PrimitiveType`, `FieldType`, `Field` — the types;
* `PrimitiveType.text`, `PrimitiveType.ofText?` — the text of a primitive type;
* `FieldType.toJson`, `FieldType.ofJson?` — the form in metadata;
* `FieldType.ids` — every field id in a type.
-/

namespace LakeCatalog

open Text (dropRightWhile)

/-! ### Primitive types -/

/-- A primitive type. -/
inductive PrimitiveType where
  | boolean
  | int
  | long
  | float
  | double
  | date
  | time
  | timestamp
  | timestamptz
  | string
  | uuid
  | binary
  | fixed (length : UInt64)
  | decimal (precision scale : UInt32)
deriving DecidableEq, Repr

/-- The text without all repetitions of a word at its head. -/
def dropRepeated (word : List Char) (cs : List Char) : List Char :=
  if h : word ≠ [] ∧ cs.take word.length = word then
    have : (cs.drop word.length).length < cs.length := by
      have hw := List.length_pos_iff.2 h.1
      have hl := congrArg List.length h.2
      rw [List.length_take] at hl
      rw [List.length_drop]
      omega
    dropRepeated word (cs.drop word.length)
  else cs
termination_by cs.length
decreasing_by exact this

/-- A number of 32 bits in base ten. -/
def readUInt32? (cs : List Char) : Option UInt32 :=
  (Text.Numeral.readBelow? UInt32.size cs).map UInt32.ofNat

/-- A number of 64 bits in base ten. -/
def readUInt64? (cs : List Char) : Option UInt64 :=
  (Text.Numeral.readBelow? UInt64.size cs).map UInt64.ofNat

/-- What a parameter between brackets is read from: the text without its opening word and its
closing brackets, each of which may be repeated. -/
def parameterText (word : String) (closing : Char) (cs : List Char) : List Char :=
  dropRightWhile (· = closing) (dropRepeated word.toList cs)

/-- Whether the text begins with the word. -/
def startsWith (word : String) (cs : List Char) : Bool :=
  cs.take word.length = word.toList

namespace PrimitiveType

/-- The types without parameters, with their names. -/
def plain : List (String × PrimitiveType) :=
  [("boolean", boolean), ("int", int), ("long", long), ("float", float), ("double", double),
    ("date", date), ("time", time), ("timestamp", timestamp), ("timestamptz", timestamptz),
    ("string", string), ("uuid", uuid), ("binary", binary)]

/-- The text of a type. -/
def text : PrimitiveType → String
  | boolean => "boolean"
  | int => "int"
  | long => "long"
  | float => "float"
  | double => "double"
  | date => "date"
  | time => "time"
  | timestamp => "timestamp"
  | timestamptz => "timestamptz"
  | string => "string"
  | uuid => "uuid"
  | binary => "binary"
  | fixed n => "fixed[" ++ Text.Numeral.text n.toNat ++ "]"
  | decimal p s =>
    "decimal(" ++ Text.Numeral.text p.toNat ++ "," ++ Text.Numeral.text s.toNat ++ ")"

/-- Precision and scale, with a comma between them; blanks around the scale do not count. -/
def readDecimal? (cs : List Char) : Option PrimitiveType :=
  let inner := parameterText "decimal(" ')' cs
  match inner.dropWhile (· ≠ ',') with
  | [] => none
  | _ :: scale => do
    let p ← readUInt32? (inner.takeWhile (· ≠ ','))
    let s ← readUInt32? (Text.trim scale)
    pure (decimal p s)

/-- The type of a text. -/
def ofText? (s : String) : Option PrimitiveType :=
  let cs := s.toList
  if startsWith "decimal" cs then readDecimal? cs
  else if startsWith "fixed" cs then (readUInt64? (parameterText "fixed[" ']' cs)).map fixed
  else Entries.lookup s plain

end PrimitiveType

/-! ### All types -/

mutual

/-- The type of a field. -/
inductive FieldType where
  | primitive (p : PrimitiveType)
  | struct (fields : List Field)
  | list (elementId : Int32) (elementRequired : Bool) (element : FieldType)
  | map (keyId : Int32) (key : FieldType) (valueId : Int32) (valueRequired : Bool)
      (value : FieldType)

/-- A named field of a struct or of a table. -/
inductive Field where
  | mk (id : Int32) (name : String) (required : Bool) (type : FieldType) (doc : Option String)

end

instance : Inhabited FieldType := ⟨.primitive .int⟩

mutual

/-- Decides whether two types are the same. -/
def FieldType.decEq : (a b : FieldType) → Decidable (a = b)
  | .primitive p, .primitive q =>
    if h : p = q then isTrue (h ▸ rfl) else isFalse fun e => h (FieldType.primitive.inj e)
  | .struct fs, .struct gs =>
    match Field.decEqList fs gs with
    | isTrue h => isTrue (h ▸ rfl)
    | isFalse h => isFalse fun e => h (FieldType.struct.inj e)
  | .list i r t, .list j s u =>
    if h : i = j ∧ r = s then
      match FieldType.decEq t u with
      | isTrue k => isTrue (by rw [h.1, h.2, k])
      | isFalse k => isFalse fun e => k (FieldType.list.inj e).2.2
    else isFalse fun e => h ⟨(FieldType.list.inj e).1, (FieldType.list.inj e).2.1⟩
  | .map i t j r u, .map k v l s w =>
    if h : i = k ∧ j = l ∧ r = s then
      match FieldType.decEq t v, FieldType.decEq u w with
      | isTrue m, isTrue n => isTrue (by rw [h.1, h.2.1, h.2.2, m, n])
      | isFalse m, _ => isFalse fun e => m (FieldType.map.inj e).2.1
      | _, isFalse n => isFalse fun e => n (FieldType.map.inj e).2.2.2.2
    else isFalse fun e =>
      have q := FieldType.map.inj e
      h ⟨q.1, q.2.2.1, q.2.2.2.1⟩
  | .primitive _, .struct _ => isFalse nofun
  | .primitive _, .list .. => isFalse nofun
  | .primitive _, .map .. => isFalse nofun
  | .struct _, .primitive _ => isFalse nofun
  | .struct _, .list .. => isFalse nofun
  | .struct _, .map .. => isFalse nofun
  | .list .., .primitive _ => isFalse nofun
  | .list .., .struct _ => isFalse nofun
  | .list .., .map .. => isFalse nofun
  | .map .., .primitive _ => isFalse nofun
  | .map .., .struct _ => isFalse nofun
  | .map .., .list .. => isFalse nofun

/-- Decides whether two lists of fields are the same. -/
def Field.decEqList : (a b : List Field) → Decidable (a = b)
  | [], [] => isTrue rfl
  | [], _ :: _ => isFalse nofun
  | _ :: _, [] => isFalse nofun
  | .mk i n r t d :: fs, .mk j m s u e :: gs =>
    if h : i = j ∧ n = m ∧ r = s ∧ d = e then
      match FieldType.decEq t u, Field.decEqList fs gs with
      | isTrue k, isTrue l => isTrue (by rw [h.1, h.2.1, h.2.2.1, h.2.2.2, k, l])
      | isFalse k, _ => isFalse fun q => k (Field.mk.inj (List.cons.inj q).1).2.2.2.1
      | _, isFalse l => isFalse fun q => l (List.cons.inj q).2
    else isFalse fun q =>
      have q := Field.mk.inj (List.cons.inj q).1
      h ⟨q.1, q.2.1, q.2.2.1, q.2.2.2.2⟩

end

instance : DecidableEq FieldType := FieldType.decEq

instance : DecidableEq Field := fun a b =>
  match Field.decEqList [a] [b] with
  | isTrue h => isTrue (List.cons.inj h).1
  | isFalse h => isFalse fun e => h (e ▸ rfl)

mutual

/-- Every field id in a type. -/
def FieldType.ids : FieldType → List Int32
  | .primitive _ => []
  | .struct fields => Field.idsOfList fields
  | .list elementId _ element => elementId :: element.ids
  | .map keyId key valueId _ value => keyId :: (key.ids ++ valueId :: value.ids)

/-- The ids of some fields and all ids in their types. -/
def Field.idsOfList : List Field → List Int32
  | [] => []
  | .mk id _ _ type _ :: fields => id :: (type.ids ++ Field.idsOfList fields)

end

/-! ### Writing -/

mutual

/-- The form of a type in metadata. -/
def FieldType.toJson : FieldType → Json
  | .primitive p => .str p.text
  | .struct fields => .obj [("type", .str "struct"), ("fields", .arr (Field.toJsonList fields))]
  | .list elementId elementRequired element =>
    .obj [("type", .str "list"), ("element-id", .ofInt32 elementId),
      ("element-required", .bool elementRequired), ("element", element.toJson)]
  | .map keyId key valueId valueRequired value =>
    .obj [("type", .str "map"), ("key-id", .ofInt32 keyId), ("key", key.toJson),
      ("value-id", .ofInt32 valueId), ("value-required", .bool valueRequired),
      ("value", value.toJson)]

/-- The form of fields in metadata; a field without a comment has no member for it. -/
def Field.toJsonList : List Field → List Json
  | [] => []
  | .mk id name required type doc :: fields =>
    .obj ([("id", .ofInt32 id), ("name", .str name), ("required", .bool required),
      ("type", type.toJson)] ++ (doc.map fun d => ("doc", Json.str d)).toList)
      :: Field.toJsonList fields

end

/-! ### Reading -/

/-- What a value in metadata describes: a type, a field, or a list of fields. -/
structure Described where
  json : Json
  type? : Option FieldType := none
  field? : Option Field := none
  fields? : Option (List Field) := none

namespace Described

/-- The members of a record, with what each of them describes. -/
abbrev Members := List (String × Described)

/-- A struct has fields and nothing else but, at most, a name of its kind. -/
def struct? (ms : Members) : Option FieldType :=
  if ms.all fun m => m.1 = "type" ∨ m.1 = "fields" then
    (Json.required ms "fields" fields?).map .struct
  else none

/-- The names of the members of a list. -/
def listNames : List String := ["element-id", "element-required", "element"]

/-- A list has one type of elements. -/
def list? (ms : Members) : Option FieldType := do
  let elementId ← Json.required ms "element-id" fun m => Json.int32? m.json
  let elementRequired ← Json.required ms "element-required" fun m => Json.bool? m.json
  let element ← Json.required ms "element" type?
  pure (.list elementId elementRequired element)

/-- The names of the members of a map. -/
def mapNames : List String := ["key-id", "key", "value-id", "value-required", "value"]

/-- A map has a type of keys and one of values. -/
def map? (ms : Members) : Option FieldType := do
  let keyId ← Json.required ms "key-id" fun m => Json.int32? m.json
  let key ← Json.required ms "key" type?
  let valueId ← Json.required ms "value-id" fun m => Json.int32? m.json
  let valueRequired ← Json.required ms "value-required" fun m => Json.bool? m.json
  let value ← Json.required ms "value" type?
  pure (.map keyId key valueId valueRequired value)

/-- The names of the members of a field. -/
def fieldNames : List String := ["id", "name", "required", "type", "doc"]

/-- A field of a struct. -/
def fieldOf? (ms : Members) : Option Field := do
  let id ← Json.required ms "id" fun m => Json.int32? m.json
  let name ← Json.required ms "name" fun m => Json.text? m.json
  let required ← Json.required ms "required" fun m => Json.bool? m.json
  let type ← Json.required ms "type" type?
  let doc ← Json.defaulted ms "doc" none fun m => Json.nullable Json.text? m.json
  pure (.mk id name required type doc)

/-- What an object describes. -/
def ofMembers (j : Json) (ms : Members) : Described where
  json := j
  type? := (struct? ms).or ((list? ms).or (map? ms))
  field? := fieldOf? ms

/-- What a list describes: fields, or a record whose members are not named. -/
def ofItems (j : Json) (items : List Described) : Described where
  json := j
  type? := ((Json.nameItems? listNames [] items).bind list?).or
    ((Json.nameItems? mapNames [] items).bind map?)
  field? := (Json.nameItems? fieldNames [] items).bind fieldOf?
  fields? := items.mapM field?

mutual

/-- What a value describes. -/
def ofJson : Json → Described
  | .str s => { json := .str s, type? := (PrimitiveType.ofText? s).map .primitive }
  | .arr js => ofItems (.arr js) (listOfJson js)
  | .obj ms => ofMembers (.obj ms) (membersOfJson ms)
  | j => { json := j }

/-- What some items describe. -/
def listOfJson : List Json → List Described
  | [] => []
  | j :: js => ofJson j :: listOfJson js

/-- What the values of some members describe. -/
def membersOfJson : List (String × Json) → Members
  | [] => []
  | (k, j) :: ms => (k, ofJson j) :: membersOfJson ms

end

end Described

/-- The type that a value describes. -/
def FieldType.ofJson? (j : Json) : Option FieldType := (Described.ofJson j).type?

/-- The fields that a value describes. -/
def Field.listOfJson? (j : Json) : Option (List Field) := (Described.ofJson j).fields?

end LakeCatalog
