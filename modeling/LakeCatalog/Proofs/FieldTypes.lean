import LakeCatalog.Proofs.TypeTexts

/-!
# Types of fields are read back

What is written of a type describes this type, however deep its structs, lists and maps are nested:
they are told apart by their members.

* `type?_list`, `type?_map`, `field?_members` — what some members describe;
* `type?_toJson`, `fields?_toJsonList` — a type, and the fields of a struct;
* `Schema.ofJson?_toJson` — a schema.
-/

namespace LakeCatalog

/-- What is written one by one is read back one by one. -/
theorem mapM_map_of_forall {α β : Type} {read : β → Option α} {write : α → β} {as : List α}
    (h : ∀ a ∈ as, read (write a) = some a) : (as.map write).mapM read = some as := by
  induction as with
  | nil => rfl
  | cons a as ih =>
      rw [List.forall_mem_cons] at h
      rw [List.map_cons, List.mapM_cons, h.1, ih h.2]
      rfl

/-- A list is read back when its items are. -/
theorem Json.listOf?_map {α : Type} {read : Json → Option α} {write : α → Json}
    (h : ∀ a, read (write a) = some a) (as : List α) :
    listOf? read (.arr (as.map write)) = some as :=
  mapM_map_of_forall fun a _ => h a

namespace Described

theorem json_ofJson (j : Json) : (ofJson j).json = j := by
  cases j <;> rfl

/-! ### What the members of a type describe -/

/-- The members of a list are neither those of a struct nor of a map. -/
theorem type?_list {kind : Described} {elementId : Int32} {elementRequired : Bool} {j : Json}
    {element : FieldType} (helement : (ofJson j).type? = some element) (whole : Json) :
    (ofMembers whole [("type", kind), ("element-id", ofJson (.ofInt32 elementId)),
      ("element-required", ofJson (.bool elementRequired)), ("element", ofJson j)]).type?
      = some (.list elementId elementRequired element) := by
  simp [ofMembers, struct?, list?, Json.required, Json.valuesOf, json_ofJson,
    Json.int32?_ofInt32, Json.bool?, helement]

/-- The members of a map are neither those of a struct nor of a list. -/
theorem type?_map {kind : Described} {keyId valueId : Int32} {valueRequired : Bool} {j k : Json}
    {key value : FieldType} (hkey : (ofJson j).type? = some key)
    (hvalue : (ofJson k).type? = some value) (whole : Json) :
    (ofMembers whole [("type", kind), ("key-id", ofJson (.ofInt32 keyId)), ("key", ofJson j),
      ("value-id", ofJson (.ofInt32 valueId)), ("value-required", ofJson (.bool valueRequired)),
      ("value", ofJson k)]).type? = some (.map keyId key valueId valueRequired value) := by
  simp [ofMembers, struct?, list?, map?, Json.required, Json.valuesOf, json_ofJson,
    Json.int32?_ofInt32, Json.bool?, hkey, hvalue]

/-- The members of a field, of which the comment may be missing. -/
theorem field?_members (id : Int32) (name : String) (required : Bool) (doc : Option String)
    {j : Json} {type : FieldType} (htype : (ofJson j).type? = some type) (whole : Json) :
    (ofMembers whole ([("id", ofJson (.ofInt32 id)), ("name", ofJson (.str name)),
      ("required", ofJson (.bool required)), ("type", ofJson j)]
        ++ (doc.map fun d => ("doc", ofJson (.str d))).toList)).field?
      = some (.mk id name required type doc) := by
  cases doc with
  | none =>
      simp [ofMembers, fieldOf?, Json.required, Json.defaulted, Json.valuesOf, json_ofJson,
        Json.int32?_ofInt32, Json.bool?, Json.text?, htype]
  | some d =>
      simp [ofMembers, fieldOf?, Json.required, Json.defaulted, Json.valuesOf, json_ofJson,
        Json.int32?_ofInt32, Json.bool?, Json.text?, Json.nullable, htype]

/-! ### Types -/

mutual

/-- **What is written of a type** describes it. -/
theorem type?_toJson (t : FieldType) : (ofJson t.toJson).type? = some t := by
  match t with
  | .primitive p =>
      show (PrimitiveType.ofText? p.text).map FieldType.primitive = _
      rw [PrimitiveType.ofText?_text]
      rfl
  | .struct fields =>
      have hfields := fields?_toJsonList fields
      show ((struct? [("type", ofJson (.str "struct")),
        ("fields", ofJson (.arr (Field.toJsonList fields)))]).or _) = _
      simp [struct?, Json.required, Json.valuesOf, hfields]
  | .list elementId elementRequired element => exact type?_list (type?_toJson element) _
  | .map keyId key valueId valueRequired value =>
      exact type?_map (type?_toJson key) (type?_toJson value) _

theorem fields?_toJsonList (fields : List Field) :
    (ofJson (.arr (Field.toJsonList fields))).fields? = some fields := by
  match fields with
  | [] => rfl
  | .mk id name required type doc :: fields =>
      have hfields : (listOfJson (Field.toJsonList fields)).mapM Described.field? = some fields :=
        fields?_toJsonList fields
      have hfield : (ofJson (.obj ([("id", .ofInt32 id), ("name", .str name),
          ("required", .bool required), ("type", type.toJson)]
            ++ (doc.map fun d => ("doc", Json.str d)).toList))).field?
          = some (.mk id name required type doc) := by
        have hmembers := field?_members id name required doc (type?_toJson type)
        cases doc with
        | none => exact hmembers _
        | some d => exact hmembers _
      show (ofJson _ :: listOfJson (Field.toJsonList fields)).mapM Described.field? = _
      rw [List.mapM_cons, hfield, hfields]
      rfl

end

end Described

/-! ### Schemas -/

/-- **What is written of a schema** describes it. -/
theorem Schema.ofJson?_toJson (s : Schema) : ofJson? s.toJson = some s := by
  have hfields : Field.listOfJson? (.arr (Field.toJsonList s.fields)) = some s.fields :=
    Described.fields?_toJsonList s.fields
  obtain ⟨id, identifierFieldIds, fields⟩ := s
  cases identifierFieldIds with
  | none =>
      simp [ofJson?, toJson, partsOfJson?, Json.record, Json.members?, Json.required,
        Json.optional, Json.defaulted, Json.valuesOf, Json.int32?_ofInt32, hfields]
  | some ids =>
      have hids : Json.listOf? Json.int32? (.arr (ids.map .ofInt32)) = some ids :=
        Json.listOf?_map Json.int32?_ofInt32 ids
      simp [ofJson?, toJson, partsOfJson?, Json.record, Json.members?, Json.required,
        Json.optional, Json.defaulted, Json.valuesOf, Json.int32?_ofInt32, Json.nullable, hids,
        hfields]

end LakeCatalog
