import LakeCatalog.Proofs.JsonRoundTrip
import LakeCatalog.Proofs.MetadataFiles

/-!
# Metadata files of new tables are read back

A metadata file has whole numbers only, so all that can keep it from being read back is the depth to
which its containers are nested, and of a new table only the schema may be nested deep.

* `Schema.Shallow` — a schema that the reader of metadata files can take;
* `Metadata.depth_initial_le_iff` — the depth of the metadata of a new table;
* `Metadata.read?_initial` — its file.
-/

namespace LakeCatalog

open Json (Whole WholeItems)

/-! ### Whole numbers -/

theorem Json.whole_ofInt32 (i : Int32) : (ofInt32 i).Whole := by
  have hlow := i.le_toInt
  have hhigh := i.toInt_lt
  show IsWord i.toInt
  unfold IsWord
  omega

theorem Json.whole_ofInt64 (i : Int64) : (ofInt64 i).Whole := by
  have hlow := i.le_toInt
  have hhigh := i.toInt_lt
  show IsWord i.toInt
  unfold IsWord
  omega

/-- A list of whole values. -/
theorem Json.whole_arr_map {α : Type} {write : α → Json} (h : ∀ a, (write a).Whole)
    (as : List α) : (Json.arr (as.map write)).Whole := by
  refine wholeItems_iff.2 ?_
  intro j hj
  obtain ⟨a, -, rfl⟩ := List.mem_map.1 hj
  exact h a

mutual

theorem FieldType.whole_toJson (t : FieldType) : t.toJson.Whole := by
  match t with
  | .primitive p => exact trivial
  | .struct fields => exact ⟨trivial, Field.wholeItems_toJsonList fields, trivial⟩
  | .list elementId elementRequired element =>
      exact ⟨trivial, Json.whole_ofInt32 elementId, trivial, element.whole_toJson, trivial⟩
  | .map keyId key valueId valueRequired value =>
      exact ⟨trivial, Json.whole_ofInt32 keyId, key.whole_toJson, Json.whole_ofInt32 valueId,
        trivial, value.whole_toJson, trivial⟩

theorem Field.wholeItems_toJsonList (fields : List Field) :
    WholeItems (Field.toJsonList fields) := by
  match fields with
  | [] => exact trivial
  | .mk id name required type doc :: fields =>
      refine ⟨⟨Json.whole_ofInt32 id, trivial, trivial, type.whole_toJson, ?_⟩,
        Field.wholeItems_toJsonList fields⟩
      cases doc with
      | none => exact trivial
      | some d => exact ⟨trivial, trivial⟩

end

theorem Schema.whole_toJson (s : Schema) : s.toJson.Whole := by
  obtain ⟨id, identifierFieldIds, fields⟩ := s
  cases identifierFieldIds with
  | none =>
      exact ⟨trivial, Json.whole_ofInt32 id, Field.wholeItems_toJsonList fields, trivial⟩
  | some ids =>
      exact ⟨trivial, Json.whole_ofInt32 id, Json.whole_arr_map Json.whole_ofInt32 ids,
        Field.wholeItems_toJsonList fields, trivial⟩

theorem PartitionSpec.whole_toJson (s : PartitionSpec) : s.toJson.Whole := by
  have hfield : ∀ f : PartitionField, f.toJson.Whole := fun f =>
    ⟨Json.whole_ofInt32 f.sourceId, Json.whole_ofInt32 f.fieldId, trivial, trivial, trivial⟩
  exact ⟨Json.whole_ofInt32 s.id, Json.whole_arr_map hfield s.fields, trivial⟩

theorem SortOrder.whole_toJson (o : SortOrder) : o.toJson.Whole := by
  have hfield : ∀ f : SortField, f.toJson.Whole := fun f =>
    ⟨Json.whole_ofInt32 f.sourceId, trivial, trivial, trivial, trivial⟩
  exact ⟨Json.whole_ofInt32 o.id, Json.whole_arr_map hfield o.fields, trivial⟩

theorem Json.whole_ofTextMap (m : SortedMap String String) : (ofTextMap m).Whole := by
  refine wholeMembers_iff.2 ?_
  intro e he
  obtain ⟨-, -, rfl⟩ := List.mem_map.1 he
  exact trivial

/-! ### Depth -/

theorem Json.depth_arr_map_le {α : Type} {write : α → Json} {n : Nat}
    (h : ∀ a, (write a).depth ≤ n) (as : List α) : (Json.arr (as.map write)).depth ≤ n + 1 := by
  refine depth_arr_le ?_
  intro j hj
  obtain ⟨a, -, rfl⟩ := List.mem_map.1 hj
  exact h a

/-- An object of an id and a list of flat objects. -/
theorem Json.depth_filed_le {α : Type} {write : α → Json} (h : ∀ a, (write a).depth ≤ 1)
    (idName listName : String) (id : Int32) (as : List α) :
    (Json.obj [(idName, .ofInt32 id), (listName, .arr (as.map write))]).depth ≤ 3 := by
  refine depth_obj_le ?_
  rw [List.forall_mem_cons, List.forall_mem_singleton]
  exact ⟨Nat.zero_le 2, depth_arr_map_le h as⟩

theorem PartitionSpec.depth_toJson_le (s : PartitionSpec) : s.toJson.depth ≤ 3 := by
  have hfield : ∀ f : PartitionField, f.toJson.depth ≤ 1 := fun f => Nat.le_refl 1
  exact Json.depth_filed_le hfield "spec-id" "fields" s.id s.fields

theorem SortOrder.depth_toJson_le (o : SortOrder) : o.toJson.depth ≤ 3 := by
  have hfield : ∀ f : SortField, f.toJson.depth ≤ 1 := fun f => Nat.le_refl 1
  exact Json.depth_filed_le hfield "order-id" "fields" o.id o.fields

theorem Json.depth_ofTextMap_le (m : SortedMap String String) : (ofTextMap m).depth ≤ 1 := by
  refine depth_obj_le ?_
  intro e he
  obtain ⟨-, -, rfl⟩ := List.mem_map.1 he
  exact Nat.le_refl 0

/-- A schema that the reader of metadata files can take: in such a file it stands in the list of all
schemas, two containers deep. -/
def Schema.Shallow (s : Schema) : Prop := s.toJson.depth + 2 ≤ Json.maxDepth

instance (s : Schema) : Decidable s.Shallow := inferInstanceAs (Decidable (_ ≤ _))

namespace Metadata

variable (fresh : Fresh) (location : String) (schema : Schema)
  (partitionSpec : Option PartitionSpec) (sortOrder : Option SortOrder)
  (properties : SortedMap String String)

/-- What holds of texts, numbers and the lists of schemas, partition specs and sort orders, and of
the properties, holds of all members of the metadata of a new table. -/
theorem forall_initialMembers {P : Json → Prop} (htext : ∀ s, P (.str s))
    (hnumber : ∀ i, Json.IsWord i → P (.int i)) (hnone : P (.arr []))
    (hschema : P (.arr [schema.toJson])) (hspec : ∀ s : PartitionSpec, P (.arr [s.toJson]))
    (horder : ∀ o : SortOrder, P (.arr [o.toJson])) (hproperties : P (.ofTextMap properties)) :
    ∀ m ∈ initialMembers fresh location schema partitionSpec sortOrder properties, P m.2 := by
  have hint32 : ∀ i : Int32, P (.ofInt32 i) := fun i => hnumber _ (Json.whole_ofInt32 i)
  have hint64 : ∀ i : Int64, P (.ofInt64 i) := fun i => hnumber _ (Json.whole_ofInt64 i)
  have hmember : ∀ m ∈ (nonEmptyTexts properties).toList, P m.2 := by
    intro m hm
    unfold nonEmptyTexts at hm
    split at hm
    · cases hm
    · rw [List.mem_singleton.1 hm]
      exact hproperties
  unfold initialMembers membersBefore membersAfter
  simp only [List.forall_mem_append, List.forall_mem_cons]
  exact ⟨⟨hnumber 2 (by decide), htext _, htext _, hint64 _, hint64 _, hint32 _, hschema, hint32 _,
    hspec _, hint32 _, hint32 _, nofun⟩, hmember, hint64 _, hnone, horder _, hint32 _, nofun⟩

theorem whole_initial :
    (initial fresh location schema partitionSpec sortOrder properties).toJsonV2.Whole := by
  rw [toJsonV2_initial]
  refine Json.wholeMembers_iff.2 (forall_initialMembers fresh location schema partitionSpec
    sortOrder properties (fun _ => trivial) (fun _ h => h) trivial
    ⟨schema.whole_toJson, trivial⟩ (fun s => ⟨s.whole_toJson, trivial⟩)
    (fun o => ⟨o.whole_toJson, trivial⟩) (Json.whole_ofTextMap properties))

/-- **The depth** of the metadata of a new table is that of its schema. -/
theorem depth_initial_le_iff :
    (initial fresh location schema partitionSpec sortOrder properties).toJsonV2.depth
      ≤ Json.maxDepth ↔ schema.Shallow := by
  rw [toJsonV2_initial]
  constructor
  · intro h
    have hlist : schema.toJson.depth < (Json.arr [schema.toJson]).depth :=
      Json.depth_lt_arr List.mem_cons_self
    have hmember : ("schemas", Json.arr [schema.toJson])
        ∈ initialMembers fresh location schema partitionSpec sortOrder properties := by
      simp [initialMembers, membersBefore]
    have hobject := Json.depth_lt_obj hmember
    unfold Schema.Shallow
    simp only at hobject
    omega
  · intro h
    have hschema : (Json.arr [schema.toJson]).depth ≤ 126 := by
      refine Json.depth_arr_le ?_
      intro j hj
      rw [List.mem_singleton.1 hj]
      exact Nat.le_of_add_le_add_right h
    have hspec : ∀ s : PartitionSpec, (Json.arr [s.toJson]).depth ≤ 126 := by
      intro s
      exact Nat.le_trans (Json.depth_arr_map_le PartitionSpec.depth_toJson_le [s]) (by decide)
    have horder : ∀ o : SortOrder, (Json.arr [o.toJson]).depth ≤ 126 := by
      intro o
      exact Nat.le_trans (Json.depth_arr_map_le SortOrder.depth_toJson_le [o]) (by decide)
    have hproperties : (Json.ofTextMap properties).depth ≤ 126 :=
      Nat.le_trans (Json.depth_ofTextMap_le properties) (by decide)
    exact Json.depth_obj_le (forall_initialMembers fresh location schema partitionSpec sortOrder
      properties (P := fun j => j.depth ≤ 126) (fun _ => Nat.zero_le _) (fun _ _ => Nat.zero_le _)
      (by decide) hschema hspec horder hproperties)

/-- **The file of a new table** is read back if and only if its schema is not nested too deep. -/
theorem read?_initial :
    read? (initial fresh location schema partitionSpec sortOrder properties).toJsonV2.render.toUTF8
      = if schema.Shallow then some (reread fresh location schema partitionSpec sortOrder properties)
        else none := by
  unfold read?
  rw [Json.parseBytes?_of_whole (whole_initial ..)]
  by_cases h : schema.Shallow
  · rw [if_pos h, if_pos ((depth_initial_le_iff ..).2 h), Option.bind_some]
    unfold ofJson?
    rw [ofJsonV2?_initial]
    rfl
  · rw [if_neg h, if_neg fun hle => h ((depth_initial_le_iff ..).1 hle)]
    rfl

end Metadata

end LakeCatalog
