import LakeCatalog.Proofs.DefaultIds

/-!
# The marks above which ids are given out

The metadata of a table keeps two marks: no column has an id above the one, no partition field an id
above the other, and whoever adds a column or a partition field takes the id next to the mark.  The
metadata of a new table has both marks at zero, whatever ids its schema and its partition spec use,
so that they say nothing unless no id is above zero.

* `FieldType.Occurs` — an id occurs in a type, at any depth (`FieldType.occurs_iff_mem_ids`);
* `Metadata.Covered` — both marks are as high as all ids in use, so that the next ones are not
  (`Metadata.Covered.next_unused`);
* `TableCreation.Marks` — what the marks in the metadata of a new table are good for;
* `TableCreation.marks_stay_zero` — in what is built, in its file, and in the table that a creation
  returns;
* `TableCreation.marks_too_low` — a table whose next column gets an id that is in use.
-/

namespace LakeCatalog

/-! ### Where ids occur -/

/-- An id occurs in a type: it belongs to a field of a struct, to the elements of a list, to the keys
or the values of a map, or to one of these within their types. -/
inductive FieldType.Occurs (id : Int32) : FieldType → Prop where
  | field {fields : List Field} {name : String} {required : Bool} {type : FieldType}
      {doc : Option String} : .mk id name required type doc ∈ fields → Occurs id (.struct fields)
  | inField {fields : List Field} {i : Int32} {name : String} {required : Bool} {type : FieldType}
      {doc : Option String} : .mk i name required type doc ∈ fields → Occurs id type →
      Occurs id (.struct fields)
  | element {required : Bool} {element : FieldType} : Occurs id (.list id required element)
  | inElement {i : Int32} {required : Bool} {element : FieldType} : Occurs id element →
      Occurs id (.list i required element)
  | key {key : FieldType} {j : Int32} {required : Bool} {value : FieldType} :
      Occurs id (.map id key j required value)
  | inKey {i : Int32} {key : FieldType} {j : Int32} {required : Bool} {value : FieldType} :
      Occurs id key → Occurs id (.map i key j required value)
  | value {i : Int32} {key : FieldType} {required : Bool} {value : FieldType} :
      Occurs id (.map i key id required value)
  | inValue {i : Int32} {key : FieldType} {j : Int32} {required : Bool} {value : FieldType} :
      Occurs id value → Occurs id (.map i key j required value)

namespace Field

variable {id i : Int32} {name : String} {required : Bool} {type : FieldType} {doc : Option String}
  {fields : List Field}

theorem mem_idsOfList_cons :
    id ∈ idsOfList (.mk i name required type doc :: fields) ↔
      id = i ∨ id ∈ type.ids ∨ id ∈ idsOfList fields := by
  rw [idsOfList, List.mem_cons, List.mem_append]

theorem mem_idsOfList_of_mem (h : .mk i name required type doc ∈ fields)
    (hid : id = i ∨ id ∈ type.ids) : id ∈ idsOfList fields := by
  induction fields with
  | nil => cases h
  | cons f fields ih =>
      obtain ⟨j, other, isRequired, t, d⟩ := f
      rw [mem_idsOfList_cons]
      rcases List.mem_cons.1 h with hhead | htail
      · cases hhead
        exact hid.imp_right Or.inl
      · exact Or.inr (Or.inr (ih htail))

end Field

namespace FieldType

variable {id : Int32}

theorem Occurs.mem_ids {t : FieldType} (h : t.Occurs id) : id ∈ t.ids := by
  induction h with
  | field h => exact Field.mem_idsOfList_of_mem h (Or.inl rfl)
  | inField h _ ih => exact Field.mem_idsOfList_of_mem h (Or.inr ih)
  | element => simp [ids]
  | inElement _ ih => simp [ids, ih]
  | key => simp [ids]
  | inKey _ ih => simp [ids, ih]
  | value => simp [ids]
  | inValue _ ih => simp [ids, ih]

theorem Occurs.cons {f : Field} {fields : List Field} (h : (FieldType.struct fields).Occurs id) :
    (FieldType.struct (f :: fields)).Occurs id := by
  cases h with
  | field h => exact .field (List.mem_cons_of_mem f h)
  | inField h hid => exact .inField (List.mem_cons_of_mem f h) hid

-- The two go through types and lists of fields as the listing of the ids does.
mutual

theorem occurs_of_mem_ids (t : FieldType) (h : id ∈ t.ids) : t.Occurs id := by
  match t with
  | .primitive p => cases h
  | .struct fields => exact occurs_of_mem_idsOfList fields h
  | .list elementId required element =>
      rw [ids, List.mem_cons] at h
      rcases h with rfl | h
      · exact .element
      · exact .inElement (occurs_of_mem_ids element h)
  | .map keyId key valueId required value =>
      rw [ids, List.mem_cons, List.mem_append, List.mem_cons] at h
      rcases h with rfl | h | rfl | h
      · exact .key
      · exact .inKey (occurs_of_mem_ids key h)
      · exact .value
      · exact .inValue (occurs_of_mem_ids value h)

theorem occurs_of_mem_idsOfList (fields : List Field) (h : id ∈ Field.idsOfList fields) :
    (FieldType.struct fields).Occurs id := by
  match fields with
  | [] => cases h
  | .mk i name required type doc :: fields =>
      rcases Field.mem_idsOfList_cons.1 h with rfl | h | h
      · exact .field List.mem_cons_self
      · exact .inField List.mem_cons_self (occurs_of_mem_ids type h)
      · exact (occurs_of_mem_idsOfList fields h).cons

end

/-- **The ids that are listed for a type** are those that occur in it. -/
theorem occurs_iff_mem_ids {t : FieldType} : t.Occurs id ↔ id ∈ t.ids :=
  ⟨Occurs.mem_ids, occurs_of_mem_ids t⟩

end FieldType

/-! ### Marks -/

/-- The ids in a schema, of its columns and of all that is within them. -/
def Schema.fieldIds (s : Schema) : List Int32 := Field.idsOfList s.fields

/-- The ids in a partition spec. -/
def PartitionSpec.fieldIds (s : PartitionSpec) : List Int32 := s.fields.map (·.fieldId)

/-- Below the greatest number the next one is greater. -/
theorem lt_next_of_lt_maxValue {i : Int32} (h : i < Int32.maxValue) : i < i + 1 := by
  rw [Int32.lt_iff_toInt_lt] at h ⊢
  have hmax : Int32.maxValue.toInt = 2 ^ 31 - 1 := rfl
  have hmin := Int32.le_toInt i
  rw [Int32.toInt_add, Int32.toInt_one, Int.bmod_eq_of_le (by omega) (by omega)]
  omega

namespace Metadata

/-- An id is in use in one of the schemas. -/
def UsesColumn (m : Metadata) (id : Int32) : Prop :=
  ∃ s ∈ m.schemas.values, (FieldType.struct s.fields).Occurs id

/-- An id is in use in one of the partition specs. -/
def UsesPartitionField (m : Metadata) (id : Int32) : Prop :=
  ∃ s ∈ m.partitionSpecs.values, ∃ f ∈ s.fields, f.fieldId = id

/-- Both marks are as high as all ids in use. -/
structure Covered (m : Metadata) : Prop where
  columns : ∀ id, m.UsesColumn id → id ≤ m.lastColumnId
  partitionFields : ∀ id, m.UsesPartitionField id → id ≤ m.lastPartitionId

/-- The id that the next column gets. -/
def nextColumnId (m : Metadata) : Int32 := m.lastColumnId + 1

/-- The id that the next partition field gets. -/
def nextPartitionId (m : Metadata) : Int32 := m.lastPartitionId + 1

/-- **What the marks are for**: as long as they cover all ids, and are not the greatest number, the
ids that come next are not in use. -/
theorem Covered.next_unused {m : Metadata} (h : m.Covered)
    (hcolumn : m.lastColumnId < Int32.maxValue) (hpartition : m.lastPartitionId < Int32.maxValue) :
    ¬m.UsesColumn m.nextColumnId ∧ ¬m.UsesPartitionField m.nextPartitionId := by
  constructor
  · intro hused
    exact Int32.not_le.2 (lt_next_of_lt_maxValue hcolumn) (h.columns _ hused)
  · intro hused
    exact Int32.not_le.2 (lt_next_of_lt_maxValue hpartition) (h.partitionFields _ hused)

end Metadata

namespace TableCreation

/-- What the marks in the metadata of a new table are good for.  They are zero, while the ids in use
are those that were given.  So they cover all ids only if none is above zero, and the id that comes
next is in use if and only if the first one was given. -/
structure Marks (creation : TableCreation) (m : Metadata) : Prop where
  columnMark : m.lastColumnId = 0
  partitionMark : m.lastPartitionId = 0
  columns : ∀ id, m.UsesColumn id ↔ id ∈ creation.schema.fieldIds
  partitionFields : ∀ id, m.UsesPartitionField id ↔ id ∈ creation.spec.fieldIds
  covered : m.Covered ↔
    (∀ id ∈ creation.schema.fieldIds, id ≤ 0) ∧ ∀ id ∈ creation.spec.fieldIds, id ≤ 0
  unused : m.Covered → ¬m.UsesColumn m.nextColumnId ∧ ¬m.UsesPartitionField m.nextPartitionId
  nextColumn : m.UsesColumn m.nextColumnId ↔ 1 ∈ creation.schema.fieldIds
  nextPartitionField : m.UsesPartitionField m.nextPartitionId ↔ 1 ∈ creation.spec.fieldIds

variable (creation : TableCreation) (fresh : Fresh)

/-- Marks at zero beside the given schema and the given partition spec, and no others. -/
theorem marks_of_zero {m : Metadata} (hcolumn : m.lastColumnId = 0)
    (hpartition : m.lastPartitionId = 0) (hschemas : m.schemas.values = [creation.schema])
    (hspecs : m.partitionSpecs.values = [creation.spec]) : creation.Marks m := by
  have hcolumns : ∀ id, m.UsesColumn id ↔ id ∈ creation.schema.fieldIds := by
    intro id
    simp only [Metadata.UsesColumn, hschemas, List.mem_singleton, exists_eq_left]
    exact FieldType.occurs_iff_mem_ids
  have hfields : ∀ id, m.UsesPartitionField id ↔ id ∈ creation.spec.fieldIds := by
    intro id
    simp only [Metadata.UsesPartitionField, hspecs, List.mem_singleton, exists_eq_left]
    exact List.mem_map.symm
  refine ⟨hcolumn, hpartition, hcolumns, hfields, ?_, ?_, ?_, ?_⟩
  · constructor
    · intro h
      constructor
      · intro id hid
        exact hcolumn ▸ h.columns id ((hcolumns id).2 hid)
      · intro id hid
        exact hpartition ▸ h.partitionFields id ((hfields id).2 hid)
    · rintro ⟨hschema, hspec⟩
      constructor
      · intro id hid
        exact hcolumn ▸ hschema id ((hcolumns id).1 hid)
      · intro id hid
        exact hpartition ▸ hspec id ((hfields id).1 hid)
  · intro h
    have hzero : (0 : Int32) < Int32.maxValue := by decide
    exact h.next_unused (hcolumn ▸ hzero) (hpartition ▸ hzero)
  · rw [hcolumns, Metadata.nextColumnId, hcolumn]
    rfl
  · rw [hfields, Metadata.nextPartitionId, hpartition]
    rfl

theorem marks_metadata (location : String) : creation.Marks (creation.metadata fresh location) :=
  creation.marks_of_zero rfl rfl rfl rfl

theorem marks_reread (location : String) : creation.Marks (creation.reread fresh location) :=
  creation.marks_of_zero rfl rfl rfl rfl

/-- **The marks of a new table stay at zero**, in the metadata that is built, in what is read back
from its file, unless its schema is nested too deep to be read, and in the table that a creation
returns; and whatever was given is in use beside them. -/
theorem marks_stay_zero :
    (∀ location, creation.Marks (creation.metadata fresh location) ∧
      ∃ content, (creation.metadata fresh location).write? = some content ∧
        if creation.schema.Shallow then
          ∃ m, Metadata.read? content = some m ∧ creation.Marks m
        else Metadata.read? content = none) ∧
    ∀ (c : Catalog) (n : TableName) (s s' : Site) (t : Table),
      (c.createTable fresh n creation).perform Site.answer s = (some (.ok t), s') →
        creation.Marks t.metadata := by
  constructor
  · intro location
    refine ⟨creation.marks_metadata fresh location, creation.content fresh location,
      creation.write?_metadata fresh location, ?_⟩
    rw [read?_content]
    by_cases hshallow : creation.schema.Shallow
    · rw [if_pos hshallow, if_pos hshallow]
      exact ⟨_, rfl, creation.marks_reread fresh location⟩
    · rw [if_neg hshallow, if_neg hshallow]
  · intro c n s s' t h
    obtain ⟨location, hmetadata⟩ := creation.metadata_of_createTable fresh h
    rw [hmetadata]
    exact creation.marks_reread fresh location

/-! ### A table whose marks are too low -/

/-- A table with ids up to six in its columns, the last one at the values of a map, which is split
by a partition field with the id one. -/
def splitTable : TableCreation where
  schema := { id := 0, fields := [.mk 1 "id" true (.primitive .long) none,
    .mk 2 "rows" false (.struct [.mk 3 "prices" true
      (.list 4 false (.map 5 (.primitive .string) 6 true (.primitive .double))) none]) none] }
  partitionSpec := some ⟨0, [⟨1, 1000, "id", .identity⟩, ⟨1, 1, "bucket", .bucket 16⟩]⟩

theorem marks_stay_zero_splitTable :
    ∃ t s', (Site.lake.createTable Site.firstIds filedName splitTable).perform Site.answer filedSite
        = (some (.ok t), s') ∧ splitTable.Marks t.metadata := by
  obtain ⟨t, s', hcreate, -⟩ := splitTable.perform_createTable_filedSite rfl (by decide)
  exact ⟨t, s', hcreate, (splitTable.marks_stay_zero Site.firstIds).2 _ _ _ _ _ hcreate⟩

/-- **Marks that are too low**: in the file of the table, and in the table that the creation returns,
ids are in use above both marks, and right next to them. -/
theorem marks_too_low :
    (∃ content m, (splitTable.metadata Site.firstIds filedLocation).write? = some content ∧
        Metadata.read? content = some m ∧ m.UsesColumn 6 ∧ m.lastColumnId < 6 ∧
        m.UsesPartitionField 1000 ∧ m.lastPartitionId < 1000 ∧
        m.UsesColumn m.nextColumnId ∧ m.UsesPartitionField m.nextPartitionId) ∧
      ∃ t s', (Site.lake.createTable Site.firstIds filedName splitTable).perform Site.answer
          filedSite = (some (.ok t), s') ∧ ¬t.metadata.Covered ∧
        t.metadata.UsesColumn t.metadata.nextColumnId := by
  have hdeep : 6 ∈ splitTable.schema.fieldIds := by decide
  have hfirst : 1 ∈ splitTable.schema.fieldIds := by decide
  have hfield : 1000 ∈ splitTable.spec.fieldIds := by decide
  have hfirstField : 1 ∈ splitTable.spec.fieldIds := by decide
  have hmarks := splitTable.marks_reread Site.firstIds filedLocation
  have hread := splitTable.read?_content Site.firstIds filedLocation
  rw [if_pos (by decide)] at hread
  obtain ⟨t, s', hcreate, hmetadata⟩ := splitTable.perform_createTable_filedSite rfl (by decide)
  refine ⟨⟨_, _, splitTable.write?_metadata Site.firstIds filedLocation, hread,
    (hmarks.columns 6).2 hdeep, by decide, (hmarks.partitionFields 1000).2 hfield, by decide,
    hmarks.nextColumn.2 hfirst, hmarks.nextPartitionField.2 hfirstField⟩, t, s', hcreate, ?_, ?_⟩
  · rw [hmetadata, hmarks.covered]
    rintro ⟨hnone, -⟩
    exact absurd (hnone 6 hdeep) (by decide)
  · rw [hmetadata]
    exact hmarks.nextColumn.2 hfirst

end TableCreation

end LakeCatalog
