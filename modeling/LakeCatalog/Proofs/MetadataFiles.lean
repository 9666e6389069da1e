import LakeCatalog.Proofs.FieldTypes
import LakeCatalog.Proofs.JsonRoundTrip
import LakeCatalog.Table.Metadata

/-!
# Metadata of new tables is read back

What is written of a new table describes it.  Only its partition spec and its sort order may come
back elsewhere: they are written with their own ids and filed under these when they are read, while
a new table has them under the id zero.

* `Uuid.ofText?_text`, `SortedMap.ofList_entries` — a UUID, and a map that is written as a list;
* `PartitionSpec.ofJson?_toJson`, `SortOrder.ofJson?_toJson` — partitions and sort orders;
* `Metadata.ofJson?_initial` — the metadata of a new table.
-/

namespace LakeCatalog

/-! ### Identifiers -/

namespace Uuid

/-- A hexadecimal digit is none of the other characters of a UUID. -/
theorem ne_of_mem_spell {c : Char} {ds : List (Fin 16)} (h : c ∈ spell ds) :
    c ≠ '-' ∧ c ≠ '\x7b' ∧ c ≠ 'u' := by
  have hall : ∀ d : Fin 16, Text.lowerDigit d.val ≠ '-' ∧ Text.lowerDigit d.val ≠ '\x7b' ∧
      Text.lowerDigit d.val ≠ 'u' := by decide
  obtain ⟨d, -, rfl⟩ := List.mem_map.1 h
  exact hall d

/-- The five groups without their hyphens. -/
theorem filter_grouped {cs : List Char} (h : ∀ c ∈ cs, c ≠ '-') :
    (grouped cs).filter (· ≠ '-') = cs := by
  have hkeep : ∀ {ds : List Char}, (∀ d ∈ ds, d ∈ cs) → ds.filter (· ≠ '-') = ds := by
    intro ds hds
    rw [List.filter_eq_self]
    intro d hd
    exact decide_eq_true (h d (hds d hd))
  have hhyphen : ∀ ds : List Char, ('-' :: ds).filter (· ≠ '-') = ds.filter (· ≠ '-') :=
    fun ds => rfl
  have hjoin : ∀ n k, (cs.drop n).take k ++ cs.drop (n + k) = cs.drop n := by
    intro n k
    rw [← List.drop_drop, List.take_append_drop]
  have hdrop : ∀ n, ∀ d ∈ cs.drop n, d ∈ cs := fun n d hd => List.mem_of_mem_drop hd
  have hgroup : ∀ n k, ∀ d ∈ (cs.drop n).take k, d ∈ cs :=
    fun n k d hd => hdrop n d (List.mem_of_mem_take hd)
  unfold grouped
  rw [List.filter_append, hhyphen, List.filter_append, hhyphen, List.filter_append, hhyphen,
    List.filter_append, hhyphen, hkeep fun d hd => List.mem_of_mem_take hd, hkeep (hgroup 8 4),
    hkeep (hgroup 12 4), hkeep (hgroup 16 4), hkeep (hdrop 20), hjoin 16 4, hjoin 12 4,
    hjoin 8 4, List.take_append_drop]

theorem ofGroups?_grouped (u : Uuid) : ofGroups? (grouped (spell u.digits)) = some u := by
  have hlength : (spell u.digits).length = 32 := by
    unfold spell
    rw [List.length_map, u.length_eq]
  have hflat : (grouped (spell u.digits)).filter (· ≠ '-') = spell u.digits :=
    filter_grouped fun c hc => (ne_of_mem_spell hc).1
  unfold ofGroups? ungrouped?
  simp only [hflat]
  rw [if_pos ⟨hlength, trivial⟩, Option.bind_some]
  unfold ofDigits?
  rw [unspell?_spell]
  exact dif_pos u.length_eq

/-- **The text of a UUID** is read back. -/
theorem ofText?_text (u : Uuid) : ofText? u.text = some u := by
  have hlength : (spell u.digits).length = 32 := by
    unfold spell
    rw [List.length_map, u.length_eq]
  obtain ⟨c, cs, hcs⟩ : ∃ c cs, spell u.digits = c :: cs := by
    cases hspell : spell u.digits with
    | nil =>
        rw [hspell] at hlength
        cases hlength
    | cons c cs => exact ⟨c, cs, rfl⟩
  have hmem : c ∈ spell u.digits := by
    rw [hcs]
    exact List.mem_cons_self
  have hc := ne_of_mem_spell hmem
  have hgrouped : (grouped (spell u.digits)).length = 36 := by
    simp [grouped, hlength]
  obtain ⟨tail, htail⟩ : ∃ tail, grouped (spell u.digits) = c :: tail := by
    rw [hcs]
    exact ⟨_, rfl⟩
  have hbrace : ¬((grouped (spell u.digits)).head? = some '{' ∧
      (grouped (spell u.digits)).getLast? = some '}') := by
    rintro ⟨hhead, -⟩
    rw [htail] at hhead
    exact hc.2.1 (Option.some.inj hhead)
  have hurn : ¬(grouped (spell u.digits)).take 9 = urnMark := by
    intro htake
    rw [htail] at htake
    exact hc.2.2 (List.cons.inj htake).1
  unfold ofText? text
  simp only [String.toList_ofList]
  rw [if_neg (by omega), if_neg hbrace, if_neg hurn]
  exact ofGroups?_grouped u

end Uuid

/-! ### Maps -/

namespace SortedEntries

variable {κ ν : Type} [LT κ] [DecidableEq κ] [DecidableLT κ] [KeyOrder κ]

/-- A key beyond all others goes to the end. -/
theorem insert_last {k : κ} {v : ν} {es : List (κ × ν)} (h : ∀ e ∈ es, e.1 < k) :
    insert k v es = es ++ [(k, v)] := by
  induction es with
  | nil => rfl
  | cons e es ih =>
      obtain ⟨a, w⟩ := e
      rw [List.forall_mem_cons] at h
      have hlt : ¬k < a := fun hka => KeyOrder.irrefl a (KeyOrder.trans h.1 hka)
      have hne : a ≠ k := by
        rintro rfl
        exact KeyOrder.irrefl a h.1
      rw [insert, if_neg hlt, if_neg hne, ih h.2]
      rfl

/-- Entries that are put behind others, one after the other. -/
theorem foldl_insert (done es : List (κ × ν)) (hs : Sorted (done ++ es)) :
    es.foldl (fun es e => insert e.1 e.2 es) done = done ++ es := by
  induction es generalizing done with
  | nil => rw [List.append_nil]; rfl
  | cons e es ih =>
      have hlast : ∀ d ∈ done, d.1 < e.1 := by
        intro d hd
        exact (List.pairwise_append.1 hs).2.2 d hd e List.mem_cons_self
      rw [List.foldl_cons, insert_last hlast, ih _ (by rwa [List.append_assoc]), List.append_assoc]
      rfl

end SortedEntries

/-- **A map** is made of its entries. -/
theorem SortedMap.ofList_entries {κ ν : Type} [LT κ] [DecidableEq κ] [DecidableLT κ] [KeyOrder κ]
    (m : SortedMap κ ν) : ofList m.entries = m := by
  have hfold : ∀ (es : List (κ × ν)) (n : SortedMap κ ν),
      (es.foldl (fun m e => m.insert e.1 e.2) n).entries
        = es.foldl (fun es e => SortedEntries.insert e.1 e.2 es) n.entries := by
    intro es
    induction es with
    | nil => exact fun n => rfl
    | cons e es ih => exact fun n => ih (n.insert e.1 e.2)
  have hentries : (ofList m.entries).entries = m.entries := by
    unfold ofList
    rw [hfold]
    exact SortedEntries.foldl_insert [] m.entries m.sorted
  refine ext ?_
  intro k
  unfold get?
  rw [hentries]

/-- An object of texts is read back. -/
theorem Json.textMap?_ofTextMap (m : SortedMap String String) :
    textMap? (ofTextMap m) = some m := by
  have hentries : (m.entries.map fun e => (e.1, Json.str e.2)).mapM
      (fun m => (text? m.2).map (m.1, ·)) = some m.entries :=
    mapM_map_of_forall fun e _ => rfl
  show Option.map SortedMap.ofList (List.mapM _ _) = _
  rw [hentries, Option.map_some, SortedMap.ofList_entries]

/-! ### Partitions and sort orders -/

theorem PartitionField.ofJson?_toJson (f : PartitionField) : ofJson? f.toJson = some f := by
  simp [ofJson?, toJson, Json.record?, Json.recordWith?, Json.required, Json.valuesOf,
    Json.int32?_ofInt32, Json.text?, Transform.ofJson?_text]

theorem PartitionSpec.ofJson?_toJson (s : PartitionSpec) : ofJson? s.toJson = some s := by
  have hfields : Json.listOf? PartitionField.ofJson? s.fieldsToJson = some s.fields :=
    Json.listOf?_map PartitionField.ofJson?_toJson s.fields
  simp [ofJson?, toJson, Json.record?, Json.recordWith?, Json.required, Json.valuesOf,
    Json.int32?_ofInt32, hfields]

theorem SortDirection.ofJson?_text (d : SortDirection) : ofJson? (.str d.text) = some d := by
  cases d <;> decide

theorem NullOrder.ofJson?_text (o : NullOrder) : ofJson? (.str o.text) = some o := by
  cases o <;> decide

theorem SortField.ofJson?_toJson (f : SortField) : ofJson? f.toJson = some f := by
  simp [ofJson?, toJson, Json.record?, Json.recordWith?, Json.required, Json.valuesOf,
    Json.int32?_ofInt32, Transform.ofJson?_text, SortDirection.ofJson?_text,
    NullOrder.ofJson?_text]

theorem SortOrder.ofJson?_toJson (o : SortOrder) : ofJson? o.toJson = some o := by
  have hfields : Json.listOf? SortField.ofJson? (.arr (o.fields.map SortField.toJson))
      = some o.fields := Json.listOf?_map SortField.ofJson?_toJson o.fields
  simp [ofJson?, toJson, Json.record?, Json.recordWith?, Json.required, Json.valuesOf,
    Json.int32?_ofInt32, hfields]

/-! ### Metadata -/

namespace Metadata

variable (fresh : Fresh) (location : String) (schema : Schema)
  (partitionSpec : Option PartitionSpec) (sortOrder : Option SortOrder)
  (properties : SortedMap String String)

/-- The state of a new table as it is read back. -/
def reread : Metadata :=
  { initial fresh location schema partitionSpec sortOrder properties with
    partitionSpecs := byId PartitionSpec.id [partitionSpec.getD .unpartitioned]
    sortOrders := byId SortOrder.id [sortOrder.getD .unsorted] }

/-- The members that are written of a new table before those for its properties. -/
def membersBefore : List (String × Json) :=
  [("format-version", .int 2), ("table-uuid", .str fresh.tableId.text),
    ("location", .str location), ("last-sequence-number", .ofInt64 0),
    ("last-updated-ms", .ofInt64 fresh.nowMs), ("last-column-id", .ofInt32 0),
    ("schemas", .arr [schema.toJson]), ("current-schema-id", .ofInt32 schema.id),
    ("partition-specs", .arr [(partitionSpec.getD .unpartitioned).toJson]),
    ("default-spec-id", .ofInt32 0), ("last-partition-id", .ofInt32 0)]

/-- The members that are written of a new table after those for its properties. -/
def membersAfter : List (String × Json) :=
  [("current-snapshot-id", .ofInt64 (-1)), ("snapshots", .arr []),
    ("sort-orders", .arr [(sortOrder.getD .unsorted).toJson]), ("default-sort-order-id", .ofInt32 0)]

/-- The members that are written of a new table; the one for its properties may be missing. -/
def initialMembers : List (String × Json) :=
  membersBefore fresh location schema partitionSpec
    ++ ((nonEmptyTexts properties).toList ++ membersAfter sortOrder)

theorem toJsonV2_initial :
    (initial fresh location schema partitionSpec sortOrder properties).toJsonV2
      = .obj (initialMembers fresh location schema partitionSpec sortOrder properties) := by
  unfold toJsonV2 Json.record initialMembers membersBefore
  show Json.obj (List.filterMap id (_ :: _ :: _ :: _ :: _ :: _ :: _ :: _ :: _ :: _ :: _ ::
    nonEmptyTexts properties :: _)) = _
  cases nonEmptyTexts properties with
  | none => rfl
  | some m => rfl

/-- The values of any other member do not depend on the properties. -/
theorem valuesOf_initialMembers {k : String} (hk : "properties" ≠ k) :
    Json.valuesOf (initialMembers fresh location schema partitionSpec sortOrder properties) k
      = Json.valuesOf (membersBefore fresh location schema partitionSpec) k
        ++ Json.valuesOf (membersAfter sortOrder) k := by
  have hproperties : Json.valuesOf (nonEmptyTexts properties).toList k = [] := by
    unfold nonEmptyTexts Json.valuesOf
    split
    · rfl
    · rw [Option.toList_some, List.filterMap_cons, if_neg hk]
      rfl
  unfold initialMembers
  unfold Json.valuesOf at hproperties ⊢
  rw [List.filterMap_append, List.filterMap_append, hproperties, List.nil_append]

/-- The properties are read back, also where there are none. -/
theorem properties_initialMembers :
    Json.defaulted (initialMembers fresh location schema partitionSpec sortOrder properties)
      "properties" .empty Json.textMap? = some properties := by
  unfold initialMembers
  by_cases hempty : properties.isEmpty = true
  · have hmember : nonEmptyTexts properties = none := if_pos hempty
    rw [hmember, SortedMap.eq_empty_of_isEmpty hempty]
    rfl
  · have hmember : nonEmptyTexts properties = some ("properties", .ofTextMap properties) :=
      if_neg hempty
    rw [hmember]
    exact Json.textMap?_ofTextMap properties

section Reading

variable {fresh location schema partitionSpec sortOrder properties} {α : Type} {k : String}
  {f : Json → Option α} {b : Json}

theorem required_initialMembers (hk : "properties" ≠ k)
    (hb : Json.valuesOf (membersBefore fresh location schema partitionSpec) k
      ++ Json.valuesOf (membersAfter sortOrder) k = [b]) :
    Json.required (initialMembers fresh location schema partitionSpec sortOrder properties) k f
      = f b := by
  unfold Json.required
  rw [valuesOf_initialMembers _ _ _ _ _ _ hk, hb]

theorem defaulted_initialMembers {d : α} (hk : "properties" ≠ k)
    (hb : Json.valuesOf (membersBefore fresh location schema partitionSpec) k
      ++ Json.valuesOf (membersAfter sortOrder) k = [b]) :
    Json.defaulted (initialMembers fresh location schema partitionSpec sortOrder properties) k d f
      = f b := by
  unfold Json.defaulted
  rw [valuesOf_initialMembers _ _ _ _ _ _ hk, hb]

theorem missing_initialMembers {d : α} (hk : "properties" ≠ k)
    (hb : Json.valuesOf (membersBefore fresh location schema partitionSpec) k
      ++ Json.valuesOf (membersAfter sortOrder) k = []) :
    Json.defaulted (initialMembers fresh location schema partitionSpec sortOrder properties) k d f
      = some d := by
  unfold Json.defaulted
  rw [valuesOf_initialMembers _ _ _ _ _ _ hk, hb]

end Reading

/-- **What is written of a new table** describes it. -/
theorem ofJsonV2?_initial :
    ofJsonV2? (initial fresh location schema partitionSpec sortOrder properties).toJsonV2
      = some (reread fresh location schema partitionSpec sortOrder properties) := by
  have hschemas : Json.listOf? Schema.ofJson? (.arr [schema.toJson]) = some [schema] :=
    Json.listOf?_map Schema.ofJson?_toJson [schema]
  have hspecs : ∀ s : PartitionSpec,
      Json.listOf? PartitionSpec.ofJson? (.arr [s.toJson]) = some [s] :=
    fun s => Json.listOf?_map PartitionSpec.ofJson?_toJson [s]
  have horders : ∀ o : SortOrder, Json.listOf? SortOrder.ofJson? (.arr [o.toJson]) = some [o] :=
    fun o => Json.listOf?_map SortOrder.ofJson?_toJson [o]
  have huuid : uuid? (.str fresh.tableId.text) = some fresh.tableId := Uuid.ofText?_text _
  have hsnapshot : Json.nullable Json.int64? (.ofInt64 (-1)) = some (some (-1)) := by decide
  have hsnapshots : Json.nullable (Json.listOf? Snapshot.ofJson?) (.arr []) = some (some []) := rfl
  have hcurrent : (byId Schema.id [schema]).contains schema.id = true := by
    show (Option.isSome (if schema.id = schema.id then some schema else none)) = true
    rw [if_pos rfl]
    rfl
  rw [toJsonV2_initial]
  unfold ofJsonV2? version? Json.optional listMember
  show Option.bind (some (initialMembers fresh location schema partitionSpec sortOrder
    properties)) _ = _
  rw [Option.bind_some]
  rw [properties_initialMembers,
    required_initialMembers (k := "format-version") (by decide) rfl,
    required_initialMembers (k := "table-uuid") (by decide) rfl,
    required_initialMembers (k := "location") (by decide) rfl,
    required_initialMembers (k := "last-sequence-number") (by decide) rfl,
    required_initialMembers (k := "last-updated-ms") (by decide) rfl,
    required_initialMembers (k := "last-column-id") (by decide) rfl,
    required_initialMembers (k := "schemas") (by decide) rfl,
    required_initialMembers (k := "current-schema-id") (by decide) rfl,
    required_initialMembers (k := "partition-specs") (by decide) rfl,
    required_initialMembers (k := "default-spec-id") (by decide) rfl,
    required_initialMembers (k := "last-partition-id") (by decide) rfl,
    required_initialMembers (k := "sort-orders") (by decide) rfl,
    required_initialMembers (k := "default-sort-order-id") (by decide) rfl,
    defaulted_initialMembers (k := "current-snapshot-id") (by decide) rfl,
    defaulted_initialMembers (k := "snapshots") (by decide) rfl,
    missing_initialMembers (k := "snapshot-log") (by decide) rfl,
    missing_initialMembers (k := "metadata-log") (by decide) rfl,
    missing_initialMembers (k := "refs") (by decide) rfl]
  rw [hschemas, hspecs, horders, huuid, hsnapshot, hsnapshots, Json.int32?_ofInt32 0,
    Json.int32?_ofInt32 schema.id, Json.int64?_ofInt64 0, Json.int64?_ofInt64 fresh.nowMs]
  show (if (byId Schema.id [schema]).contains schema.id = true then _ else none) = _
  rw [if_pos hcurrent]
  rfl

end Metadata

end LakeCatalog
