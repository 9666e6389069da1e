import LakeCatalog.Glue.Message
import LakeCatalog.Proofs.GlueShapes
import LakeCatalog.Proofs.MetadataFiles

/-!
# Records in messages are read back

A record goes into a request without its absent members, and is read from an answer by the names of
its members.  What is sent has the shape that an answer must have, and is read as the record that it
was made of.

* `present` — the members of a record whose values may be absent;
* `Tells`, `tells_present` — what a list of members tells under a name;
* `columnFields`, `serdeFields`, `descriptorFields`, `tableFields`, `databaseFields` — the members of
  each record;
* `hasShape_table`, `hasShape_database` — what is sent has the shape of what is answered;
* `columnOfGlue_columnToGlue`, `serdeOfGlue_present`, `descriptorOfGlue_present`,
  `tableOfGlue_of_tells`, `databaseOfGlue_of_tells` — each record is read back.
-/

namespace LakeCatalog.Glue

/-! ### Members -/

/-- The members of a record whose values may be absent. -/
def present (fields : List (String × Option Json)) : List (String × Json) :=
  fields.filterMap fun f => f.2.map (f.1, ·)

/-- What some members tell under a name: one value, or none. -/
def Tells (ms : List (String × Json)) (name : String) (o : Option Json) : Prop :=
  ∀ j, (name, j) ∈ ms ↔ o = some j

section Tells

variable {ms ms' : List (String × Json)} {name : String} {o : Option Json}

theorem Tells.congr (h : Tells ms name o) (hsame : ∀ j, (name, j) ∈ ms' ↔ (name, j) ∈ ms) :
    Tells ms' name o :=
  fun j => (hsame j).trans (h j)

/-- The first member of a name is the one that is told. -/
theorem Tells.lookup (h : Tells ms name o) : Entries.lookup name ms = o := by
  cases hlookup : Entries.lookup name ms with
  | some j => exact ((h j).1 (Entries.mem_of_lookup_eq_some hlookup)).symm
  | none =>
      cases o with
      | none => rfl
      | some j =>
          exact absurd rfl (Entries.lookup_eq_none_iff.1 hlookup (name, j) ((h j).2 rfl))

theorem Tells.lastMember (h : Tells ms name o) (hnull : o ≠ some .null) :
    lastMember ms name = o := by
  have hreverse : Entries.lookup name ms.reverse = o :=
    (h.congr fun j => List.mem_reverse).lookup
  unfold Glue.lastMember
  rw [hreverse]
  split
  · exact absurd rfl hnull
  · rfl
  · rfl

theorem Tells.textOf {s : Option String} (h : Tells ms name (s.map .str)) : textOf ms name = s := by
  unfold Glue.textOf
  cases s with
  | none => rw [h.lastMember nofun]; rfl
  | some s => rw [h.lastMember nofun]; rfl

theorem Tells.parametersOf {p : Properties} (h : Tells ms "Parameters" (some (.ofTextMap p))) :
    parametersOf ms = p := by
  unfold Glue.parametersOf
  rw [h.lastMember nofun, Option.bind_some, Json.textMap?_ofTextMap]
  rfl

/-- Of fields with different names, the one of a name is told. -/
theorem tells_present {fields : List (String × Option Json)} (h : (fields.map (·.1)).Nodup)
    (name : String) : Tells (present fields) name (Entries.lookup name fields).join := by
  induction fields with
  | nil =>
      intro j
      exact iff_of_false List.not_mem_nil nofun
  | cons f fields ih =>
      obtain ⟨k, o⟩ := f
      rw [List.map_cons, List.nodup_cons] at h
      intro j
      have hrest := ih h.2 j
      have hmem : (name, j) ∈ present ((k, o) :: fields)
          ↔ (k = name ∧ o = some j) ∨ (name, j) ∈ present fields := by
        unfold present
        cases o with
        | none => simp
        | some v => simp [eq_comm]
      rw [hmem, hrest]
      by_cases hk : k = name
      · subst hk
        have hnone : Entries.lookup k fields = none := by
          refine Entries.lookup_eq_none_iff.2 ?_
          rintro e he rfl
          exact h.1 (List.mem_map.2 ⟨e, he, rfl⟩)
        simp [Entries.lookup, hnone]
      · simp [Entries.lookup, hk]

end Tells

/-! ### The members of each record -/

/-- A field with texts by name, unless there are none. -/
def parametersValue (p : Properties) : Option Json := if p.isEmpty then none else some (.ofTextMap p)

/-- A field with a truth value, which is absent when it is false. -/
def flagValue (b : Bool) : Option Json := if b then some (.bool true) else none

/-- The fields of a column. -/
def columnFields (c : Column) : List (String × Option Json) :=
  [("Name", some (.str c.name)), ("Type", c.columnType.map .str),
    ("Comment", c.comment.map .str), ("Parameters", parametersValue c.parameters)]

/-- The fields of a row layout. -/
def serdeFields (s : SerdeInfo) : List (String × Option Json) :=
  [("Name", s.name.map .str), ("SerializationLibrary", s.serializationLibrary.map .str),
    ("Parameters", parametersValue s.parameters)]

/-- The fields of a descriptor. -/
def descriptorFields (d : StorageDescriptor) : List (String × Option Json) :=
  [("Columns", some (.arr (d.columns.map columnToGlue))), ("Location", d.location.map .str),
    ("InputFormat", d.inputFormat.map .str), ("OutputFormat", d.outputFormat.map .str),
    ("Compressed", flagValue d.compressed),
    ("NumberOfBuckets", if d.numberOfBuckets = 0 then none else some (.ofInt32 d.numberOfBuckets)),
    ("SerdeInfo", d.serdeInfo.map serdeToGlue),
    ("BucketColumns", some (.ofStrings d.bucketColumns)),
    ("Parameters", parametersValue d.parameters),
    ("StoredAsSubDirectories", flagValue d.storedAsSubDirectories)]

/-- The fields of a table. -/
def tableFields (t : TableRecord) : List (String × Option Json) :=
  [("Name", some (.str t.name)), ("Description", t.description.map .str),
    ("Owner", t.owner.map .str), ("TableType", t.tableType.map .str),
    ("Parameters", parametersValue t.parameters),
    ("StorageDescriptor", t.storageDescriptor.map descriptorToGlue)]

/-- The fields of a database. -/
def databaseFields (d : DatabaseRecord) : List (String × Option Json) :=
  [("Name", some (.str d.name)), ("Description", d.description.map .str),
    ("LocationUri", d.locationUri.map .str), ("Parameters", some (.ofTextMap d.parameters))]

/-- The fields of a table in an answer, which names the database too. -/
def answeredFields (database : String) (t : TableRecord) : List (String × Option Json) :=
  ("DatabaseName", some (.str database)) :: tableFields t

/-- The names under which a table is read from an answer. -/
def tableNames : List String :=
  ["Name", "DatabaseName", "Description", "Owner", "TableType", "Parameters", "StorageDescriptor"]

/-- The names under which a database is read from an answer. -/
def databaseNames : List String := ["Name", "Description", "LocationUri", "Parameters"]

theorem textMember_eq (name : String) (s : Option String) :
    textMember name s = (s.map Json.str).map (name, ·) := by
  cases s <;> rfl

theorem parametersMember_eq (p : Properties) :
    parametersMember p = (parametersValue p).map ("Parameters", ·) := by
  unfold parametersMember parametersValue
  split <;> rfl

theorem flagMember_eq (name : String) (b : Bool) :
    flagMember name b = (flagValue b).map (name, ·) := by
  cases b <;> rfl

theorem record_eq (fields : List (String × Option Json)) :
    Json.record (fields.map fun f => f.2.map (f.1, ·)) = .obj (present fields) := by
  unfold Json.record present
  rw [List.filterMap_map]
  rfl

theorem columnToGlue_eq (c : Column) : columnToGlue c = .obj (present (columnFields c)) := by
  unfold columnToGlue
  rw [textMember_eq, textMember_eq, parametersMember_eq, ← record_eq]
  rfl

theorem serdeToGlue_eq (s : SerdeInfo) : serdeToGlue s = .obj (present (serdeFields s)) := by
  unfold serdeToGlue
  rw [textMember_eq, textMember_eq, parametersMember_eq, ← record_eq]
  rfl

theorem descriptorToGlue_eq (d : StorageDescriptor) :
    descriptorToGlue d = .obj (present (descriptorFields d)) := by
  have hbuckets : (if d.numberOfBuckets = 0 then none
      else some ("NumberOfBuckets", Json.ofInt32 d.numberOfBuckets))
      = (if d.numberOfBuckets = 0 then none
          else some (Json.ofInt32 d.numberOfBuckets)).map ("NumberOfBuckets", ·) := by
    split <;> rfl
  have hserde : (d.serdeInfo.map fun s => ("SerdeInfo", serdeToGlue s))
      = (d.serdeInfo.map serdeToGlue).map ("SerdeInfo", ·) := by
    rw [Option.map_map]
    rfl
  unfold descriptorToGlue
  rw [textMember_eq, textMember_eq, textMember_eq, flagMember_eq, flagMember_eq,
    parametersMember_eq, hbuckets, hserde, ← record_eq]
  rfl

theorem tableToGlue_eq (t : TableRecord) : tableToGlue t = .obj (present (tableFields t)) := by
  have hdescriptor : (t.storageDescriptor.map fun d => ("StorageDescriptor", descriptorToGlue d))
      = (t.storageDescriptor.map descriptorToGlue).map ("StorageDescriptor", ·) := by
    rw [Option.map_map]
    rfl
  unfold tableToGlue
  rw [textMember_eq, textMember_eq, textMember_eq, parametersMember_eq, hdescriptor, ← record_eq]
  rfl

theorem databaseToGlue_eq (d : DatabaseRecord) :
    databaseToGlue d = .obj (present (databaseFields d)) := by
  unfold databaseToGlue
  rw [textMember_eq, textMember_eq, ← record_eq]
  rfl

/-! ### What is sent has the shape of what is answered -/

/-- A field is absent, or a record knows it and it has the shape that it should have there. -/
def Fits (room : Nat) (members : List (String × Shape)) (f : String × Option Json) : Prop :=
  ∀ j, f.2 = some j → ∃ shape, Entries.lookup f.1 members = some shape ∧ HasShape room shape j

section Fits

variable {room : Nat} {members : List (String × Shape)} {name : String}

theorem hasShape_present {fields : List (String × Option Json)}
    (h : ∀ f ∈ fields, Fits room members f) :
    HasShape (room + 1) (.structure members) (.obj (present fields)) := by
  have hfits : ∀ m ∈ present fields,
      ∃ shape, Entries.lookup m.1 members = some shape ∧ HasShape room shape m.2 := by
    intro m hm
    obtain ⟨f, hf, hsome⟩ := List.mem_filterMap.1 hm
    obtain ⟨j, hj, rfl⟩ := Option.map_eq_some_iff.1 hsome
    exact h f hf j hj
  refine .record ?_ ?_
  · intro m hm
    obtain ⟨shape, hshape, -⟩ := hfits m hm
    rw [hshape]
    rfl
  · intro m hm shape hshape
    obtain ⟨shape', hshape', hhas⟩ := hfits m hm
    rw [hshape, Option.some.injEq] at hshape'
    rw [hshape']
    exact hhas

theorem fits_some {shape : Shape} {j : Json} (hknown : Entries.lookup name members = some shape)
    (h : HasShape room shape j) : Fits room members (name, some j) := by
  intro j' hj'
  cases hj'
  exact ⟨shape, hknown, h⟩

theorem fits_map {α : Type} {shape : Shape} {write : α → Json}
    (hknown : Entries.lookup name members = some shape) (h : ∀ a, HasShape room shape (write a))
    (o : Option α) : Fits room members (name, o.map write) := by
  cases o with
  | none => exact nofun
  | some a => exact fits_some hknown (h a)

theorem fits_text (hknown : Entries.lookup name members = some .string) (s : Option String) :
    Fits room members (name, s.map .str) :=
  fits_map hknown .string s

theorem hasShape_ofTextMap (p : Properties) :
    HasShape (room + 1) (.map .string) (.ofTextMap p) := by
  refine .map ?_
  intro m hm
  obtain ⟨e, -, rfl⟩ := List.mem_map.1 hm
  exact .string e.2

theorem fits_parameters (hknown : Entries.lookup "Parameters" members = some (.map .string))
    (p : Properties) : Fits (room + 1) members ("Parameters", parametersValue p) := by
  unfold parametersValue
  split
  · exact nofun
  · exact fits_some hknown (hasShape_ofTextMap p)

theorem fits_flag (hknown : Entries.lookup name members = some .boolean) (b : Bool) :
    Fits room members (name, flagValue b) := by
  cases b with
  | false => exact nofun
  | true => exact fits_some hknown (.boolean true)

theorem hasShape_ofInt32 (i : Int32) : HasShape room .int32 (.ofInt32 i) := by
  refine .int32 ?_
  have hlow := i.le_toInt
  have hhigh := i.toInt_lt
  unfold isInt32
  simp only [Bool.and_eq_true, decide_eq_true_eq]
  omega

theorem hasShape_column (c : Column) : HasShape (room + 2) Shape.column (columnToGlue c) := by
  rw [columnToGlue_eq]
  refine hasShape_present ?_
  unfold columnFields
  simp only [List.forall_mem_cons]
  exact ⟨fits_some rfl (.string _), fits_text rfl _, fits_text rfl _, fits_parameters rfl _,
    List.forall_mem_nil _⟩

theorem hasShape_serde (s : SerdeInfo) : HasShape (room + 2) Shape.serdeInfo (serdeToGlue s) := by
  rw [serdeToGlue_eq]
  refine hasShape_present ?_
  unfold serdeFields
  simp only [List.forall_mem_cons]
  exact ⟨fits_text rfl _, fits_text rfl _, fits_parameters rfl _, List.forall_mem_nil _⟩

theorem hasShape_descriptor (d : StorageDescriptor) :
    HasShape (room + 4) Shape.storageDescriptor (descriptorToGlue d) := by
  have hcolumns : HasShape (room + 3) (.list Shape.column) (.arr (d.columns.map columnToGlue)) := by
    refine .list ?_
    intro j hj
    obtain ⟨c, -, rfl⟩ := List.mem_map.1 hj
    exact hasShape_column c
  have hbuckets : HasShape (room + 3) (.list .string) (.ofStrings d.bucketColumns) := by
    refine .list ?_
    intro j hj
    obtain ⟨s, -, rfl⟩ := List.mem_map.1 hj
    exact .string s
  rw [descriptorToGlue_eq]
  refine hasShape_present ?_
  unfold descriptorFields
  simp only [List.forall_mem_cons]
  refine ⟨fits_some rfl hcolumns, fits_text rfl _, fits_text rfl _, fits_text rfl _,
    fits_flag rfl _, ?_, fits_map rfl hasShape_serde _, fits_some rfl hbuckets,
    fits_parameters rfl _, fits_flag rfl _, List.forall_mem_nil _⟩
  split
  · exact nofun
  · exact fits_some rfl (hasShape_ofInt32 _)

/-- A table in an answer names its database too. -/
theorem hasShape_table (database : String) (t : TableRecord) :
    HasShape (room + 5) (.structure tableMembers)
      (.obj (present (answeredFields database t))) := by
  refine hasShape_present ?_
  unfold answeredFields tableFields
  simp only [List.forall_mem_cons]
  exact ⟨fits_some rfl (.string _), fits_some rfl (.string _), fits_text rfl _, fits_text rfl _,
    fits_text rfl _, fits_parameters rfl _, fits_map rfl hasShape_descriptor _,
    List.forall_mem_nil _⟩

theorem hasShape_database (d : DatabaseRecord) :
    HasShape (room + 2) databaseShape (.obj (present (databaseFields d))) := by
  refine hasShape_present ?_
  unfold databaseFields
  simp only [List.forall_mem_cons]
  exact ⟨fits_some rfl (.string _), fits_text rfl _, fits_text rfl _,
    fits_some rfl (hasShape_ofTextMap _), List.forall_mem_nil _⟩

end Fits

/-! ### Records are read back -/

section Reading

variable {ms : List (String × Json)} {name : String}

/-- Parameters that were left out since there are none are read as none. -/
theorem Tells.parametersOf_value {p : Properties} (h : Tells ms "Parameters" (parametersValue p)) :
    Glue.parametersOf ms = p := by
  unfold parametersValue at h
  split at h
  · rename_i hempty
    unfold Glue.parametersOf
    rw [h.lastMember nofun, SortedMap.eq_empty_of_isEmpty hempty]
    rfl
  · exact h.parametersOf

theorem Tells.flagOf {b : Bool} (h : Tells ms name (flagValue b)) : flagOf ms name = b := by
  unfold Glue.flagOf
  cases b with
  | false => rw [h.lastMember nofun]; rfl
  | true => rw [h.lastMember nofun]; rfl

theorem Tells.itemsOf {js : List Json} (h : Tells ms name (some (.arr js))) :
    itemsOf ms name = js := by
  unfold Glue.itemsOf
  rw [h.lastMember nofun]

theorem Tells.recordOf {α : Type} {write : α → List (String × Json)} {o : Option α}
    (h : Tells ms name (o.map fun a => .obj (write a))) : recordOf ms name = o.map write := by
  unfold Glue.recordOf
  cases o with
  | none => rw [h.lastMember nofun]; rfl
  | some a => rw [h.lastMember nofun]; rfl

/-- A number that was left out since it is zero is read as zero. -/
theorem Tells.bucketsOf {i : Int32}
    (h : Tells ms name (if i = 0 then none else some (.ofInt32 i))) :
    ((Glue.lastMember ms name).bind Json.int32?).getD 0 = i := by
  split at h
  · rename_i hzero
    rw [h.lastMember nofun, hzero]
    rfl
  · rw [h.lastMember nofun, Option.bind_some, Json.int32?_ofInt32]
    rfl

theorem columnOfGlue_columnToGlue (c : Column) : columnOfGlue (columnToGlue c) = c := by
  have hnodup : ((columnFields c).map (·.1)).Nodup := by simp [columnFields]
  have htells := tells_present hnodup
  have hname : textOf (present (columnFields c)) "Name" = some c.name := (htells "Name").textOf
  have htype : textOf (present (columnFields c)) "Type" = c.columnType := (htells "Type").textOf
  have hcomment : textOf (present (columnFields c)) "Comment" = c.comment :=
    (htells "Comment").textOf
  have hparameters : parametersOf (present (columnFields c)) = c.parameters :=
    (htells "Parameters").parametersOf_value
  rw [columnToGlue_eq]
  unfold columnOfGlue
  simp only [Json.members?, Option.getD_some, hname, htype, hcomment, hparameters]

theorem serdeOfGlue_present (s : SerdeInfo) : serdeOfGlue (present (serdeFields s)) = s := by
  have hnodup : ((serdeFields s).map (·.1)).Nodup := by simp [serdeFields]
  have htells := tells_present hnodup
  have hname : textOf (present (serdeFields s)) "Name" = s.name := (htells "Name").textOf
  have hlibrary : textOf (present (serdeFields s)) "SerializationLibrary"
      = s.serializationLibrary := (htells "SerializationLibrary").textOf
  have hparameters : parametersOf (present (serdeFields s)) = s.parameters :=
    (htells "Parameters").parametersOf_value
  unfold serdeOfGlue
  rw [hname, hlibrary, hparameters]

/-- A record inside a record is read back, if there is one. -/
theorem Tells.nested {α : Type} {write : α → Json} {fields : α → List (String × Option Json)}
    {read : List (String × Json) → α} (hwrite : ∀ a, write a = .obj (present (fields a)))
    (hread : ∀ a, read (present (fields a)) = a) {o : Option α}
    (h : Tells ms name (o.map write)) : (Glue.recordOf ms name).map read = o := by
  have hwritten : o.map write = o.map fun a => .obj (present (fields a)) :=
    congrArg (o.map ·) (funext hwrite)
  rw [hwritten] at h
  rw [h.recordOf, Option.map_map]
  cases o with
  | none => rfl
  | some a => exact congrArg some (hread a)

/-- The columns in a descriptor are read back, in their order. -/
theorem columns_of_tells {columns : List Column}
    (h : Tells ms "Columns" (some (.arr (columns.map columnToGlue)))) :
    (itemsOf ms "Columns").map columnOfGlue = columns := by
  have hinverse : columnOfGlue ∘ columnToGlue = id := funext columnOfGlue_columnToGlue
  rw [h.itemsOf, List.map_map, hinverse, List.map_id]

theorem bucketColumns_of_tells {names : List String}
    (h : Tells ms "BucketColumns" (some (.ofStrings names))) :
    (itemsOf ms "BucketColumns").filterMap Json.text? = names := by
  have hitems : itemsOf ms "BucketColumns" = names.map Json.str := h.itemsOf
  rw [hitems, List.filterMap_map]
  exact List.filterMap_some

theorem descriptorOfGlue_present (d : StorageDescriptor) :
    descriptorOfGlue (present (descriptorFields d)) = d := by
  have hnodup : ((descriptorFields d).map (·.1)).Nodup := by simp [descriptorFields]
  have htells := tells_present hnodup
  generalize present (descriptorFields d) = ms at htells
  have hlocation : textOf ms "Location" = d.location := (htells "Location").textOf
  have hinput : textOf ms "InputFormat" = d.inputFormat := (htells "InputFormat").textOf
  have houtput : textOf ms "OutputFormat" = d.outputFormat := (htells "OutputFormat").textOf
  have hcompressed : flagOf ms "Compressed" = d.compressed := (htells "Compressed").flagOf
  have hbuckets : ((lastMember ms "NumberOfBuckets").bind Json.int32?).getD 0
      = d.numberOfBuckets := (htells "NumberOfBuckets").bucketsOf
  have hcolumns : (itemsOf ms "Columns").map columnOfGlue = d.columns :=
    columns_of_tells (htells "Columns")
  have hbucketColumns : (itemsOf ms "BucketColumns").filterMap Json.text? = d.bucketColumns :=
    bucketColumns_of_tells (htells "BucketColumns")
  have hserde : (recordOf ms "SerdeInfo").map serdeOfGlue = d.serdeInfo :=
    (htells "SerdeInfo").nested serdeToGlue_eq serdeOfGlue_present
  have hparameters : parametersOf ms = d.parameters := (htells "Parameters").parametersOf_value
  have hsub : flagOf ms "StoredAsSubDirectories" = d.storedAsSubDirectories :=
    (htells "StoredAsSubDirectories").flagOf
  unfold descriptorOfGlue
  rw [hlocation, hinput, houtput, hcompressed, hbuckets, hcolumns, hbucketColumns, hserde,
    hparameters, hsub]

/-- **A table** is read back from any answer that tells, under the names that are read, what was
sent and the database beside it. -/
theorem tableOfGlue_of_tells {database : String} {t : TableRecord}
    (h : ∀ name ∈ tableNames, Tells ms name (Entries.lookup name (answeredFields database t)).join) :
    tableOfGlue (.obj ms) = { t with databaseName := some database } := by
  simp only [tableNames, List.forall_mem_cons] at h
  obtain ⟨hname, hdatabase, hdescription, howner, htype, hparameters, hdescriptor, -⟩ := h
  replace hname : textOf ms "Name" = some t.name := hname.textOf
  replace hdatabase : textOf ms "DatabaseName" = some database := hdatabase.textOf
  replace hdescription : textOf ms "Description" = t.description := hdescription.textOf
  replace howner : textOf ms "Owner" = t.owner := howner.textOf
  replace htype : textOf ms "TableType" = t.tableType := htype.textOf
  replace hparameters : parametersOf ms = t.parameters := hparameters.parametersOf_value
  replace hdescriptor : (recordOf ms "StorageDescriptor").map descriptorOfGlue
      = t.storageDescriptor := hdescriptor.nested descriptorToGlue_eq descriptorOfGlue_present
  unfold tableOfGlue
  simp only [Json.members?, Option.getD_some, hname, hdatabase, hdescription, howner, htype,
    hparameters, hdescriptor]

/-- **A database** is read back from any answer that tells, under the names that are read, what
was sent. -/
theorem databaseOfGlue_of_tells {d : DatabaseRecord}
    (h : ∀ name ∈ databaseNames, Tells ms name (Entries.lookup name (databaseFields d)).join) :
    databaseOfGlue (.obj ms) = d := by
  simp only [databaseNames, List.forall_mem_cons] at h
  obtain ⟨hname, hdescription, hlocation, hparameters, -⟩ := h
  replace hname : textOf ms "Name" = some d.name := hname.textOf
  replace hdescription : textOf ms "Description" = d.description := hdescription.textOf
  replace hlocation : textOf ms "LocationUri" = d.locationUri := hlocation.textOf
  replace hparameters : parametersOf ms = d.parameters := hparameters.parametersOf
  unfold databaseOfGlue
  simp only [Json.members?, Option.getD_some, hname, hdescription, hlocation, hparameters]

end Reading

end LakeCatalog.Glue
