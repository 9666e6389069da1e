import LakeCatalog.Proofs.DefaultIds
import LakeCatalog.Proofs.LateErrors

/-!
# Metadata that is written and read again

The metadata of a new table is written to an object store and read from there, at once by the
creation itself and later by whoever loads the table.  If its partition spec and its sort order have
the default id, then what is read is what was written, in memory and in a directory, whatever else
fails; only a schema that is nested too deep for the reader is written and never read.

* `ObjectStore.get_put` — an object that was written is there;
* `Trial.readMetadata_eq`, `Trial.loadTable_ok_iff` — what reading and loading come down to;
* `Trial.StillHolds` — an object is as it was;
* `TableCreation.reads_back` — what was written is read again;
* `TableCreation.deep_unread` — a table whose metadata is written and cannot be read.
-/

namespace LakeCatalog

open Metastore (Call Memory)

/-! ### Objects that were written -/

theorem FileTree.content?_setFile (t : FileTree) (p : List String) (data : ByteArray) :
    (t.setFile p data).content? p = some data := by
  have hothers : (t.files.filter fun f => f.1 ≠ p).find? (fun f => f.1 = p) = none := by
    refine List.find?_eq_none.2 ?_
    intro f hf
    simpa using (List.mem_filter.1 hf).2
  unfold content? setFile
  rw [List.find?_append, hothers]
  simp

theorem Directory.get_put {d d' : Directory} {path : String} {data : ByteArray}
    (h : d.put path data = (.ok (), d')) : d'.get path = .ok data := by
  have hset : ∃ t : FileTree, d' = { d with tree := t.setFile (d.fileOf path) data } := by
    simp only [put] at h
    split at h
    · cases h
    · split at h
      · cases h
        exact ⟨_, rfl⟩
      · cases h
  obtain ⟨t, rfl⟩ := hset
  have hcontent : (t.setFile (d.fileOf path) data).content?
      ({ d with tree := t.setFile (d.fileOf path) data }.fileOf path) = some data :=
    t.content?_setFile (d.fileOf path) data
  unfold get
  simp only [hcontent]

/-- **An object that was written** is there. -/
theorem ObjectStore.get_put {s s' : ObjectStore} {path : String} {data : ByteArray}
    (h : s.put path data = (.ok (), s')) : s'.get path = .ok data := by
  cases s with
  | memory objects =>
      have hstate : ObjectStore.memory (objects.insert path data) = s' := congrArg Prod.snd h
      rw [← hstate]
      unfold get
      simp only [OrderedMap.get?_insert_self]
  | directory d =>
      rcases hput : d.put path data with ⟨result, d'⟩
      simp only [put, hput, Prod.mk.injEq] at h
      obtain ⟨rfl, rfl⟩ := h
      exact Directory.get_put hput
  | bucket name =>
      simp [put] at h

/-! ### Reading and loading -/

namespace Trial

variable {plan plan' : FaultPlan} {t t' t'' : Trial} {file path : String} {data : ByteArray}
  {c : Catalog} {k : TableName}

theorem get_of_put (h : Catalog.put (answer plan) path data t = (.ok (), t')) :
    t'.objects.get path = .ok data := by
  unfold Catalog.put answer at h
  cases hfault : plan.objects t.accesses with
  | some e =>
      simp only [hfault] at h
      cases h
  | none =>
      simp only [hfault] at h
      obtain ⟨hresult, rfl⟩ := Prod.mk.inj h
      exact ObjectStore.get_put (Prod.ext hresult rfl)

/-- Content that was given is what lies there. -/
theorem get_of_answer (h : (answer plan (.get path) t).1 = .ok data) :
    t.objects.get path = .ok data := by
  rw [answer_get] at h
  cases hfault : plan.objects t.accesses with
  | some cause =>
      rw [hfault] at h
      cases h
  | none =>
      rw [hfault] at h
      exact h

/-- What the metadata file at a location is read as. -/
theorem readMetadata_eq (hpath : Objects.pathOf file = .ok path) (plan : FaultPlan) (t : Trial) :
    ((Objects.readMetadata file).perform (answer plan) t).1
      = some (match (answer plan (.get path) t).1 with
        | .error cause => .error (.objectStore file cause)
        | .ok data => match Metadata.read? data with
          | some m => .ok m
          | none => .error (.metadata file)) := by
  obtain ⟨t', hread⟩ := exists_read plan hpath t
  unfold Objects.readMetadata
  cases hget : (answer plan (.get path) t).1 with
  | error cause =>
      rw [hget] at hread
      rw [Action.perform_bind_error _ hread]
  | ok data =>
      rw [hget] at hread
      exact congrArg Prod.fst (Action.perform_bind_ok _ hread)

theorem readMetadata_ok_iff {m : Metadata} :
    ((Objects.readMetadata file).perform (answer plan) t).1 = some (.ok m) ↔
      ∃ path data, Objects.pathOf file = .ok path ∧ (answer plan (.get path) t).1 = .ok data ∧
        Metadata.read? data = some m := by
  cases hpath : Objects.pathOf file with
  | error fault =>
      have hread : (Objects.read file).perform (answer plan) t = (some (.error fault), t) := by
        unfold Objects.read
        rw [hpath]
        exact Action.perform_bind_error _ rfl
      unfold Objects.readMetadata
      rw [Action.perform_bind_error _ hread]
      simp
  | ok path =>
      rw [readMetadata_eq hpath]
      cases hget : (answer plan (.get path) t).1 with
      | error cause => simp [hget]
      | ok data => cases hdata : Metadata.read? data <;> simp [hget, hdata]

/-- **A table is loaded** if and only if its record is given, points at a file, and the file can be
read. -/
theorem loadTable_ok_iff {table : Table} :
    ((c.loadTable k).perform (answer plan) t).1 = some (.ok table) ↔
      table.name = k ∧ table.catalog = c ∧ ∃ r,
        ((answer plan).call (.getTable k.space.text k.table) t).1 = .ok r ∧
        r.metadataLocation k = .ok table.metadataLocation ∧
        ((Objects.readMetadata table.metadataLocation).perform (answer plan) t).1
          = some (.ok table.metadata) := by
  rcases hget : (answer plan).call (.getTable k.space.text k.table) t with ⟨reply, t₁⟩
  have hstate : (t.call (plan.calls t.calls.length) (.getTable k.space.text k.table)).2 = t₁ :=
    congrArg Prod.snd hget
  -- The lookup of the record does not count among the operations on objects.
  have hread : ∀ m, ((Objects.readMetadata table.metadataLocation).perform (answer plan) t₁).1
      = some (.ok m) ↔
      ((Objects.readMetadata table.metadataLocation).perform (answer plan) t).1 = some (.ok m) := by
    intro m
    simp only [readMetadata_ok_iff, answer_get, ← hstate]
    rfl
  constructor
  · intro h
    have hload : (c.loadTable k).perform (answer plan) t
        = (some (.ok table), ((c.loadTable k).perform (answer plan) t).2) := Prod.ext h rfl
    obtain ⟨r, t₂, hrecord, hload⟩ := Action.perform_bind_eq_ok _ hload
    obtain ⟨location, t₃, hlocation, hload⟩ := Action.perform_bind_eq_ok _ hload
    obtain ⟨m, t₄, hmetadata, hload⟩ := Action.perform_bind_eq_ok _ hload
    cases hload
    have hreply : (some (reply.mapError (Catalog.tableFailure k "get_table")), t₁)
        = (some (.ok r), t₂) := by
      have hcall := Action.perform_call (answer plan) (.getTable k.space.text k.table)
        (Catalog.tableFailure k "get_table") t
      rw [hget] at hcall
      exact hcall.symm.trans hrecord
    cases reply with
    | error f => cases hreply
    | ok r' =>
        cases hreply
        rw [Action.perform_ofExcept, Prod.mk.injEq, Option.some.injEq] at hlocation
        obtain ⟨hlocation, rfl⟩ := hlocation
        exact ⟨rfl, rfl, r, rfl, hlocation, (hread m).1 (congrArg Prod.fst hmetadata)⟩
  · rintro ⟨rfl, rfl, r, hr, hlocation, hmetadata⟩
    have hreply : reply = .ok r := hr
    rw [hreply] at hget
    have hrecord : (Catalog.tableRecord table.name).perform (answer plan) t
        = (some (.ok r), t₁) := Action.perform_call_ok hget
    have hfile := (hread table.metadata).2 hmetadata
    unfold Catalog.loadTable
    rw [Action.perform_bind_ok _ hrecord, hlocation,
      Action.perform_bind_ok _ (Action.perform_ofExcept _ _ t₁),
      Action.perform_bind_ok _ (Prod.ext hfile rfl)]
    rfl

/-- What the store answers for the object at a location is what lay there in another trial. -/
def StillHolds (t : Trial) (plan : FaultPlan) (t' : Trial) (file : String) : Prop :=
  ∀ path, Objects.pathOf file = .ok path → (answer plan (.get path) t).1 = t'.objects.get path

theorem stillHolds_self (h : plan.objects t.accesses = none) (file : String) :
    t.StillHolds plan t file := by
  intro path hpath
  rw [answer_get, h]

end Trial

/-! ### The metadata of a new table -/

namespace TableCreation

variable {creation : TableCreation} {fresh : Fresh} {plan plan' : FaultPlan} {t t' t'' : Trial}
  {location file path : String} {c : Catalog} {n : TableName}

/-- If both ids are the default, then what is read is what was written. -/
theorem read?_content_of_defaults (hspec : creation.spec.id = 0) (horder : creation.order.id = 0)
    (fresh : Fresh) (location : String) :
    Metadata.read? (creation.content fresh location)
      = if creation.schema.Shallow then some (creation.metadata fresh location) else none := by
  rw [read?_content, (creation.reread_eq_metadata_iff fresh location).2 ⟨hspec, horder⟩]

/-- A metadata file that was written is there. -/
theorem exists_written
    (h : (Objects.writeMetadata (creation.metadata fresh location) file).perform
      (Trial.answer plan) t = (some (.ok ()), t')) :
    ∃ path, Objects.pathOf file = .ok path ∧
      t'.objects.get path = .ok (creation.content fresh location) := by
  cases hpath : Objects.pathOf file with
  | error e =>
      rw [Catalog.perform_writeMetadata_error _ _ _ _ hpath] at h
      cases h
  | ok path =>
      rw [Catalog.perform_writeMetadata _ _ _ _ hpath] at h
      rcases hput : Catalog.put (Trial.answer plan) path (creation.content fresh location) t
        with ⟨reply, t₁⟩
      rw [hput] at h
      cases reply with
      | error e => cases h
      | ok u =>
          cases h
          exact ⟨path, rfl, Trial.get_of_put hput⟩

/-- The record that was just registered points at its file. -/
theorem metadataLocation_of_registered {properties : Properties} {r : TableRecord}
    (hcreate : (Trial.answer plan).call (.createTable n.space.text
      (.ofMetadata n.table file properties)) t = (.ok (), t'))
    (hr : ((Trial.answer plan).call (.getTable n.space.text n.table) t').1 = .ok r) :
    r.metadataLocation n = .ok file := by
  obtain ⟨hgains, -⟩ := Catalog.gains_of_createTable_ok (n := n) rfl hcreate
  have hfound := (Catalog.record?_of_found (Prod.ext hr rfl)).1
  rw [hgains.record?_self, Option.some.injEq] at hfound
  rw [← hfound]
  exact Catalog.metadataLocation_congr
    (Catalog.metadataLocation_ofMetadata n n.table file properties) rfl

/-- A creation that returns a table has written its metadata, registered the file, and read it. -/
theorem exists_created {table : Table}
    (h : (c.createTable fresh n creation).perform (Trial.answer plan) t = (some (.ok table), t')) :
    ∃ location path t₁, (c.tableLocation n creation).perform (Trial.answer plan) t
        = (some (.ok location), t₁) ∧
      table.metadataLocation = Metadata.fileLocation fresh.fileId location ∧
      Objects.pathOf table.metadataLocation = .ok path ∧
      t'.objects.get path = .ok (creation.content fresh location) ∧
      Metadata.read? (creation.content fresh location) = some table.metadata := by
  obtain ⟨outcome, t'', hperform, hrun⟩ :=
    Catalog.exists_createRun (Trial.answer plan) c fresh n creation t
  cases hperform.symm.trans h
  cases hrun with
  | @created location path _ t₁ t₂ t₃ _ hlocation hpath hput hcreate hload =>
      obtain ⟨-, -, hobjects, -⟩ := Trial.call_ok hcreate
      have hdata := Trial.get_of_put hput
      rw [← hobjects] at hdata
      obtain ⟨-, -, r, hr, hfile, hread⟩ :=
        Trial.loadTable_ok_iff.1 (congrArg Prod.fst hload)
      rw [metadataLocation_of_registered hcreate hr, Except.ok.injEq] at hfile
      obtain ⟨path', data, hpath', hget, hmetadata⟩ := Trial.readMetadata_ok_iff.1 hread
      rw [← hfile, hpath, Except.ok.injEq] at hpath'
      subst hpath'
      have hsame := Trial.get_of_answer hget
      rw [hdata, Except.ok.injEq] at hsame
      refine ⟨location, path, t₁, hlocation, hfile.symm, ?_, ?_, ?_⟩
      · rw [← hfile, hpath]
      · rw [(Catalog.onlyRead_of_loadTable hload).2.2.1, hdata]
      · rw [hsame, hmetadata]

/-- **What was written is read again.**  Let the partition spec and the sort order of a new table
have the default id.  Its metadata is written at every location that has a path, if the store takes
the object.  The file, wherever it was written, is read as the metadata that was written as long as
the object is as it was, unless the schema is nested too deep to be read at all.  So a table that a
creation returns has the metadata that the creation made, and so has every table that is loaded
later from a record that points at this file. -/
theorem reads_back (hspec : creation.spec.id = 0) (horder : creation.order.id = 0)
    (fresh : Fresh) :
    (∀ location file path plan t, Objects.pathOf file = .ok path →
      ((Objects.writeMetadata (creation.metadata fresh location) file).perform
          (Trial.answer plan) t).1
        = some ((Trial.answer plan (.put path (creation.content fresh location)) t).1.mapError
            (.objectStore file))) ∧
    (∀ location file plan t t',
      (Objects.writeMetadata (creation.metadata fresh location) file).perform (Trial.answer plan) t
        = (some (.ok ()), t') →
      ∀ plan' t'', Trial.StillHolds t'' plan' t' file →
        ((Objects.readMetadata file).perform (Trial.answer plan') t'').1
          = some (if creation.schema.Shallow then .ok (creation.metadata fresh location)
            else .error (.metadata file))) ∧
    ∀ (c : Catalog) n plan t t' table,
      (c.createTable fresh n creation).perform (Trial.answer plan) t = (some (.ok table), t') →
      creation.schema.Shallow ∧
      (∃ location t₁, (c.tableLocation n creation).perform (Trial.answer plan) t
          = (some (.ok location), t₁) ∧ table.metadata = creation.metadata fresh location) ∧
      ∀ (c' : Catalog) (k : TableName) plan' t'' r,
        ((Trial.answer plan').call (.getTable k.space.text k.table) t'').1 = .ok r →
        r.metadataLocation k = .ok table.metadataLocation →
        Trial.StillHolds t'' plan' t' table.metadataLocation →
        ((c'.loadTable k).perform (Trial.answer plan') t'').1
          = some (.ok ⟨k, table.metadata, table.metadataLocation, c'⟩) := by
  refine ⟨?_, ?_, ?_⟩
  · intro location file path plan t hpath
    rw [Catalog.perform_writeMetadata _ _ _ _ hpath]
    rfl
  · intro location file plan t t' hwrite plan' t'' hstill
    obtain ⟨path, hpath, hdata⟩ := exists_written hwrite
    rw [Trial.readMetadata_eq hpath, hstill path hpath, hdata]
    simp only [read?_content_of_defaults hspec horder]
    by_cases hshallow : creation.schema.Shallow
    · rw [if_pos hshallow, if_pos hshallow]
    · rw [if_neg hshallow, if_neg hshallow]
  · intro c n plan t t' table hcreate
    obtain ⟨location, path, t₁, hlocation, -, hpath, hdata, hread⟩ := exists_created hcreate
    have hmetadata := hread
    rw [read?_content_of_defaults hspec horder] at hmetadata
    have hshallow : creation.schema.Shallow := by
      by_contra hdeep
      rw [if_neg hdeep] at hmetadata
      cases hmetadata
    rw [if_pos hshallow, Option.some.injEq] at hmetadata
    refine ⟨hshallow, ⟨location, t₁, hlocation, hmetadata.symm⟩, ?_⟩
    intro c' k plan' t'' r hr hfile hstill
    have hfound : (Trial.answer plan' (.get path) t'').1
        = .ok (creation.content fresh location) := by
      rw [hstill path hpath, hdata]
    exact Trial.loadTable_ok_iff.2 ⟨rfl, rfl, r, hr, hfile,
      Trial.readMetadata_ok_iff.2 ⟨path, _, hpath, hfound, hread⟩⟩

/-! ### A file that is written and read -/

/-- A plan in which nothing fails. -/
def calm : FaultPlan := ⟨fun _ => .runs, fun _ => none⟩

/-- Writing a metadata file to a store without objects succeeds. -/
theorem exists_write (creation : TableCreation) :
    ∃ t, (Objects.writeMetadata (creation.metadata Site.firstIds "s3://bucket/db.db/t1")
        "s3://bucket/m.json").perform (Trial.answer calm) (.start {} .empty)
      = (some (.ok ()), t) ∧ Trial.StillHolds t calm t "s3://bucket/m.json" := by
  have hpath : Objects.pathOf "s3://bucket/m.json" = .ok "m.json" := by decide +kernel
  rw [Catalog.perform_writeMetadata _ _ _ _ hpath]
  exact ⟨_, rfl, Trial.stillHolds_self rfl _⟩

/-- A table with a list of maps to decimal numbers inside a struct. -/
def nestedTable : TableCreation where
  schema := { id := 3, fields := [.mk 1 "id" true (.primitive .long) none,
    .mk 2 "rows" false (.struct [.mk 3 "prices" true
      (.list 4 false (.map 5 (.primitive .string) 6 true (.primitive (.decimal 9 2))))
      (some "by currency")]) none] }
  properties := .ofList [("owner", "me"), ("note", "")]

theorem reads_back_nestedTable :
    nestedTable.spec.id = 0 ∧ nestedTable.order.id = 0 ∧
      ∃ t, (Objects.writeMetadata (nestedTable.metadata Site.firstIds "s3://bucket/db.db/t1")
          "s3://bucket/m.json").perform (Trial.answer calm) (.start {} .empty)
          = (some (.ok ()), t) ∧
        ((Objects.readMetadata "s3://bucket/m.json").perform (Trial.answer calm) t).1
          = some (.ok (nestedTable.metadata Site.firstIds "s3://bucket/db.db/t1")) := by
  have hshallow : nestedTable.schema.Shallow := by decide
  obtain ⟨t, hwrite, hstill⟩ := exists_write nestedTable
  have hread := (nestedTable.reads_back rfl rfl Site.firstIds).2.1 _ _ _ _ _ hwrite calm t hstill
  rw [if_pos hshallow] at hread
  exact ⟨rfl, rfl, t, hwrite, hread⟩

/-! ### A file that cannot be read -/

/-- Lists of lists, down to numbers. -/
def lists : Nat → FieldType
  | 0 => .primitive .int
  | n + 1 => .list (Int32.ofNat (n + 2)) true (lists n)

theorem depth_lists (n : Nat) : (lists n).toJson.depth = n := by
  induction n with
  | zero => rfl
  | succ n ih =>
      show max 0 (max 0 (max 0 (max (lists n).toJson.depth 0))) + 1 = n + 1
      omega

/-- A table whose only column holds lists of lists. -/
def deepTable (n : Nat) : TableCreation where
  schema := { id := 0, fields := [.mk 1 "c" true (lists n) none] }

/-- Three containers of the schema stand around the type of a column. -/
theorem depth_deepTable (n : Nat) : (deepTable n).schema.toJson.depth = n + 3 := by
  have hlists := depth_lists n
  have hfields : (Json.arr (Field.toJsonList [.mk 1 "c" true (lists n) none])).depth = n + 2 := by
    show max (max 0 (max 0 (max 0 (max (lists n).toJson.depth 0))) + 1) 0 + 1 = n + 2
    omega
  show max 0 (max 0 (max (Json.arr (Field.toJsonList [.mk 1 "c" true (lists n) none])).depth 0)) + 1
    = n + 3
  omega

theorem shallow_deepTable_iff (n : Nat) : (deepTable n).schema.Shallow ↔ n ≤ 122 := by
  unfold Schema.Shallow
  rw [depth_deepTable]
  show n + 3 + 2 ≤ 127 ↔ n ≤ 122
  omega

/-- A schema that is nested too deep is written, and not read. -/
theorem exists_unread (hdeep : ¬creation.schema.Shallow) :
    ∃ t, (Objects.writeMetadata (creation.metadata Site.firstIds "s3://bucket/db.db/t1")
        "s3://bucket/m.json").perform (Trial.answer calm) (.start {} .empty)
        = (some (.ok ()), t) ∧
      ((Objects.readMetadata "s3://bucket/m.json").perform (Trial.answer calm) t).1
        = some (.error (.metadata "s3://bucket/m.json")) := by
  obtain ⟨t, hwrite, hstill⟩ := exists_write creation
  obtain ⟨path, hpath, hdata⟩ := exists_written hwrite
  refine ⟨t, hwrite, ?_⟩
  rw [Trial.readMetadata_eq hpath, hstill path hpath, hdata]
  simp only [read?_content, if_neg hdeep]

/-- **A file that cannot be read**: both ids are the default, the metadata is written, and reading
it fails. -/
theorem deep_unread :
    (deepTable 130).spec.id = 0 ∧ (deepTable 130).order.id = 0 ∧
      ∃ t, (Objects.writeMetadata ((deepTable 130).metadata Site.firstIds "s3://bucket/db.db/t1")
          "s3://bucket/m.json").perform (Trial.answer calm) (.start {} .empty)
          = (some (.ok ()), t) ∧
        ((Objects.readMetadata "s3://bucket/m.json").perform (Trial.answer calm) t).1
          = some (.error (.metadata "s3://bucket/m.json")) :=
  ⟨rfl, rfl, exists_unread fun h => absurd ((shallow_deepTable_iff 130).1 h) (by decide)⟩

end TableCreation

end LakeCatalog
