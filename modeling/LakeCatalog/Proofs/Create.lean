import LakeCatalog.Proofs.Rename

/-!
# The ways through a creation

A creation finds the location of the new table, writes its first metadata file, registers the
table, and loads it.  `CreateRun` lists the ways through it, as `RenameRun` does for a rename, and
`exists_createRun` says that every creation takes one of them, whatever answers the questions.
-/

namespace LakeCatalog

open Metastore (Call Failure)

/-- The metadata that a creation writes for a table at a location. -/
def TableCreation.metadata (creation : TableCreation) (fresh : Fresh) (location : String) :
    Metadata :=
  .initial fresh location creation.schema creation.partitionSpec creation.sortOrder
    creation.properties

/-- The content of the metadata file of a new table. -/
def TableCreation.content (creation : TableCreation) (fresh : Fresh) (location : String) :
    ByteArray :=
  (creation.metadata fresh location).toJsonV2.render.toUTF8

theorem TableCreation.write?_metadata (creation : TableCreation) (fresh : Fresh)
    (location : String) :
    (creation.metadata fresh location).write? = some (creation.content fresh location) := rfl

namespace Catalog

/-- Where a new table goes. -/
def tableLocation (c : Catalog) (n : TableName) (creation : TableCreation) : Action String :=
  match usableLocation creation.location with
  | some location => pure location
  | none => c.defaultLocation n

/-- What a creation does once it has a location. -/
def createAt (c : Catalog) (fresh : Fresh) (n : TableName) (creation : TableCreation)
    (location : String) : Action Table := do
  Objects.writeMetadata (creation.metadata fresh location)
    (Metadata.fileLocation fresh.fileId location)
  createTableRecord n (.ofMetadata n.table (Metadata.fileLocation fresh.fileId location)
    creation.properties)
  c.loadTable n

theorem createTable_eq (c : Catalog) (fresh : Fresh) (n : TableName) (creation : TableCreation) :
    c.createTable fresh n creation
      = c.tableLocation n creation >>= c.createAt fresh n creation := by
  unfold createTable tableLocation
  cases usableLocation creation.location with
  | some location => rfl
  | none => rfl

variable {σ : Type} (h : Handler Backend σ) (c : Catalog) (fresh : Fresh) (n : TableName)
  (creation : TableCreation)

/-! ### The location -/

variable {h} in
theorem perform_loadNamespace_ok {space : NamespaceName} {record : DatabaseRecord} {s s₁ : σ}
    (hcall : h.call (.getDatabase space.text) s = (.ok record, s₁)) :
    (loadNamespace space).perform h s = (some (.ok record.properties), s₁) :=
  Action.perform_bind_ok h (Action.perform_call_ok hcall)

variable {h} in
theorem perform_loadNamespace_error {space : NamespaceName} {f : Failure} {s s₁ : σ}
    (hcall : h.call (.getDatabase space.text) s = (.error f, s₁)) :
    (loadNamespace space).perform h s
      = (some (.error (namespaceFailure space.text "get_database" f)), s₁) :=
  Action.perform_bind_error h (Action.perform_call_error hcall)

theorem tableLocation_conforms :
    (c.tableLocation n creation).Conforms BackendQuery.IsRead fun _ => True := by
  unfold tableLocation
  cases usableLocation creation.location with
  | some location => exact trivial
  | none =>
      refine Action.conforms_bind (fun _ => True) ?_ (fun _ _ => trivial) ?_
      · refine Action.conforms_bind (fun _ => True) ?_ (fun _ _ => trivial) ?_
        · exact Action.conforms_ask trivial fun _ => trivial
        · intro record _
          exact trivial
      · intro properties _
        show Action.Conforms _ _ (match (properties.get? locationKey).filter (· ≠ "") with
          | some location => _
          | none => _)
        cases (properties.get? locationKey).filter (· ≠ "") with
        | some location => exact trivial
        | none =>
            show Action.Conforms _ _ (match c.warehouse with
              | some warehouse => _
              | none => _)
            cases c.warehouse with
            | some warehouse => exact trivial
            | none => exact trivial

theorem exists_locationRun (s : σ) :
    ∃ r s', (c.tableLocation n creation).perform h s = (some r, s') := by
  obtain ⟨r, s', hrun, -⟩ := Program.run_of_conforms (h := h) (fun _ => True)
    (fun _ _ _ _ => trivial) (tableLocation_conforms c n creation) (s := s) trivial
  exact ⟨r, s', hrun⟩

/-! ### Writing -/

/-- The reply to a request to write an object, and the state after it. -/
def put (path : String) (data : ByteArray) (s : σ) : Except StoreError Unit × σ :=
  h (.put path data) s

theorem perform_writeMetadata_error (location : String) {file : String} {e : CatalogError}
    (hpath : Objects.pathOf file = .error e) (s : σ) :
    (Objects.writeMetadata (creation.metadata fresh location) file).perform h s
      = (some (.error e), s) := by
  show (Objects.write file (creation.content fresh location)).perform h s = _
  unfold Objects.write
  rw [hpath]
  exact Action.perform_bind_error h rfl

theorem perform_writeMetadata (location : String) {file path : String}
    (hpath : Objects.pathOf file = .ok path) (s : σ) :
    (Objects.writeMetadata (creation.metadata fresh location) file).perform h s
      = (some ((put h path (creation.content fresh location) s).1.mapError
          (CatalogError.objectStore file)), (put h path (creation.content fresh location) s).2) := by
  show (Objects.write file (creation.content fresh location)).perform h s = _
  unfold Objects.write
  rw [hpath, Action.perform_bind_ok h (Action.perform_ofExcept h _ s)]
  rfl

/-! ### Creating -/

/-- The ways through a creation from a state `s`, with the outcome and the state that is left. -/
inductive CreateRun (s : σ) : Except CatalogError Table → σ → Prop
  /-- There is no location for the table. -/
  | nowhere {e : CatalogError} {s₁ : σ}
      (hlocation : (c.tableLocation n creation).perform h s = (some (.error e), s₁)) :
      CreateRun s (.error e) s₁
  /-- The location of the metadata file names no object. -/
  | pathless {location : String} {e : CatalogError} {s₁ : σ}
      (hlocation : (c.tableLocation n creation).perform h s = (some (.ok location), s₁))
      (hpath : Objects.pathOf (Metadata.fileLocation fresh.fileId location) = .error e) :
      CreateRun s (.error e) s₁
  /-- The metadata file is not written. -/
  | unwritten {location path : String} {e : StoreError} {s₁ s₂ : σ}
      (hlocation : (c.tableLocation n creation).perform h s = (some (.ok location), s₁))
      (hpath : Objects.pathOf (Metadata.fileLocation fresh.fileId location) = .ok path)
      (hput : put h path (creation.content fresh location) s₁ = (.error e, s₂)) :
      CreateRun s (.error (.objectStore (Metadata.fileLocation fresh.fileId location) e)) s₂
  /-- The table is not registered. -/
  | refused {location path : String} {f : Failure} {s₁ s₂ s₃ : σ}
      (hlocation : (c.tableLocation n creation).perform h s = (some (.ok location), s₁))
      (hpath : Objects.pathOf (Metadata.fileLocation fresh.fileId location) = .ok path)
      (hput : put h path (creation.content fresh location) s₁ = (.ok (), s₂))
      (hcreate : h.call (.createTable n.space.text (.ofMetadata n.table
        (Metadata.fileLocation fresh.fileId location) creation.properties)) s₂ = (.error f, s₃)) :
      CreateRun s (.error (createTableFailure n f)) s₃
  /-- The table is registered, and loaded. -/
  | created {location path : String} {outcome : Except CatalogError Table} {s₁ s₂ s₃ s₄ : σ}
      (hlocation : (c.tableLocation n creation).perform h s = (some (.ok location), s₁))
      (hpath : Objects.pathOf (Metadata.fileLocation fresh.fileId location) = .ok path)
      (hput : put h path (creation.content fresh location) s₁ = (.ok (), s₂))
      (hcreate : h.call (.createTable n.space.text (.ofMetadata n.table
        (Metadata.fileLocation fresh.fileId location) creation.properties)) s₂ = (.ok (), s₃))
      (hload : (c.loadTable n).perform h s₃ = (some outcome, s₄)) :
      CreateRun s outcome s₄

/-- **Every creation comes to an end**, and takes one of the ways. -/
theorem exists_createRun (s : σ) :
    ∃ outcome s', (c.createTable fresh n creation).perform h s = (some outcome, s') ∧
      CreateRun h c fresh n creation s outcome s' := by
  obtain ⟨r, s₁, hlocation⟩ := exists_locationRun h c n creation s
  rw [createTable_eq]
  cases r with
  | error e => exact ⟨_, s₁, Action.perform_bind_error h hlocation, .nowhere hlocation⟩
  | ok location =>
      rw [Action.perform_bind_ok h hlocation]
      unfold createAt
      cases hpath : Objects.pathOf (Metadata.fileLocation fresh.fileId location) with
      | error e =>
          have hwrite := perform_writeMetadata_error h fresh creation location hpath s₁
          exact ⟨_, s₁, Action.perform_bind_error h hwrite, .pathless hlocation hpath⟩
      | ok path =>
          have hwrite := perform_writeMetadata h fresh creation location hpath s₁
          rcases hput : put h path (creation.content fresh location) s₁ with ⟨reply, s₂⟩
          rw [hput] at hwrite
          cases reply with
          | error e =>
              exact ⟨_, s₂, Action.perform_bind_error h hwrite, .unwritten hlocation hpath hput⟩
          | ok u =>
              rw [Action.perform_bind_ok h hwrite]
              rcases hcreate : h.call (.createTable n.space.text (.ofMetadata n.table
                (Metadata.fileLocation fresh.fileId location) creation.properties)) s₂
                with ⟨reply, s₃⟩
              cases reply with
              | error f =>
                  have hregister : (createTableRecord n (.ofMetadata n.table
                      (Metadata.fileLocation fresh.fileId location) creation.properties)).perform
                      h s₂ = (some (.error _), s₃) := Action.perform_call_error hcreate
                  exact ⟨_, s₃, Action.perform_bind_error h hregister,
                    .refused hlocation hpath hput hcreate⟩
              | ok u =>
                  have hregister : (createTableRecord n (.ofMetadata n.table
                      (Metadata.fileLocation fresh.fileId location) creation.properties)).perform
                      h s₂ = (some (.ok ()), s₃) := Action.perform_call_ok hcreate
                  obtain ⟨outcome, s₄, hload⟩ := exists_loadRun h c n s₃
                  exact ⟨outcome, s₄, (Action.perform_bind_ok h hregister).trans hload,
                    .created hlocation hpath hput hcreate hload⟩

end Catalog

end LakeCatalog
