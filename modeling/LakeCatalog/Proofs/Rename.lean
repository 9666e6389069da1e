import LakeCatalog.Catalog.Tables
import LakeCatalog.Proofs.Faults

/-!
# The ways through a rename

A rename makes up to four calls before it loads the table, and each may be answered with a
failure.  `RenameRun` lists the ways through it, one constructor each, with the answers on the
way, the outcome, and the state that is left; `exists_renameRun` says that every rename takes one
of them, whatever answers the questions.  Loading a table only looks things up, and fails with
errors of its own (`CatalogError.IsLoadError`, `loadTable_errors`), none of which reports a half
rename.
-/

namespace LakeCatalog

open Metastore (Call Failure)

namespace CatalogError

/-- Whether an error reports a rename whose last step failed. -/
def IsHalfRename : CatalogError → Prop
  | .renameFailed .. | .manualInterventionRequired .. => True
  | _ => False

/-- Whether a load of a table may end with an error: the record is not given, or none of a table of
this format, or its location names no object, or the object is not read, or holds no metadata. -/
def IsLoadError : CatalogError → Prop
  | .noSuchTable .. | .metastore .. | .notThisFormat .. | .missingProperty .. | .notUrl .. |
    .noObject .. | .objectStore .. | .metadata .. => True
  | _ => False

theorem IsLoadError.not_halfRename {e : CatalogError} (h : e.IsLoadError) : ¬e.IsHalfRename := by
  intro hhalf
  cases e <;> first | exact h | exact hhalf

end CatalogError

namespace Catalog

/-! ### Loading -/

theorem tableFailure_isLoadError (n : TableName) (operation : String) (f : Failure) :
    (tableFailure n operation f).IsLoadError := by
  unfold tableFailure
  cases f.signal <;> trivial

theorem createTableFailure_not_halfRename (n : TableName) (f : Failure) :
    ¬(createTableFailure n f).IsHalfRename := by
  unfold createTableFailure
  cases f.signal <;> exact id

theorem metadataLocation_isLoadError {n : TableName} {r : TableRecord} {e : CatalogError}
    (h : r.metadataLocation n = .error e) : e.IsLoadError := by
  unfold TableRecord.metadataLocation at h
  simp only at h
  split at h
  · cases hl : r.parameters.get? metadataLocationKey with
    | some location =>
        rw [hl] at h
        cases h
    | none =>
        rw [hl] at h
        cases h
        trivial
  · cases h
    trivial

theorem pathOf_isLoadError {location : String} {e : CatalogError}
    (h : Objects.pathOf location = .error e) : e.IsLoadError := by
  unfold Objects.pathOf at h
  cases hof : ObjectPath.ofLocation location with
  | ok path =>
      rw [hof] at h
      cases h
  | error fault =>
      rw [hof] at h
      cases h
      cases fault <;> trivial

/-- A record leads to a location whatever name it is asked under, and so does every record with
the same parameters. -/
theorem metadataLocation_congr {n n' : TableName} {r r' : TableRecord} {location : String}
    (h : r.metadataLocation n = .ok location) (hparameters : r'.parameters = r.parameters) :
    r'.metadataLocation n' = .ok location := by
  unfold TableRecord.metadataLocation at h ⊢
  simp only [hparameters] at h ⊢
  split at h
  · rename_i hmark
    rw [if_pos hmark]
    cases hl : r.parameters.get? metadataLocationKey with
    | none =>
        rw [hl] at h
        cases h
    | some found =>
        rw [hl] at h
        exact h
  · cases h

/-- The record of a new table leads to its metadata file. -/
theorem metadataLocation_ofMetadata (n : TableName) (name location : String)
    (properties : Properties) :
    (TableRecord.ofMetadata name location properties).metadataLocation n = .ok location := by
  have hmark : (TableRecord.ofMetadata name location properties).parameters.get? tableTypeKey
      = some formatMark := by
    unfold TableRecord.ofMetadata
    rw [SortedMap.get?_insert, if_neg (by decide), SortedMap.get?_insert, if_pos rfl]
  have hlocation : (TableRecord.ofMetadata name location properties).parameters.get?
      metadataLocationKey = some location := by
    unfold TableRecord.ofMetadata
    rw [SortedMap.get?_insert, if_pos rfl]
  unfold TableRecord.metadataLocation
  simp only [hmark, hlocation]
  rfl

/-- An outcome that is no error, or an error of one kind. -/
def ErrorsAre {α : Type} (kind : CatalogError → Prop) (r : Except CatalogError α) : Prop :=
  ∀ e, r = .error e → kind e

section Outcomes

variable {α β : Type} {kind : CatalogError → Prop}

theorem errorsAre_ok (x : α) : ErrorsAre kind (.ok x : Except CatalogError α) := by
  intro e he
  cases he

theorem errorsAre_error {e : CatalogError} (h : kind e) :
    ErrorsAre kind (.error e : Except CatalogError α) := by
  intro e' he
  cases he
  exact h

theorem ErrorsAre.error (e : CatalogError)
    (h : ErrorsAre kind (.error e : Except CatalogError α)) :
    ErrorsAre kind (.error e : Except CatalogError β) :=
  errorsAre_error (h e rfl)

theorem errorsAre_mapError {ε : Type} (r : Except ε α) {onError : ε → CatalogError}
    (h : ∀ f, kind (onError f)) : ErrorsAre kind (r.mapError onError) := by
  cases r with
  | ok x => exact errorsAre_ok x
  | error f => exact errorsAre_error (h f)

end Outcomes

theorem readMetadata_conforms (location : String) :
    (Objects.readMetadata location).Conforms BackendQuery.IsRead
      (ErrorsAre CatalogError.IsLoadError) := by
  refine Action.conforms_bind (ErrorsAre CatalogError.IsLoadError) ?_ ErrorsAre.error ?_
  · refine Action.conforms_bind (ErrorsAre CatalogError.IsLoadError) ?_ ErrorsAre.error ?_
    · exact fun e => pathOf_isLoadError
    · intro path _
      exact Action.conforms_ask trivial fun r => errorsAre_mapError r fun _ => trivial
  · intro data _
    show ErrorsAre _ _
    cases Metadata.read? data with
    | some m => exact errorsAre_ok m
    | none => exact errorsAre_error trivial

/-- **Loading a table** only looks things up, and fails with its own errors. -/
theorem loadTable_errors (c : Catalog) (n : TableName) :
    (c.loadTable n).Conforms BackendQuery.IsRead (ErrorsAre CatalogError.IsLoadError) := by
  refine Action.conforms_bind (ErrorsAre CatalogError.IsLoadError) ?_ ErrorsAre.error ?_
  · refine Action.conforms_ask trivial fun r => ?_
    exact errorsAre_mapError _ (tableFailure_isLoadError n "get_table")
  · intro record _
    refine Action.conforms_bind (ErrorsAre CatalogError.IsLoadError) ?_ ErrorsAre.error ?_
    · exact fun e => metadataLocation_isLoadError
    · intro location _
      refine Action.conforms_bind (ErrorsAre CatalogError.IsLoadError)
        (readMetadata_conforms location) ErrorsAre.error ?_
      intro metadata _
      exact errorsAre_ok _

/-- An outcome that does not report a half rename. -/
def OwnOutcome {α : Type} (r : Except CatalogError α) : Prop :=
  ∀ e, r = .error e → ¬e.IsHalfRename

/-- Loading a table does not report a half rename. -/
theorem loadTable_conforms (c : Catalog) (n : TableName) :
    (c.loadTable n).Conforms BackendQuery.IsRead OwnOutcome :=
  Program.Conforms.imp (loadTable_errors c n) fun _ h e he => (h e he).not_halfRename

/-! ### Renaming -/

variable {σ : Type} (h : Handler Backend σ) (c : Catalog) (source target : TableName)

/-- The ways through a rename from a state `s`, with the outcome and the state that is left. -/
inductive RenameRun (s : σ) : Except CatalogError Table → σ → Prop
  /-- The source is not found. -/
  | unknown {f : Failure} {s₁ : σ}
      (hget : h.call (.getTable source.space.text source.table) s = (.error f, s₁)) :
      RenameRun s (.error (tableFailure source "get_table" f)) s₁
  /-- The source is no table of this format. -/
  | foreign {r : TableRecord} {e : CatalogError} {s₁ : σ}
      (hget : h.call (.getTable source.space.text source.table) s = (.ok r, s₁))
      (hloc : r.metadataLocation source = .error e) :
      RenameRun s (.error e) s₁
  /-- The copy is not registered. -/
  | refused {r : TableRecord} {location : String} {f : Failure} {s₁ s₂ : σ}
      (hget : h.call (.getTable source.space.text source.table) s = (.ok r, s₁))
      (hloc : r.metadataLocation source = .ok location)
      (hcreate : h.call (.createTable target.space.text (r.renamed target.table)) s₁
        = (.error f, s₂)) :
      RenameRun s (.error (createTableFailure target f)) s₂
  /-- The source is dropped and the target loaded. -/
  | moved {r : TableRecord} {location : String} {outcome : Except CatalogError Table}
      {s₁ s₂ s₃ s₄ : σ}
      (hget : h.call (.getTable source.space.text source.table) s = (.ok r, s₁))
      (hloc : r.metadataLocation source = .ok location)
      (hcreate : h.call (.createTable target.space.text (r.renamed target.table)) s₁
        = (.ok (), s₂))
      (hdrop : h.call (.deleteTable source.space.text source.table) s₂ = (.ok (), s₃))
      (hload : (c.loadTable target).perform h s₃ = (some outcome, s₄)) :
      RenameRun s outcome s₄
  /-- The source is not dropped, but the copy is. -/
  | rolledBack {r : TableRecord} {location : String} {f : Failure} {s₁ s₂ s₃ s₄ : σ}
      (hget : h.call (.getTable source.space.text source.table) s = (.ok r, s₁))
      (hloc : r.metadataLocation source = .ok location)
      (hcreate : h.call (.createTable target.space.text (r.renamed target.table)) s₁
        = (.ok (), s₂))
      (hdrop : h.call (.deleteTable source.space.text source.table) s₂ = (.error f, s₃))
      (hback : h.call (.deleteTable target.space.text target.table) s₃ = (.ok (), s₄)) :
      RenameRun s (.error (.renameFailed source.toText target.toText
        (tableFailure source "delete_table" f))) s₄
  /-- Neither is dropped. -/
  | stranded {r : TableRecord} {location : String} {f g : Failure} {s₁ s₂ s₃ s₄ : σ}
      (hget : h.call (.getTable source.space.text source.table) s = (.ok r, s₁))
      (hloc : r.metadataLocation source = .ok location)
      (hcreate : h.call (.createTable target.space.text (r.renamed target.table)) s₁
        = (.ok (), s₂))
      (hdrop : h.call (.deleteTable source.space.text source.table) s₂ = (.error f, s₃))
      (hback : h.call (.deleteTable target.space.text target.table) s₃
        = (.error g, s₄)) :
      RenameRun s (.error (.manualInterventionRequired source.toText target.toText
        (tableFailure source "delete_table" f) (tableFailure target "delete_table" g))) s₄

variable {c}

theorem exists_rollBackRun (cause : CatalogError) (s : σ) :
    ∃ outcome s', (rollBackRename source target cause).perform h s = (some outcome, s') ∧
      ((h.call (.deleteTable target.space.text target.table) s = (.ok (), s') ∧
          outcome = .error (.renameFailed source.toText target.toText cause)) ∨
        ∃ g, h.call (.deleteTable target.space.text target.table) s = (.error g, s') ∧
          outcome = .error (.manualInterventionRequired source.toText target.toText cause
            (tableFailure target "delete_table" g))) := by
  rcases hback : h.call (.deleteTable target.space.text target.table) s with ⟨reply, s'⟩
  cases reply with
  | ok u =>
      have hdrop : (dropTable target).perform h s = (some (.ok ()), s') :=
        Action.perform_call_ok hback
      exact ⟨_, s', Action.perform_attempt h hdrop, Or.inl ⟨rfl, rfl⟩⟩
  | error g =>
      have hdrop : (dropTable target).perform h s = (some (.error _), s') :=
        Action.perform_call_error hback
      exact ⟨_, s', Action.perform_attempt h hdrop, Or.inr ⟨g, rfl, rfl⟩⟩

theorem exists_loadRun (c : Catalog) (n : TableName) (s : σ) :
    ∃ outcome s', (c.loadTable n).perform h s = (some outcome, s') := by
  obtain ⟨outcome, s', hrun, -⟩ := Program.run_of_conforms (h := h) (fun _ => True)
    (fun _ _ _ _ => trivial) (loadTable_conforms c n) (s := s) trivial
  exact ⟨outcome, s', hrun⟩

/-- A load leaves everything as it is, and does not report a half rename. -/
theorem onlyRead_of_loadTable {c : Catalog} {n : TableName} {plan : FaultPlan} {t t' : Trial}
    {outcome : Except CatalogError Table}
    (hload : (c.loadTable n).perform (Trial.answer plan) t = (some outcome, t')) :
    OwnOutcome outcome ∧ t.OnlyRead t' := by
  obtain ⟨outcome', t₁, hrun, hown, hread⟩ := Program.run_of_conforms t.OnlyRead
    (Trial.answer_of_isRead plan) (loadTable_conforms c n) (Trial.OnlyRead.refl t)
  cases hrun.symm.trans hload
  exact ⟨hown, hread⟩

variable {h source target}

/-- The part of a rename behind the registration of the copy takes one of three ways. -/
theorem exists_renameRun_of_created {r : TableRecord} {location : String} {s s₁ s₂ : σ}
    (hget : h.call (.getTable source.space.text source.table) s = (.ok r, s₁))
    (hloc : r.metadataLocation source = .ok location)
    (hcreate : h.call (.createTable target.space.text (r.renamed target.table)) s₁
      = (.ok (), s₂)) :
    ∃ outcome s', ((dropTable source).attempt fun
        | .ok () => c.loadTable target
        | .error cause => rollBackRename source target cause).perform h s₂ = (some outcome, s') ∧
      RenameRun h c source target s outcome s' := by
  rcases hdrop : h.call (.deleteTable source.space.text source.table) s₂ with ⟨reply, s₃⟩
  cases reply with
  | ok u =>
      have hperform : (dropTable source).perform h s₂ = (some (.ok ()), s₃) :=
        Action.perform_call_ok hdrop
      obtain ⟨outcome, s', hload⟩ := exists_loadRun h c target s₃
      refine ⟨outcome, s', ?_, .moved hget hloc hcreate hdrop hload⟩
      exact (Action.perform_attempt h hperform).trans hload
  | error f =>
      have hperform : (dropTable source).perform h s₂
          = (some (.error (tableFailure source "delete_table" f)), s₃) :=
        Action.perform_call_error hdrop
      obtain ⟨outcome, s', hrun, hways⟩ := exists_rollBackRun h source target
        (tableFailure source "delete_table" f) s₃
      refine ⟨outcome, s', (Action.perform_attempt h hperform).trans hrun, ?_⟩
      rcases hways with ⟨hback, rfl⟩ | ⟨g, hback, rfl⟩
      · exact .rolledBack hget hloc hcreate hdrop hback
      · exact .stranded hget hloc hcreate hdrop hback

variable (h c source target)

/-- **Every rename comes to an end**, and takes one of the ways. -/
theorem exists_renameRun (s : σ) :
    ∃ outcome s', (c.renameTable source target).perform h s = (some outcome, s') ∧
      RenameRun h c source target s outcome s' := by
  rcases hget : h.call (.getTable source.space.text source.table) s with ⟨reply, s₁⟩
  cases reply with
  | error f =>
      have hrecord : (tableRecord source).perform h s = (some (.error _), s₁) :=
        Action.perform_call_error hget
      exact ⟨_, s₁, Action.perform_bind_error h hrecord, .unknown hget⟩
  | ok r =>
      have hrecord : (tableRecord source).perform h s = (some (.ok r), s₁) :=
        Action.perform_call_ok hget
      unfold renameTable
      rw [Action.perform_bind_ok h hrecord]
      cases hloc : r.metadataLocation source with
      | error e => exact ⟨_, s₁, Action.perform_bind_error h rfl, .foreign hget hloc⟩
      | ok location =>
          rw [Action.perform_bind_ok h (Action.perform_ofExcept h _ s₁)]
          rcases hcreate : h.call (.createTable target.space.text (r.renamed target.table)) s₁
            with ⟨reply, s₂⟩
          cases reply with
          | error f =>
              have hregister : (createTableRecord target (r.renamed target.table)).perform h s₁
                  = (some (.error _), s₂) := Action.perform_call_error hcreate
              exact ⟨_, s₂, Action.perform_bind_error h hregister, .refused hget hloc hcreate⟩
          | ok u =>
              have hregister : (createTableRecord target (r.renamed target.table)).perform h s₁
                  = (some (.ok ()), s₂) := Action.perform_call_ok hcreate
              rw [Action.perform_bind_ok h hregister]
              exact exists_renameRun_of_created hget hloc hcreate

end Catalog

end LakeCatalog
