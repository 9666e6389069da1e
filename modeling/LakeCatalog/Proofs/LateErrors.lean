import LakeCatalog.Proofs.CreateFrame
import LakeCatalog.Proofs.RenameUnheard

/-!
# Errors that come too late

A creation and a rename end with a load of the table, behind the last step that changes the
metastore.  So an error says that nothing was registered or moved, unless it is the error of this
load, or asks somebody to look.

* `Trial.LoadFault` — why a table that is registered cannot be loaded, with the error for it;
* `Aftermath` — what the outcome of an operation that ends with a load says of the metastore;
* `error_without_change_or_late` — creations and renames, when calls that fail have no effect;
* `late_errors` — a rename that moves the table and a creation that registers it, and fail.
-/

namespace LakeCatalog

open Metastore (Call Failure Memory)

namespace Trial

variable {plan : FaultPlan} {c : Catalog} {n : TableName} {location : String} {e : CatalogError}
  {r : TableRecord} {t t' : Trial}

/-! ### Loads that fail -/

/-- Why a table that is registered with its metadata at a location cannot be loaded, and the error
that says so. -/
inductive LoadFault (plan : FaultPlan) (n : TableName) (location : String) (t : Trial) :
    CatalogError → Prop
  /-- The record is not heard of. -/
  | unanswered {f : Failure} (hfate : plan.calls t.calls.length = .refused f ∨
      plan.calls t.calls.length = .unheard f) :
      LoadFault plan n location t (Catalog.tableFailure n "get_table" f)
  /-- The location names no object. -/
  | pathless {e : CatalogError} (hpath : Objects.pathOf location = .error e) :
      LoadFault plan n location t e
  /-- Reading the object is made to fail. -/
  | faulty {path : String} {cause : StoreError} (hpath : Objects.pathOf location = .ok path)
      (hfault : plan.objects t.accesses = some cause) :
      LoadFault plan n location t (.objectStore location cause)
  /-- The store does not have the object, or cannot read it. -/
  | unread {path : String} {cause : StoreError} (hpath : Objects.pathOf location = .ok path)
      (hget : t.objects.get path = .error cause) :
      LoadFault plan n location t (.objectStore location cause)
  /-- The object holds no metadata. -/
  | illegible {path : String} {data : ByteArray} (hpath : Objects.pathOf location = .ok path)
      (hget : t.objects.get path = .ok data) (hdata : Metadata.read? data = none) :
      LoadFault plan n location t (.metadata location)

/-- A lookup of a record that is there fails only when it is made to. -/
theorem fate_of_getTable_error {f : Failure} (hr : t.metastore.record? n = some r)
    (hshort : n.table.utf8ByteSize ≤ Memory.maxNameLength)
    (h : (answer plan).call (.getTable n.space.text n.table) t = (.error f, t')) :
    plan.calls t.calls.length = .refused f ∨ plan.calls t.calls.length = .unheard f := by
  obtain ⟨-, -, hcases⟩ := call_error h
  rcases hcases with ⟨hrefused, -⟩ | ⟨hunheard, -⟩ | ⟨-, hran⟩
  · exact Or.inl hrefused
  · exact Or.inr hunheard
  · have hfailed : t.metastore.getTable n.space.text n.table = .error f := congrArg Prod.fst hran
    rw [Memory.getTable_of_record? hr hshort] at hfailed
    cases hfailed

/-- What a request for an object is answered with: the fault that is planned, or what the store
has to say. -/
theorem answer_get (plan : FaultPlan) (path : String) (t : Trial) :
    (answer plan (.get path) t).1 = match plan.objects t.accesses with
      | some cause => .error cause
      | none => t.objects.get path := by
  show (match plan.objects t.accesses with
    | some e => _
    | none => _ : Except StoreError ByteArray × Trial).1 = _
  cases plan.objects t.accesses with
  | some cause => rfl
  | none => rfl

theorem exists_read (plan : FaultPlan) {path : String}
    (hpath : Objects.pathOf location = .ok path) (t : Trial) :
    ∃ t', (Objects.read location).perform (answer plan) t
      = (some ((answer plan (.get path) t).1.mapError (.objectStore location)), t') := by
  unfold Objects.read
  rw [hpath, Action.perform_bind_ok _ (Action.perform_ofExcept _ _ t)]
  exact ⟨_, rfl⟩

/-- Reading the metadata file at a location fails for one of four reasons, which depend on the
objects alone. -/
theorem loadFault_of_readMetadata {start : Trial} (hobjects : t.objects = start.objects)
    (haccesses : t.accesses = start.accesses)
    (h : (Objects.readMetadata location).perform (answer plan) t = (some (.error e), t')) :
    start.LoadFault plan n location e := by
  unfold Objects.readMetadata at h
  cases hpath : Objects.pathOf location with
  | error fault =>
      have hread : (Objects.read location).perform (answer plan) t = (some (.error fault), t) := by
        unfold Objects.read
        rw [hpath]
        exact Action.perform_bind_error _ rfl
      rw [Action.perform_bind_error _ hread] at h
      cases h
      exact .pathless hpath
  | ok path =>
      obtain ⟨t₁, hread⟩ := exists_read plan hpath t
      rw [answer_get, hobjects, haccesses] at hread
      cases hfault : plan.objects start.accesses with
      | some cause =>
          rw [hfault] at hread
          rw [Action.perform_bind_error _ hread] at h
          cases h
          exact .faulty hpath hfault
      | none =>
          simp only [hfault] at hread
          cases hget : start.objects.get path with
          | error cause =>
              rw [hget] at hread
              rw [Action.perform_bind_error _ hread] at h
              cases h
              exact .unread hpath hget
          | ok data =>
              rw [hget] at hread
              rw [Action.perform_bind_ok _ hread, Action.perform_ofExcept] at h
              cases hdata : Metadata.read? data with
              | some metadata =>
                  rw [hdata] at h
                  cases h
              | none =>
                  rw [hdata] at h
                  cases h
                  exact .illegible hpath hget hdata

/-- **A table that is registered** under a name that is not too long fails to load for one of these
reasons only. -/
theorem loadFault_of_loadTable (hr : t.metastore.record? n = some r)
    (hshort : n.table.utf8ByteSize ≤ Memory.maxNameLength)
    (hlocation : r.metadataLocation n = .ok location)
    (hload : (c.loadTable n).perform (answer plan) t = (some (.error e), t')) :
    t.LoadFault plan n location e := by
  unfold Catalog.loadTable at hload
  rcases hget : (answer plan).call (.getTable n.space.text n.table) t with ⟨reply, t₁⟩
  cases reply with
  | error f =>
      have hrecord : (Catalog.tableRecord n).perform (answer plan) t
          = (some (.error (Catalog.tableFailure n "get_table" f)), t₁) :=
        Action.perform_call_error hget
      rw [Action.perform_bind_error _ hrecord] at hload
      cases hload
      exact .unanswered (fate_of_getTable_error hr hshort hget)
  | ok found =>
      have hrecord : (Catalog.tableRecord n).perform (answer plan) t = (some (.ok found), t₁) :=
        Action.perform_call_ok hget
      have hfound : t.metastore.record? n = some found := (Catalog.record?_of_found hget).1
      rw [hr, Option.some.injEq] at hfound
      subst hfound
      rw [Action.perform_bind_ok _ hrecord, hlocation,
        Action.perform_bind_ok _ (Action.perform_ofExcept _ _ t₁)] at hload
      have hstate : (t.call (plan.calls t.calls.length) (.getTable n.space.text n.table)).2 = t₁ :=
        congrArg Prod.snd hget
      rcases hread : (Objects.readMetadata location).perform (answer plan) t₁ with ⟨outcome, t₂⟩
      rcases outcome with - | fault | metadata
      · rw [Action.perform_bind, hread] at hload
        cases hload
      · rw [Action.perform_bind_error _ hread] at hload
        cases hload
        refine loadFault_of_readMetadata ?_ ?_ hread
        · rw [← hstate]
          rfl
        · rw [← hstate]
          rfl
      · rw [Action.perform_bind_ok _ hread] at hload
        cases hload

end Trial

/-! ### What an outcome says -/

/-- What an outcome says of the metastore that is left by an operation which makes a metastore that
is `Done` out of `m` and then loads a table. -/
structure Aftermath (plan : FaultPlan) (c : Catalog) (n : TableName) (m : Memory)
    (Done : Memory → Prop) (outcome : Except CatalogError Table) (t : Trial) : Prop where
  ok : ∀ table, outcome = .ok table → Done t.metastore
  /- An error that does not ask somebody to look says that nothing was changed, or comes from the
  load and everything was done. -/
  error : ∀ e, outcome = .error e →
    (∀ a b cause rollback, e ≠ .manualInterventionRequired a b cause rollback) →
    t.metastore = m ∨
      Done t.metastore ∧ ∃ location t', t'.metastore = t.metastore ∧
        t.metastore.Registers n location ∧
        (c.loadTable n).perform (Trial.answer plan) t' = (some (.error e), t) ∧
        t'.LoadFault plan n location e

namespace Catalog

variable {c : Catalog} {n source target : TableName} {m : Memory} {plan : FaultPlan}
  {objects : ObjectStore} {Done : Memory → Prop} {outcome : Except CatalogError Table}
  {r : TableRecord} {location : String} {t t' : Trial}

theorem aftermath_of_unchanged {e : CatalogError} (hm : t.metastore = m) :
    Aftermath plan c n m Done (.error e) t where
  ok := by
    intro table h
    cases h
  error := fun _ _ _ => Or.inl hm

/-- An operation that has done everything and then loads the table. -/
theorem aftermath_of_load (hdone : Done t'.metastore) (hr : t'.metastore.record? n = some r)
    (hshort : n.table.utf8ByteSize ≤ Memory.maxNameLength)
    (hlocation : r.metadataLocation n = .ok location)
    (hload : (c.loadTable n).perform (Trial.answer plan) t' = (some outcome, t)) :
    Aftermath plan c n m Done outcome t := by
  obtain ⟨-, hread⟩ := onlyRead_of_loadTable hload
  have hm : t.metastore = t'.metastore := hread.1
  refine ⟨fun _ _ => ?_, ?_⟩
  · rw [hm]
    exact hdone
  · intro e he _
    rw [he] at hload
    refine Or.inr ⟨?_, location, t', hm.symm, ⟨r, ?_, hlocation⟩, hload, ?_⟩
    · rw [hm]
      exact hdone
    · rw [hm]
      exact hr
    · exact Trial.loadFault_of_loadTable hr hshort hlocation hload

/-- Writing an object leaves the metastore alone. -/
theorem metastore_of_put {path : String} {data : ByteArray} {reply : Except StoreError Unit}
    (h : put (Trial.answer plan) path data t = (reply, t')) : t'.metastore = t.metastore := by
  have hstate : (put (Trial.answer plan) path data t).2 = t' := congrArg Prod.snd h
  rw [← hstate]
  show (match plan.objects t.accesses with
    | some e => _
    | none => _ : Except StoreError Unit × Trial).2.metastore = _
  cases plan.objects t.accesses with
  | some e => rfl
  | none => rfl

/-- A record that was registered has a name that is not too long. -/
theorem gains_of_createTable_ok {record : TableRecord} (hname : record.name = n.table)
    (h : (Trial.answer plan).call (.createTable n.space.text record) t = (.ok (), t')) :
    t.metastore.Gains t'.metastore n { record with databaseName := some n.space.text } ∧
      n.table.utf8ByteSize ≤ Memory.maxNameLength := by
  obtain ⟨-, hrespond, -, -⟩ := Trial.call_ok h
  have hcreated : t.metastore.createTable n.space.text record = .ok t'.metastore :=
    Memory.eq_of_changed_ok hrespond
  refine ⟨Memory.gains_of_createTable hname hcreated, ?_⟩
  rw [← hname]
  exact Site.short_of_createTable (s := ⟨t.metastore, .empty⟩) hcreated

section Refusals

variable {refusals : Nat → Option Failure} {objectFaults : Nat → Option StoreError}

/-- The metastore that a creation makes: one more record, which leads to a metadata file. -/
def Created (fresh : Fresh) (n : TableName) (creation : TableCreation) (m m' : Memory) : Prop :=
  ∃ location, m.Gains m' n ((TableRecord.ofMetadata n.table
    (Metadata.fileLocation fresh.fileId location) creation.properties).copiedTo n)

/-- A creation leaves the metastore as it was, or has registered the table and loads it. -/
theorem aftermath_of_createRun {fresh : Fresh} {creation : TableCreation}
    (h : CreateRun (Trial.answer (.ofRefusals refusals objectFaults)) c fresh n creation
      (.start m objects) outcome t) :
    Aftermath (.ofRefusals refusals objectFaults) c n m (Created fresh n creation m) outcome t := by
  -- Neither finding the location nor writing the file changes the metastore.
  have hlocated : ∀ {result t₁}, (c.tableLocation n creation).perform
      (Trial.answer (.ofRefusals refusals objectFaults)) (.start m objects) = (some result, t₁) →
      t₁.metastore = m := by
    intro result t₁ hlocation
    obtain ⟨result', t', hrun, -, hread⟩ := Program.run_of_conforms (Trial.start m objects).OnlyRead
      (Trial.answer_of_isRead (.ofRefusals refusals objectFaults))
      (tableLocation_conforms c n creation) (Trial.OnlyRead.refl _)
    have hsame : (some result', t') = (some result, t₁) := hrun.symm.trans hlocation
    cases hsame
    exact hread.1
  cases h with
  | nowhere hlocation => exact aftermath_of_unchanged (hlocated hlocation)
  | pathless hlocation hpath => exact aftermath_of_unchanged (hlocated hlocation)
  | unwritten hlocation hpath hput =>
      exact aftermath_of_unchanged ((metastore_of_put hput).trans (hlocated hlocation))
  | refused hlocation hpath hput hcreate =>
      refine aftermath_of_unchanged ((metastore_of_refused hcreate).trans ?_)
      exact (metastore_of_put hput).trans (hlocated hlocation)
  | @created location _ _ _ t₂ t₃ _ hlocation hpath hput hcreate hload =>
      have hm₂ : t₂.metastore = m := (metastore_of_put hput).trans (hlocated hlocation)
      obtain ⟨hgains, hshort⟩ := gains_of_createTable_ok (n := n) rfl hcreate
      have hlocates := metadataLocation_ofMetadata n n.table
        (Metadata.fileLocation fresh.fileId location) creation.properties
      refine aftermath_of_load ⟨location, ?_⟩ hgains.record?_self hshort
        (metadataLocation_congr hlocates rfl) hload
      rw [← hm₂]
      exact hgains

/-- A rename leaves the metastore as it was, or both records, or has moved the table and loads
it. -/
theorem aftermath_of_renameRun
    (h : RenameRun (Trial.answer (.ofRefusals refusals objectFaults)) c source target
      (.start m objects) outcome t) :
    Aftermath (.ofRefusals refusals objectFaults) c target m (Stage.moved.Holds source target m)
      outcome t := by
  have hverdict := verdict_of_renameRun h
  cases h with
  | unknown hget => exact aftermath_of_unchanged (Trial.onlyRead_of_call hget trivial).1
  | foreign hget hlocation => exact aftermath_of_unchanged (Trial.onlyRead_of_call hget trivial).1
  | refused hget hlocation hcreate =>
      exact aftermath_of_unchanged
        ((metastore_of_refused hcreate).trans (record?_of_found hget).2.1)
  | @moved r location _ t₁ t₂ t₃ _ hget hlocation hcreate hdrop hload =>
      obtain ⟨hr, hgains, -, -⟩ := gains_of_created hget hcreate
      have hshort := (gains_of_createTable_ok (n := target) rfl hcreate).2
      have hloses := Memory.loses_of_deleteTable (deleted_of_deleteTable_ok hdrop).1
      have hregistered : t₃.metastore.record? target = some (r.copiedTo target) := by
        rw [hloses.record?_of_ne (Stage.ne_of_gains hr hgains).symm]
        exact hgains.record?_self
      exact aftermath_of_load ⟨r, t₂.metastore, hr, hgains, hloses⟩ hregistered hshort
        (metadataLocation_congr hlocation rfl) hload
  | rolledBack hget hlocation hcreate hdrop hback =>
      exact aftermath_of_unchanged (hverdict.renameFailed _ _ _ rfl).1
  | stranded hget hlocation hcreate hdrop hback =>
      refine ⟨?_, ?_⟩
      · intro table hok
        cases hok
      · intro e he hmanual
        cases he
        exact absurd rfl (hmanual _ _ _ _)

/-- **An error changes nothing, or comes too late**: whatever the metastore and the objects, and
whichever calls and operations on objects fail, creations and renames come to an end.  When one
of them fails and does not ask somebody to look, the metastore is as it was, or all that was asked
for is done, and the error is that of the load behind it, for one of the reasons of
`Trial.LoadFault`. -/
theorem error_without_change_or_late (c : Catalog) (m : Memory) (objects : ObjectStore)
    (refusals : Nat → Option Failure) (objectFaults : Nat → Option StoreError) :
    (∀ fresh n creation, ∃ outcome t, (c.createTable fresh n creation).perform
        (Trial.answer (.ofRefusals refusals objectFaults)) (.start m objects) = (some outcome, t) ∧
      Aftermath (.ofRefusals refusals objectFaults) c n m (Created fresh n creation m)
        outcome t) ∧
    ∀ source target, ∃ outcome t, (c.renameTable source target).perform
        (Trial.answer (.ofRefusals refusals objectFaults)) (.start m objects) = (some outcome, t) ∧
      Aftermath (.ofRefusals refusals objectFaults) c target m
        (Stage.moved.Holds source target m) outcome t := by
  constructor
  · intro fresh n creation
    obtain ⟨outcome, t, hperform, hrun⟩ := exists_createRun
      (Trial.answer (.ofRefusals refusals objectFaults)) c fresh n creation (.start m objects)
    exact ⟨outcome, t, hperform, aftermath_of_createRun hrun⟩
  · intro source target
    obtain ⟨outcome, t, hperform, hrun⟩ := exists_renameRun
      (Trial.answer (.ofRefusals refusals objectFaults)) c source target (.start m objects)
    exact ⟨outcome, t, hperform, aftermath_of_renameRun hrun⟩

end Refusals

/-! ### Operations that are done and fail -/

/-- The second call is refused. -/
def refuseSecond (i : Nat) : Option Failure :=
  if i = 1 then some ⟨.service, "timeout"⟩ else none

/-- A rename of a table whose metadata file is not there moves the table and fails, although no
call fails, and a creation whose lookup is refused registers the table and fails. -/
theorem late_errors :
    (∃ t, (renameTable ⟨"lake", none, 1⟩ oldName newName).perform
          (Trial.answer (.ofRefusals (fun _ => none) fun _ => none)) (.start oneTable .empty)
        = (some (.error (.objectStore "s3://bucket/m.json" (.notFound "m.json"))), t) ∧
      oneTable.Registers oldName "s3://bucket/m.json" ∧ oneTable.record? newName = none ∧
      t.metastore.record? oldName = none ∧
      t.metastore.Registers newName "s3://bucket/m.json") ∧
    ∃ t, (createTable ⟨"lake", none, 1⟩ Site.firstIds newName Site.placedTable).perform
          (Trial.answer (.ofRefusals refuseSecond fun _ => none)) (.start oneTable .empty)
        = (some (.error (.metastore "get_table" ⟨.service, "timeout"⟩)), t) ∧
      oneTable.record? newName = none ∧ t.metastore.record? newName ≠ none := by
  refine ⟨⟨_, rfl, oneTable_registers, rfl, rfl, _, rfl, rfl⟩, _, rfl, rfl, ?_⟩
  decide

end Catalog

end LakeCatalog
