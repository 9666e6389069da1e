import LakeCatalog.Proofs.RenameFaults

/-!
# Renaming while answers are lost

A call that is reported as failed may have taken effect all the same.  A rename decides by what
is reported whether it drops the copy again, so a drop of the source that took effect unheard is
followed by a drop of the copy, and the table is registered nowhere.

* `renameTable_loses_iff` — this is the one way to lose a table, and the one way in which a
  rename that reports to be rolled back does not leave the source;
* `renameTable_loses_table` — a run in which both happen.
-/

namespace LakeCatalog

open Metastore (Call Failure Memory)

namespace Catalog

variable {c : Catalog} {source target : TableName} {plan : FaultPlan} {m : Memory}
  {objects : ObjectStore} {location : String} {outcome : Except CatalogError Table}
  {t t₁ t₂ t₃ t₄ : Trial} {r : TableRecord} {f : Failure} {fate : Fate}

/-- When a rename of a table with metadata at `location` loses the table, and when it leaves the
source although it reports to be rolled back. -/
structure LossVerdict (source target : TableName) (location : String)
    (outcome : Except CatalogError Table) (t : Trial) : Prop where
  lost_iff : ¬t.metastore.Registers source location ∧ ¬t.metastore.Registers target location ↔
    t.LandedUnheard (.deleteTable source.space.text source.table) ∧
      t.Landed (.deleteTable target.space.text target.table)
  kept_iff : ∀ a b cause, outcome = .error (.renameFailed a b cause) →
    (t.metastore.Registers source location ↔
      ¬t.LandedUnheard (.deleteTable source.space.text source.table))

/-! ### What the two names lead to -/

theorem not_registers_of_none {n : TableName} (h : m.record? n = none) :
    ¬m.Registers n location := by
  rintro ⟨r, hr, -⟩
  rw [h] at hr
  cases hr

/-- A source that is still there was not dropped unheard. -/
theorem lossVerdict_of_kept (hsource : t.metastore.Registers source location)
    (hheard : ¬t.LandedUnheard (.deleteTable source.space.text source.table)) :
    LossVerdict source target location outcome t where
  lost_iff := by
    constructor
    · rintro ⟨hlost, -⟩
      exact absurd hsource hlost
    · rintro ⟨hunheard, -⟩
      exact absurd hunheard hheard
  kept_iff := fun _ _ _ _ => ⟨fun _ => hheard, fun _ => hsource⟩

theorem lossVerdict_of_onlyRead (h : (Trial.start m objects).OnlyRead t)
    (hsource : m.Registers source location) : LossVerdict source target location outcome t := by
  refine lossVerdict_of_kept ?_ ?_
  · rw [h.1]
    exact hsource
  · rintro ⟨f, hmem⟩
    have hstart := (h.mem_iff (c := .deleteTable source.space.text source.table) id _).1 hmem
    cases hstart

/-! ### The ways through a rename -/

/-- The copy that is refused, or registered unheard, leaves the source where it is. -/
theorem lossVerdict_of_refused
    (hget : (Trial.answer plan).call (.getTable source.space.text source.table)
      (.start m objects) = (.ok r, t₁)) (hloc : r.metadataLocation source = .ok location)
    (hcreate : (Trial.answer plan).call
      (.createTable target.space.text (r.renamed target.table)) t₁ = (.error f, t)) :
    LossVerdict source target location outcome t := by
  obtain ⟨hr, hm₁, -, hcalls₁⟩ := record?_of_found hget
  obtain ⟨-, hcalls, hcases⟩ := Trial.call_error hcreate
  refine lossVerdict_of_kept ⟨r, ?_, hloc⟩ ?_
  · rcases hcases with ⟨-, hm⟩ | ⟨-, hm⟩ | ⟨-, hran⟩
    · rw [hm, hm₁]
      exact hr
    · cases hcreated : t₁.metastore.createTable target.space.text (r.renamed target.table) with
      | error g =>
          have hunchanged : t.metastore = t₁.metastore := by
            rw [hm]
            show (t₁.metastore.changed _).2 = _
            rw [hcreated]
            rfl
          rw [hunchanged, hm₁]
          exact hr
      | ok b =>
          have hchanged : t.metastore = b := by
            rw [hm]
            show (t₁.metastore.changed _).2 = _
            rw [hcreated]
            rfl
          rw [hm₁] at hcreated
          have hgains := Memory.gains_of_createTable (n := target) rfl hcreated
          rw [hchanged, hgains.record?_of_ne (Stage.ne_of_gains hr hgains)]
          exact hr
    · rw [(Memory.eq_of_changed_error hran).2, hm₁]
      exact hr
  · rintro ⟨g, hmem⟩
    rw [hcalls, hcalls₁] at hmem
    simp [Trial.start] at hmem

/-- A rename that heard of the drop of its source leaves the target. -/
theorem lossVerdict_of_moved
    (hget : (Trial.answer plan).call (.getTable source.space.text source.table)
      (.start m objects) = (.ok r, t₁)) (hloc : r.metadataLocation source = .ok location)
    (hcreate : (Trial.answer plan).call
      (.createTable target.space.text (r.renamed target.table)) t₁ = (.ok (), t₂))
    (hdrop : (Trial.answer plan).call (.deleteTable source.space.text source.table) t₂
      = (.ok (), t₃))
    (hload : (c.loadTable target).perform (Trial.answer plan) t₃ = (some outcome, t)) :
    LossVerdict source target location outcome t := by
  obtain ⟨hr, hgains, -, hcalls₂⟩ := gains_of_created hget hcreate
  obtain ⟨hdeleted, -, hcalls₃⟩ := deleted_of_deleteTable_ok hdrop
  obtain ⟨hown, hread⟩ := onlyRead_of_loadTable hload
  have hloses := Memory.loses_of_deleteTable hdeleted
  have htarget : t.metastore.Registers target location := by
    refine ⟨r.copiedTo target, ?_, metadataLocation_congr hloc rfl⟩
    rw [hread.1, hloses.record?_of_ne (Stage.ne_of_gains hr hgains).symm]
    exact hgains.record?_self
  refine ⟨⟨?_, ?_⟩, ?_⟩
  · rintro ⟨-, hlost⟩
    exact absurd htarget hlost
  · rintro ⟨⟨f, hmem⟩, -⟩
    have hmem₃ := (hread.mem_iff (c := .deleteTable source.space.text source.table) id _).1 hmem
    rw [hcalls₃, hcalls₂] at hmem₃
    simp [Trial.start] at hmem₃
  · intro a b cause h
    exact absurd trivial (hown _ h)

/-- A drop of a record that is there removes it exactly when it lands. -/
theorem drop_of_record? {n : TableName} {reply : Except Failure Unit}
    (hr : t.metastore.record? n = some r)
    (h : (Trial.answer plan).call (.deleteTable n.space.text n.table) t = (reply, t₁)) :
    ∃ fate, t₁.calls = (.deleteTable n.space.text n.table, fate) :: t.calls ∧
      ((¬fate.Lands ∧ t₁.metastore = t.metastore) ∨
        (fate.Lands ∧ t.metastore.Loses t₁.metastore n)) ∧
      ∀ f, reply = .error f → fate = .refused f ∨ fate = .unheard f := by
  cases reply with
  | ok u =>
      obtain ⟨hdeleted, -, hcalls⟩ := deleted_of_deleteTable_ok h
      refine ⟨.runs, hcalls, Or.inr ⟨trivial, Memory.loses_of_deleteTable hdeleted⟩, ?_⟩
      intro f hf
      cases hf
  | error g =>
      obtain ⟨-, hcalls, hcases⟩ := Trial.call_deleteTable_error hr h
      refine ⟨_, hcalls, ?_, ?_⟩
      · rcases hcases with ⟨hfate, hm⟩ | ⟨hfate, hdeleted⟩
        · exact Or.inl ⟨by rw [hfate]; exact id, hm⟩
        · exact Or.inr ⟨by rw [hfate]; trivial, Memory.loses_of_deleteTable hdeleted⟩
      · intro f hf
        cases hf
        exact hcases.imp And.left And.left

/-- What the record of a rename that was to be rolled back says of its two drops. -/
theorem landed_of_rollback {fate fate' : Fate} (hne : source ≠ target)
    (hcalls : t.calls = [(.deleteTable target.space.text target.table, fate'),
      (.deleteTable source.space.text source.table, fate),
      (.createTable target.space.text (r.renamed target.table), .runs),
      (.getTable source.space.text source.table, .runs)]) :
    (t.LandedUnheard (.deleteTable source.space.text source.table) ↔ ∃ f, fate = .unheard f) ∧
      (t.Landed (.deleteTable target.space.text target.table) ↔ fate'.Lands) := by
  have hcall : ∀ {a b : TableName}, a ≠ b →
      Call.deleteTable a.space.text a.table ≠ Call.deleteTable b.space.text b.table := by
    intro a b hab h
    injection h with hs ht
    exact hab (TableName.eq_of_parts hs ht)
  have hsource := hcall hne
  have htarget := hcall hne.symm
  constructor
  · constructor
    · rintro ⟨f, hmem⟩
      refine ⟨f, ?_⟩
      rw [hcalls] at hmem
      rcases List.mem_cons.1 hmem with h | hmem
      · exact absurd (congrArg Prod.fst h) hsource
      · rcases List.mem_cons.1 hmem with h | hmem
        · exact (congrArg Prod.snd h).symm
        · simp at hmem
    · rintro ⟨f, rfl⟩
      refine ⟨f, ?_⟩
      rw [hcalls]
      simp
  · constructor
    · rintro ⟨fate'', hmem, hlands⟩
      rw [hcalls] at hmem
      rcases List.mem_cons.1 hmem with h | hmem
      · have hfate : fate'' = fate' := congrArg Prod.snd h
        rw [← hfate]
        exact hlands
      · rcases List.mem_cons.1 hmem with h | hmem
        · exact absurd (congrArg Prod.fst h) htarget
        · simp at hmem
    · intro hlands
      refine ⟨fate', ?_, hlands⟩
      rw [hcalls]
      simp

/-- **A rename that did not hear of the drop of its source** loses the table exactly when the
drop and the rollback both took effect. -/
theorem lossVerdict_of_rollback {reply : Except Failure Unit}
    (hget : (Trial.answer plan).call (.getTable source.space.text source.table)
      (.start m objects) = (.ok r, t₁)) (hloc : r.metadataLocation source = .ok location)
    (hcreate : (Trial.answer plan).call
      (.createTable target.space.text (r.renamed target.table)) t₁ = (.ok (), t₂))
    (hdrop : (Trial.answer plan).call (.deleteTable source.space.text source.table) t₂
      = (.error f, t₃))
    (hback : (Trial.answer plan).call (.deleteTable target.space.text target.table) t₃
      = (reply, t)) : LossVerdict source target location outcome t := by
  obtain ⟨hr, hgains, -, hcalls₂⟩ := gains_of_created hget hcreate
  have hne := Stage.ne_of_gains hr hgains
  have hsource₂ : t₂.metastore.record? source = some r := (hgains.record?_of_ne hne).trans hr
  obtain ⟨fate, hcalls₃, hdropped, hfailed⟩ := drop_of_record? hsource₂ hdrop
  have htarget₃ : t₃.metastore.record? target = some (r.copiedTo target) := by
    rcases hdropped with ⟨-, hm⟩ | ⟨-, hloses⟩
    · rw [hm]
      exact hgains.record?_self
    · rw [hloses.record?_of_ne hne.symm]
      exact hgains.record?_self
  obtain ⟨fate', hcalls, hrolled, -⟩ := drop_of_record? htarget₃ hback
  rw [hcalls₃, hcalls₂] at hcalls
  obtain ⟨hunheard, hlanded⟩ := landed_of_rollback hne hcalls
  have hsource : t.metastore.record? source = t₃.metastore.record? source := by
    rcases hrolled with ⟨-, hm⟩ | ⟨-, hloses⟩
    · rw [hm]
    · exact hloses.record?_of_ne hne
  -- The source is there exactly when its drop was refused, the target when the rollback was.
  rcases hdropped with ⟨hnot, hm⟩ | ⟨hlands, hloses⟩
  · refine lossVerdict_of_kept ⟨r, ?_, hloc⟩ ?_
    · rw [hsource, hm]
      exact hsource₂
    · intro h
      obtain ⟨g, rfl⟩ := hunheard.1 h
      exact hnot trivial
  · have hgone : ¬t.metastore.Registers source location :=
      not_registers_of_none (hsource.trans hloses.record?_self)
    have hheard : t.LandedUnheard (.deleteTable source.space.text source.table) := by
      rcases hfailed f rfl with rfl | rfl
      · exact absurd hlands id
      · exact hunheard.2 ⟨f, rfl⟩
    have htarget : ¬t.metastore.Registers target location ↔ fate'.Lands := by
      rcases hrolled with ⟨hnot, hm⟩ | ⟨hlands', hloses'⟩
      · have hkept : t.metastore.Registers target location :=
          ⟨r.copiedTo target, by rw [hm]; exact htarget₃, metadataLocation_congr hloc rfl⟩
        exact ⟨fun h => absurd hkept h, fun h => absurd h hnot⟩
      · exact ⟨fun _ => hlands', fun _ => not_registers_of_none hloses'.record?_self⟩
    constructor
    · rw [hlanded, ← htarget]
      exact ⟨fun h => ⟨hheard, h.2⟩, fun h => ⟨hgone, h.2⟩⟩
    · intro a b cause _
      exact ⟨fun h => absurd h hgone, fun h => absurd hheard h⟩

/-- **Losing a table in a rename**: whatever becomes of the calls, the rename ends; the table is
registered under neither name exactly when the drop of the source took effect unheard and the
rollback took effect; and a rename that reports to be rolled back leaves the source exactly when
no drop of it took effect unheard. -/
theorem renameTable_loses_iff (c : Catalog) {source target : TableName} {m : Memory}
    (objects : ObjectStore) (plan : FaultPlan) {location : String}
    (hsource : m.Registers source location) :
    ∃ outcome t,
      (c.renameTable source target).perform (Trial.answer plan) (.start m objects)
        = (some outcome, t) ∧ LossVerdict source target location outcome t := by
  obtain ⟨outcome, t, hperform, hrun⟩ :=
    exists_renameRun (Trial.answer plan) c source target (.start m objects)
  refine ⟨outcome, t, hperform, ?_⟩
  obtain ⟨r', hr', hloc'⟩ := hsource
  -- The record that is found is the one that is there, so its location is the given one.
  have hfound : ∀ {r : TableRecord} {t₁ : Trial}, (Trial.answer plan).call
      (.getTable source.space.text source.table) (.start m objects) = (.ok r, t₁) →
      r.metadataLocation source = .ok location := by
    intro r t₁ hget
    have hr : m.record? source = some r := (record?_of_found hget).1
    rw [hr'] at hr
    cases hr
    exact hloc'
  cases hrun with
  | unknown hget =>
      exact lossVerdict_of_onlyRead (Trial.onlyRead_of_call hget trivial) ⟨r', hr', hloc'⟩
  | foreign hget hloc =>
      exact lossVerdict_of_onlyRead (Trial.onlyRead_of_call hget trivial) ⟨r', hr', hloc'⟩
  | refused hget hloc hcreate => exact lossVerdict_of_refused hget (hfound hget) hcreate
  | moved hget hloc hcreate hdrop hload =>
      exact lossVerdict_of_moved hget (hfound hget) hcreate hdrop hload
  | rolledBack hget hloc hcreate hdrop hback =>
      exact lossVerdict_of_rollback hget (hfound hget) hcreate hdrop hback
  | stranded hget hloc hcreate hdrop hback =>
      exact lossVerdict_of_rollback hget (hfound hget) hcreate hdrop hback

/-! ### A run that loses the table -/

/-- A table in a namespace of one table, and the name it is to have. -/
def oldName : TableName := ⟨⟨"db", isSegment_db⟩, "old", by decide⟩

def newName : TableName := ⟨⟨"db", isSegment_db⟩, "new", by decide⟩

/-- A metastore with one namespace and one table in it. -/
def oneTable : Memory :=
  Memory.setDatabase {} "db"
    { record := { name := "db" }
      tables := OrderedMap.empty.insert "old"
        ((TableRecord.ofMetadata "old" "s3://bucket/m.json" .empty).copiedTo oldName) }

/-- The third call, which drops the source, takes effect but is reported as failed. -/
def lostAnswer : FaultPlan where
  calls i := if i = 2 then .unheard ⟨.service, "timeout"⟩ else .runs
  objects _ := none

theorem oneTable_registers : oneTable.Registers oldName "s3://bucket/m.json" :=
  ⟨_, rfl, rfl⟩

/-- The rename reports to be rolled back, and the table is gone. -/
theorem renameTable_loses_table :
    oneTable.Registers oldName "s3://bucket/m.json" ∧
      ∃ t, (renameTable ⟨"lake", none, 1⟩ oldName newName).perform (Trial.answer lostAnswer)
          (.start oneTable .empty)
        = (some (.error (.renameFailed "db.old" "db.new"
            (.metastore "delete_table" ⟨.service, "timeout"⟩))), t) ∧
        ¬t.metastore.Registers oldName "s3://bucket/m.json" ∧
        ¬t.metastore.Registers newName "s3://bucket/m.json" := by
  refine ⟨oneTable_registers, _, rfl, ?_, ?_⟩
  · exact not_registers_of_none rfl
  · exact not_registers_of_none rfl

theorem renameTable_loses_iff_oneTable :
    oneTable.Registers oldName "s3://bucket/m.json" ∧
      ∃ outcome t, (renameTable ⟨"lake", none, 1⟩ oldName newName).perform
          (Trial.answer lostAnswer) (.start oneTable .empty) = (some outcome, t) ∧
        LossVerdict oldName newName "s3://bucket/m.json" outcome t :=
  ⟨oneTable_registers,
    renameTable_loses_iff ⟨"lake", none, 1⟩ .empty lostAnswer oneTable_registers⟩

end Catalog

end LakeCatalog
