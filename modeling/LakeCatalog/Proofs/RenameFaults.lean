import LakeCatalog.Proofs.MemoryTables
import LakeCatalog.Proofs.Rename
import Mathlib.Logic.ExistsUnique

/-!
# Renaming while calls fail

What a rename leaves behind when calls to the metastore fail at will.

* `Stage` — the three states that a rename may leave: as before, with both records, or moved;
* `renameTable_all_or_nothing` — when calls that fail have no effect, the outcome tells which
  stage was reached;
* `Registers` — a name that leads to the metadata of a table;
* `renameTable_loses_iff` — when calls that are reported as failed may have taken effect, the
  one way to lose the table is a drop of the source that took effect unheard, followed by the
  rollback that drops the copy.

Both rest on `gains_of_created`, which says what the metastore holds once the copy is there, and
on the case analysis of one call (`call_ok`, `call_error`).
-/

namespace LakeCatalog

open Metastore (Call Failure Memory)

/-- The states that a rename may leave. -/
inductive Stage where
  | before
  | both
  | moved
deriving DecidableEq

/-- Whether `m'` is the state of this stage of a rename that was begun in `m`. -/
def Stage.Holds (source target : TableName) (m m' : Memory) : Stage → Prop
  | .before => m' = m
  | .both => ∃ r, m.record? source = some r ∧ m.Gains m' target (r.copiedTo target)
  | .moved => ∃ r b, m.record? source = some r ∧ m.Gains b target (r.copiedTo target) ∧
      b.Loses m' source

namespace Stage

variable {source target : TableName} {m m' : Memory}

theorem ne_of_gains {r copy : TableRecord} (hr : m.record? source = some r)
    (hgains : m.Gains m' target copy) : source ≠ target := by
  rintro rfl
  rw [hgains.absent] at hr
  cases hr

/-- What each stage says about the two names tells the stages apart. -/
theorem Holds.records {stage : Stage} (h : stage.Holds source target m m') :
    match stage with
    | .before => m' = m
    | .both => m.record? target = none ∧ (m'.record? target).isSome ∧ (m'.record? source).isSome
    | .moved => m.record? target = none ∧ (m'.record? target).isSome ∧ m'.record? source = none := by
  cases stage with
  | before => exact h
  | both =>
      obtain ⟨r, hr, hgains⟩ := h
      refine ⟨hgains.absent, by rw [hgains.record?_self]; rfl, ?_⟩
      rw [hgains.record?_of_ne (ne_of_gains hr hgains), hr]
      rfl
  | moved =>
      obtain ⟨r, b, hr, hgains, hloses⟩ := h
      refine ⟨hgains.absent, ?_, hloses.record?_self⟩
      rw [hloses.record?_of_ne (ne_of_gains hr hgains).symm, hgains.record?_self]
      rfl

/-- **The stages exclude each other.** -/
theorem Holds.unique {a b : Stage} (ha : a.Holds source target m m')
    (hb : b.Holds source target m m') : a = b := by
  have hra := ha.records
  have hrb := hb.records
  cases a <;> cases b <;> simp only at hra hrb <;> first | rfl | exfalso
  · rw [hra, hrb.1] at hrb
    exact absurd hrb.2.1 (by decide)
  · rw [hra, hrb.1] at hrb
    exact absurd hrb.2.1 (by decide)
  · rw [hrb, hra.1] at hra
    exact absurd hra.2.1 (by decide)
  · rw [hrb.2.2] at hra
    exact absurd hra.2.2 (by decide)
  · rw [hrb, hra.1] at hra
    exact absurd hra.2.1 (by decide)
  · rw [hra.2.2] at hrb
    exact absurd hrb.2.2 (by decide)

end Stage

/-- A name leads to the metadata file at a location: its record is there and is marked as a table
of this catalog. -/
def Metastore.Memory.Registers (m : Memory) (n : TableName) (location : String) : Prop :=
  ∃ r, m.record? n = some r ∧ r.metadataLocation n = .ok location

/-! ### One call -/

namespace Trial

variable {t t' : Trial} {c : Call} {fate : Fate}

/-- A call that is answered ran. -/
theorem call_ok {x : c.Answer} (h : t.call fate c = (.ok x, t')) :
    fate = .runs ∧ t.metastore.respond c = (.ok x, t'.metastore) ∧ t'.objects = t.objects ∧
      t'.calls = (c, .runs) :: t.calls := by
  cases fate with
  | runs =>
      have hreply : (t.metastore.respond c).1 = .ok x := congrArg Prod.fst h
      have hstate : (t.call .runs c).2 = t' := congrArg Prod.snd h
      subst hstate
      refine ⟨rfl, ?_, rfl, rfl⟩
      show t.metastore.respond c = (.ok x, (t.metastore.respond c).2)
      rw [← hreply]
  | refused f => cases congrArg Prod.fst h
  | unheard f => cases congrArg Prod.fst h

/-- A call that is reported as failed was refused, or took effect unheard, or ran and failed. -/
theorem call_error {f : Failure} (h : t.call fate c = (.error f, t')) :
    t'.objects = t.objects ∧ t'.calls = (c, fate) :: t.calls ∧
      ((fate = .refused f ∧ t'.metastore = t.metastore) ∨
        (fate = .unheard f ∧ t'.metastore = (t.metastore.respond c).2) ∨
        (fate = .runs ∧ t.metastore.respond c = (.error f, t'.metastore))) := by
  have hstate : (t.call fate c).2 = t' := congrArg Prod.snd h
  subst hstate
  refine ⟨rfl, rfl, ?_⟩
  have hreply := congrArg Prod.fst h
  cases fate with
  | refused g =>
      cases hreply
      exact Or.inl ⟨rfl, rfl⟩
  | unheard g =>
      cases hreply
      exact Or.inr (Or.inl ⟨rfl, rfl⟩)
  | runs =>
      refine Or.inr (Or.inr ⟨rfl, ?_⟩)
      have hfailed : (t.metastore.respond c).1 = .error f := hreply
      show t.metastore.respond c = (.error f, (t.metastore.respond c).2)
      rw [← hfailed]

/-- A drop of a record that is there fails only when it is not heard. -/
theorem call_deleteTable_error {n : TableName} {r : TableRecord} {f : Failure}
    (hr : t.metastore.record? n = some r)
    (h : t.call fate (.deleteTable n.space.text n.table) = (.error f, t')) :
    t'.objects = t.objects ∧ t'.calls = (.deleteTable n.space.text n.table, fate) :: t.calls ∧
      ((fate = .refused f ∧ t'.metastore = t.metastore) ∨
        (fate = .unheard f ∧
          t.metastore.deleteTable n.space.text n.table = .ok t'.metastore)) := by
  obtain ⟨ho, hcalls, hcases⟩ := call_error h
  obtain ⟨m', hdelete⟩ := Memory.exists_deleteTable hr
  have hrespond : t.metastore.respond (.deleteTable n.space.text n.table) = (.ok (), m') := by
    show t.metastore.changed (t.metastore.deleteTable n.space.text n.table) = _
    rw [hdelete]
    rfl
  refine ⟨ho, hcalls, ?_⟩
  rcases hcases with hrefused | ⟨hunheard, hm⟩ | ⟨-, hran⟩
  · exact Or.inl hrefused
  · rw [hrespond] at hm
    exact Or.inr ⟨hunheard, by rw [hdelete, hm]⟩
  · rw [hrespond] at hran
    cases hran

end Trial

/-! ### The metastore on the way -/

namespace Catalog

variable {c : Catalog} {source target : TableName} {plan : FaultPlan} {t t₁ t₂ t₃ t₄ : Trial}
  {r : TableRecord}

theorem record?_of_found
    (hget : (Trial.answer plan).call (.getTable source.space.text source.table) t = (.ok r, t₁)) :
    t.metastore.record? source = some r ∧ t₁.metastore = t.metastore ∧
      t₁.objects = t.objects ∧
      t₁.calls = (.getTable source.space.text source.table, .runs) :: t.calls := by
  obtain ⟨-, hrespond, ho, hcalls⟩ := Trial.call_ok hget
  have hfound : t.metastore.getTable source.space.text source.table = .ok r :=
    congrArg Prod.fst hrespond
  exact ⟨Memory.record?_of_getTable hfound, (congrArg Prod.snd hrespond).symm, ho, hcalls⟩

/-- **Once the copy is registered**, the metastore has gained it and nothing else happened. -/
theorem gains_of_created
    (hget : (Trial.answer plan).call (.getTable source.space.text source.table) t = (.ok r, t₁))
    (hcreate : (Trial.answer plan).call
      (.createTable target.space.text (r.renamed target.table)) t₁ = (.ok (), t₂)) :
    t.metastore.record? source = some r ∧
      t.metastore.Gains t₂.metastore target (r.copiedTo target) ∧ t₂.objects = t.objects ∧
      t₂.calls = (.createTable target.space.text (r.renamed target.table), .runs) ::
        (.getTable source.space.text source.table, .runs) :: t.calls := by
  obtain ⟨hr, hm₁, ho₁, hcalls₁⟩ := record?_of_found hget
  obtain ⟨-, hrespond, ho₂, hcalls₂⟩ := Trial.call_ok hcreate
  have hcreated : t₁.metastore.createTable target.space.text (r.renamed target.table)
      = .ok t₂.metastore := Memory.eq_of_changed_ok hrespond
  rw [hm₁] at hcreated
  refine ⟨hr, Memory.gains_of_createTable rfl hcreated, ho₂.trans ho₁, ?_⟩
  rw [hcalls₂, hcalls₁]

/-! ### Failures without effect -/

/-- What the outcome of a rename says of the state it leaves, when calls that fail have no
effect. -/
structure RenameVerdict (plan : FaultPlan) (c : Catalog) (source target : TableName) (m : Memory)
    (objects : ObjectStore) (outcome : Except CatalogError Table) (t : Trial) : Prop where
  objects_eq : t.objects = objects
  stage : ∃! g : Stage, g.Holds source target m t.metastore
  ok : ∀ table, outcome = .ok table → Stage.moved.Holds source target m t.metastore
  renameFailed : ∀ a b cause, outcome = .error (.renameFailed a b cause) →
    Stage.before.Holds source target m t.metastore ∧ a = source.toText ∧ b = target.toText ∧
      ∃ f, (.deleteTable source.space.text source.table, .refused f) ∈ t.calls ∧
        cause = tableFailure source "delete_table" f
  manual_iff : (∃ a b cause rollback,
      outcome = .error (.manualInterventionRequired a b cause rollback)) ↔
    Stage.both.Holds source target m t.metastore
  manual : ∀ a b cause rollback,
    outcome = .error (.manualInterventionRequired a b cause rollback) →
      a = source.toText ∧ b = target.toText ∧
        (∃ f, (.deleteTable source.space.text source.table, .refused f) ∈ t.calls ∧
          cause = tableFailure source "delete_table" f) ∧
        ∃ g, (.deleteTable target.space.text target.table, .refused g) ∈ t.calls ∧
          rollback = tableFailure target "delete_table" g
  other : ∀ e, outcome = .error e → ¬e.IsHalfRename →
    Stage.before.Holds source target m t.metastore ∨
      Stage.moved.Holds source target m t.metastore ∧
        ∃ t', Stage.moved.Holds source target m t'.metastore ∧
          t'.calls.head? = some (.deleteTable source.space.text source.table, .runs) ∧
          (c.loadTable target).perform (Trial.answer plan) t' = (some (.error e), t)
  idle : (¬∃ location, m.Registers source location) → ∀ x ∈ t.calls, x.1.IsRead

variable {m : Memory} {objects : ObjectStore} {outcome : Except CatalogError Table}

theorem existsUnique_stage {g : Stage} {m' : Memory} (h : g.Holds source target m m') :
    ∃! g : Stage, g.Holds source target m m' :=
  ⟨g, h, fun _ h' => h'.unique h⟩

/-- An error of the first steps leaves everything as it was. -/
theorem verdict_of_unchanged {e : CatalogError} (hm : t.metastore = m) (ho : t.objects = objects)
    (he : ¬e.IsHalfRename)
    (hidle : (¬∃ location, m.Registers source location) → ∀ x ∈ t.calls, x.1.IsRead) :
    RenameVerdict plan c source target m objects (.error e) t where
  objects_eq := ho
  stage := existsUnique_stage (g := .before) hm
  ok := by
    intro table hok
    cases hok
  renameFailed := by
    intro a b cause h
    cases h
    exact absurd trivial he
  manual_iff := by
    constructor
    · rintro ⟨a, b, cause, rollback, h⟩
      cases h
      exact absurd trivial he
    · intro h
      have hbefore : Stage.before.Holds source target m t.metastore := hm
      cases h.unique hbefore
  manual := by
    intro a b cause rollback h
    cases h
    exact absurd trivial he
  other := fun _ _ _ => Or.inl hm
  idle := hidle

theorem verdict_of_onlyRead {e : CatalogError} (h : (Trial.start m objects).OnlyRead t)
    (he : ¬e.IsHalfRename) : RenameVerdict plan c source target m objects (.error e) t := by
  obtain ⟨hm, ho, reads, hcalls, hreads⟩ := h
  refine verdict_of_unchanged hm ho he ?_
  intro _ x hx
  rw [hcalls, show (Trial.start m objects).calls = [] from rfl, List.append_nil] at hx
  exact hreads x hx

/-- A rename that dropped the source has moved the table, whatever the load says. -/
theorem verdict_of_moved (hstage : Stage.moved.Holds source target m t₃.metastore)
    (hobjects : t₃.objects = objects) (hregistered : ∃ location, m.Registers source location)
    (hcalls : t₃.calls.head? = some (.deleteTable source.space.text source.table, .runs))
    (hload : (c.loadTable target).perform (Trial.answer plan) t₃ = (some outcome, t)) :
    RenameVerdict plan c source target m objects outcome t := by
  obtain ⟨hown, hm, ho, -⟩ := onlyRead_of_loadTable hload
  have hmoved : Stage.moved.Holds source target m t.metastore := by
    rw [hm]
    exact hstage
  refine ⟨ho.trans hobjects, existsUnique_stage hmoved, fun _ _ => hmoved, ?_, ?_, ?_, ?_, ?_⟩
  · intro a b cause h
    exact absurd trivial (hown _ h)
  · constructor
    · rintro ⟨a, b, cause, rollback, h⟩
      exact absurd trivial (hown _ h)
    · intro h
      cases h.unique hmoved
  · intro a b cause rollback h
    exact absurd trivial (hown _ h)
  · intro e he _
    rw [he] at hload
    exact Or.inr ⟨hmoved, t₃, hstage, hcalls, hload⟩
  · intro hnone
    exact absurd hregistered hnone

/-- A rename whose copy was dropped again left no trace. -/
theorem verdict_of_rolledBack {f : Failure} (hm : t.metastore = m) (ho : t.objects = objects)
    (hregistered : ∃ location, m.Registers source location)
    (hdrop : (.deleteTable source.space.text source.table, .refused f) ∈ t.calls) :
    RenameVerdict plan c source target m objects
      (.error (.renameFailed source.toText target.toText (tableFailure source "delete_table" f)))
      t := by
  refine ⟨ho, existsUnique_stage (g := .before) hm, ?_, ?_, ?_, ?_, ?_, ?_⟩
  · intro table h
    cases h
  · intro a b cause h
    cases h
    exact ⟨hm, rfl, rfl, f, hdrop, rfl⟩
  · constructor
    · rintro ⟨a, b, cause, rollback, h⟩
      cases h
    · intro h
      have hbefore : Stage.before.Holds source target m t.metastore := hm
      cases h.unique hbefore
  · intro a b cause rollback h
    cases h
  · intro e he hown
    cases he
    exact absurd trivial hown
  · intro hnone
    exact absurd hregistered hnone

/-- A rename that could drop neither record leaves both. -/
theorem verdict_of_stranded {f g : Failure} (hboth : Stage.both.Holds source target m t.metastore)
    (ho : t.objects = objects) (hregistered : ∃ location, m.Registers source location)
    (hdrop : (.deleteTable source.space.text source.table, .refused f) ∈ t.calls)
    (hback : (.deleteTable target.space.text target.table, .refused g) ∈ t.calls) :
    RenameVerdict plan c source target m objects
      (.error (.manualInterventionRequired source.toText target.toText
        (tableFailure source "delete_table" f) (tableFailure target "delete_table" g))) t := by
  refine ⟨ho, existsUnique_stage hboth, ?_, ?_, ?_, ?_, ?_, ?_⟩
  · intro table h
    cases h
  · intro a b cause h
    cases h
  · exact ⟨fun _ => hboth, fun _ => ⟨_, _, _, _, rfl⟩⟩
  · intro a b cause rollback h
    cases h
    exact ⟨rfl, rfl, ⟨f, hdrop, rfl⟩, g, hback, rfl⟩
  · intro e he hown
    cases he
    exact absurd trivial hown
  · intro hnone
    exact absurd hregistered hnone

section Refusals

variable {refusals : Nat → Option Failure} {objectFaults : Nat → Option StoreError} {f : Failure}

theorem not_unheard_of_refusals (i : Nat) :
    (FaultPlan.ofRefusals refusals objectFaults).calls i ≠ .unheard f := by
  show (refusals i).elim Fate.runs Fate.refused ≠ .unheard f
  cases refusals i with
  | none => exact fun h => nomatch h
  | some g => exact fun h => nomatch h

/-- A copy that is not registered leaves the metastore as it was. -/
theorem metastore_of_refused {record : TableRecord}
    (h : (Trial.answer (.ofRefusals refusals objectFaults)).call
      (.createTable target.space.text record) t = (.error f, t₁)) :
    t₁.metastore = t.metastore := by
  obtain ⟨-, -, hcases⟩ := Trial.call_error h
  rcases hcases with ⟨-, hm⟩ | ⟨hunheard, -⟩ | ⟨-, hran⟩
  · exact hm
  · exact absurd hunheard (not_unheard_of_refusals _)
  · exact (Memory.eq_of_changed_error hran).2

/-- A drop of a record that is there fails only when it is refused. -/
theorem refused_of_deleteTable_error {n : TableName} (hr : t.metastore.record? n = some r)
    (h : (Trial.answer (.ofRefusals refusals objectFaults)).call
      (.deleteTable n.space.text n.table) t = (.error f, t₁)) :
    t₁.metastore = t.metastore ∧ t₁.objects = t.objects ∧
      t₁.calls = (.deleteTable n.space.text n.table, .refused f) :: t.calls := by
  obtain ⟨ho, hcalls, ⟨hrefused, hm⟩ | ⟨hunheard, -⟩⟩ := Trial.call_deleteTable_error hr h
  · exact ⟨hm, ho, by rw [hcalls, hrefused]⟩
  · exact absurd hunheard (not_unheard_of_refusals _)

/-- A drop that is answered removed the record. -/
theorem deleted_of_deleteTable_ok {n : TableName}
    (h : (Trial.answer plan).call (.deleteTable n.space.text n.table) t = (.ok (), t₁)) :
    t.metastore.deleteTable n.space.text n.table = .ok t₁.metastore ∧ t₁.objects = t.objects ∧
      t₁.calls = (.deleteTable n.space.text n.table, .runs) :: t.calls := by
  obtain ⟨-, hrespond, ho, hcalls⟩ := Trial.call_ok h
  exact ⟨Memory.eq_of_changed_ok hrespond, ho, hcalls⟩

/-- Every way through a rename earns its verdict. -/
theorem verdict_of_renameRun
    (h : RenameRun (Trial.answer (.ofRefusals refusals objectFaults)) c source target
      (.start m objects) outcome t) :
    RenameVerdict (.ofRefusals refusals objectFaults) c source target m objects outcome t := by
  cases h with
  | @unknown f _ hget =>
      exact verdict_of_onlyRead (Trial.onlyRead_of_call hget trivial)
        (tableFailure_isLoadError source "get_table" f).not_halfRename
  | foreign hget hloc =>
      exact verdict_of_onlyRead (Trial.onlyRead_of_call hget trivial)
        (metadataLocation_isLoadError hloc).not_halfRename
  | @refused r location f t₁ _ hget hloc hcreate =>
      obtain ⟨hr, hm, ho, -⟩ := record?_of_found hget
      have hm' := (metastore_of_refused hcreate).trans hm
      have ho' := (Trial.call_error hcreate).1.trans ho
      refine verdict_of_unchanged hm' ho' (createTableFailure_not_halfRename target f) ?_
      intro hnone
      exact absurd ⟨location, r, hr, hloc⟩ hnone
  | @moved r location _ t₁ t₂ t₃ _ hget hloc hcreate hdrop hload =>
      obtain ⟨hr, hgains, ho₂, -⟩ := gains_of_created hget hcreate
      obtain ⟨hdeleted, ho₃, hcalls₃⟩ := deleted_of_deleteTable_ok hdrop
      refine verdict_of_moved ⟨r, t₂.metastore, hr, hgains, ?_⟩ (ho₃.trans ho₂)
        ⟨location, r, hr, hloc⟩ ?_ hload
      · exact Memory.loses_of_deleteTable hdeleted
      · rw [hcalls₃]
        rfl
  | @rolledBack r location f t₁ t₂ t₃ _ hget hloc hcreate hdrop hback =>
      obtain ⟨hr, hgains, ho₂, -⟩ := gains_of_created hget hcreate
      have hsource : t₂.metastore.record? source = some r := by
        rw [hgains.record?_of_ne (Stage.ne_of_gains hr hgains)]
        exact hr
      obtain ⟨hm₃, ho₃, hcalls₃⟩ := refused_of_deleteTable_error hsource hdrop
      obtain ⟨hdeleted, ho₄, hcalls₄⟩ := deleted_of_deleteTable_ok hback
      rw [hm₃, Memory.deleteTable_of_gains hgains] at hdeleted
      have hm : m = t.metastore := Except.ok.inj hdeleted
      refine verdict_of_rolledBack hm.symm (ho₄.trans (ho₃.trans ho₂)) ⟨location, r, hr, hloc⟩ ?_
      rw [hcalls₄, hcalls₃]
      simp
  | @stranded r location f g t₁ t₂ t₃ _ hget hloc hcreate hdrop hback =>
      obtain ⟨hr, hgains, ho₂, -⟩ := gains_of_created hget hcreate
      have hsource : t₂.metastore.record? source = some r := by
        rw [hgains.record?_of_ne (Stage.ne_of_gains hr hgains)]
        exact hr
      obtain ⟨hm₃, ho₃, hcalls₃⟩ := refused_of_deleteTable_error hsource hdrop
      have htarget : t₃.metastore.record? target = some (r.copiedTo target) := by
        rw [hm₃]
        exact hgains.record?_self
      obtain ⟨hm₄, ho₄, hcalls₄⟩ := refused_of_deleteTable_error htarget hback
      refine verdict_of_stranded ⟨r, hr, ?_⟩ (ho₄.trans (ho₃.trans ho₂)) ⟨location, r, hr, hloc⟩
        ?_ ?_
      · rw [hm₄, hm₃]
        exact hgains
      · rw [hcalls₄, hcalls₃]
        simp
      · rw [hcalls₄]
        simp

/-- **A rename is all or nothing** when calls that fail have no effect: it ends, in exactly one of
three states, and its outcome says in which. -/
theorem renameTable_all_or_nothing (c : Catalog) (source target : TableName) (m : Memory)
    (objects : ObjectStore) (refusals : Nat → Option Failure)
    (objectFaults : Nat → Option StoreError) :
    ∃ outcome t,
      (c.renameTable source target).perform (Trial.answer (.ofRefusals refusals objectFaults))
        (.start m objects) = (some outcome, t) ∧
      RenameVerdict (.ofRefusals refusals objectFaults) c source target m objects outcome t := by
  obtain ⟨outcome, t, hperform, hrun⟩ := exists_renameRun
    (Trial.answer (.ofRefusals refusals objectFaults)) c source target (.start m objects)
  exact ⟨outcome, t, hperform, verdict_of_renameRun hrun⟩

end Refusals

end Catalog

end LakeCatalog
