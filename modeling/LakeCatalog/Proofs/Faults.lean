import LakeCatalog.Metastore.Memory
import LakeCatalog.Proofs.Actions

/-!
# Backends that fail

A metastore in memory and an object store, behind a plan of faults.  The plan says of each call
what becomes of it.  A call that is reported as failed may not have reached the metastore, or
its answer may have been lost after it took effect; the catalog cannot tell the two apart.

* `Fate`, `FaultPlan` — what becomes of a call, and of each call of a run;
* `Trial`, `Trial.answer` — the two stores with all calls so far, as a handler of questions;
* `IsRead` — questions that change nothing, whatever becomes of them (`answer_of_isRead`).
-/

namespace LakeCatalog

open Metastore (Call Failure Memory)

/-- What becomes of a call to a metastore. -/
inductive Fate where
  /-- The call runs, and its reply is heard. -/
  | runs
  /-- The call fails and has no effect. -/
  | refused (f : Failure)
  /-- The call runs, but its reply is lost and a failure is reported. -/
  | unheard (f : Failure)
deriving DecidableEq

namespace Fate

/-- Whether the call reaches the metastore. -/
def Lands : Fate → Prop
  | .refused _ => False
  | _ => True

instance : DecidablePred Lands := fun f =>
  match f with
  | .runs | .unheard _ => isTrue trivial
  | .refused _ => isFalse id

/-- The reply that is heard when the metastore gives this one. -/
def heard (fate : Fate) (c : Call) (reply : c.Reply) : c.Reply :=
  match fate with
  | .runs => reply
  | .refused f | .unheard f => c.failed f

end Fate

/-- The faults of a run: what becomes of each call to the metastore, by the number of calls
before it, and which operations on objects fail, likewise. -/
structure FaultPlan where
  calls : Nat → Fate
  objects : Nat → Option StoreError

/-- The plan in which a call that fails has no effect. -/
def FaultPlan.ofRefusals (refusals : Nat → Option Failure) (objects : Nat → Option StoreError) :
    FaultPlan where
  calls i := (refusals i).elim .runs .refused
  objects := objects

/-- Two stores, the calls that were made of the metastore with what became of them, last first,
and the number of operations on objects. -/
structure Trial where
  metastore : Memory
  objects : ObjectStore
  calls : List (Call × Fate) := []
  accesses : Nat := 0

namespace Trial

/-- The two stores before anything is asked. -/
def start (m : Memory) (objects : ObjectStore) : Trial := { metastore := m, objects }

/-- One call to the metastore, with this fate. -/
def call (t : Trial) (fate : Fate) (c : Call) : c.Reply × Trial :=
  (fate.heard c (t.metastore.respond c).1,
    { t with
      metastore := if fate.Lands then (t.metastore.respond c).2 else t.metastore
      calls := (c, fate) :: t.calls })

/-- Answers a question. -/
def answer (plan : FaultPlan) : Handler Backend Trial
  | .metastore c, t => t.call (plan.calls t.calls.length) c
  | .put path data, t =>
    let t' := { t with accesses := t.accesses + 1 }
    match plan.objects t.accesses with
    | some e => (.error e, t')
    | none => ((t.objects.put path data).1, { t' with objects := (t.objects.put path data).2 })
  | .get path, t =>
    let t' := { t with accesses := t.accesses + 1 }
    match plan.objects t.accesses with
    | some e => (.error e, t')
    | none => (t.objects.get path, t')

/-- Whether a call was made that reached the metastore, heard or not. -/
def Landed (t : Trial) (c : Call) : Prop := ∃ fate, (c, fate) ∈ t.calls ∧ fate.Lands

/-- Whether a call was made that reached the metastore and was reported as failed. -/
def LandedUnheard (t : Trial) (c : Call) : Prop := ∃ f, (c, .unheard f) ∈ t.calls

end Trial

/-! ### Questions that change nothing -/

/-- Whether a call only looks something up. -/
def Metastore.Call.IsRead : Call → Prop
  | .getTable .. | .getTables .. | .getDatabase .. | .getDatabases .. => True
  | .createTable .. | .deleteTable .. | .createDatabase .. | .updateDatabase ..
  | .deleteDatabase .. => False

/-- Whether a question only looks something up. -/
def BackendQuery.IsRead : BackendQuery → Prop
  | .metastore c => c.IsRead
  | .put .. => False
  | .get _ => True

theorem Metastore.Memory.respond_of_isRead (m : Memory) {c : Call} (hc : c.IsRead) :
    (m.respond c).2 = m := by
  cases c with
  | getTable database name => rfl
  | getTables database token => rfl
  | getDatabase name => rfl
  | getDatabases token => rfl
  | createTable database table => exact absurd hc id
  | deleteTable database name => exact absurd hc id
  | createDatabase record => exact absurd hc id
  | updateDatabase name record => exact absurd hc id
  | deleteDatabase name => exact absurd hc id

namespace Trial

/-- `t'` comes after `t`, and since then there were only questions that change nothing. -/
def OnlyRead (t t' : Trial) : Prop :=
  t'.metastore = t.metastore ∧ t'.objects = t.objects ∧
    ∃ reads, t'.calls = reads ++ t.calls ∧ ∀ x ∈ reads, x.1.IsRead

theorem OnlyRead.refl (t : Trial) : t.OnlyRead t :=
  ⟨rfl, rfl, [], rfl, by simp⟩

theorem OnlyRead.mem_iff {t t' : Trial} (h : t.OnlyRead t') {c : Call} (hc : ¬c.IsRead)
    (fate : Fate) : (c, fate) ∈ t'.calls ↔ (c, fate) ∈ t.calls := by
  obtain ⟨-, -, reads, hcalls, hreads⟩ := h
  rw [hcalls, List.mem_append]
  constructor
  · rintro (hmem | hmem)
    · exact absurd (hreads _ hmem) hc
    · exact hmem
  · exact Or.inr

theorem call_of_isRead (t : Trial) (fate : Fate) {c : Call} (hc : c.IsRead) :
    t.OnlyRead (t.call fate c).2 := by
  refine ⟨?_, rfl, [(c, fate)], rfl, ?_⟩
  · show (if fate.Lands then (t.metastore.respond c).2 else t.metastore) = t.metastore
    rw [Memory.respond_of_isRead _ hc, ite_self]
  · intro x hx
    rw [List.mem_singleton.1 hx]
    exact hc

theorem onlyRead_of_call {plan : FaultPlan} {t t' : Trial} {c : Call} {reply : c.Reply}
    (h : (answer plan).call c t = (reply, t')) (hc : c.IsRead) : t.OnlyRead t' := by
  have hstate : (t.call (plan.calls t.calls.length) c).2 = t' := congrArg Prod.snd h
  rw [← hstate]
  exact t.call_of_isRead _ hc

/-- **A question that looks something up changes nothing**, whatever becomes of it. -/
theorem answer_of_isRead (plan : FaultPlan) {start : Trial} (q : BackendQuery) (t : Trial)
    (hq : q.IsRead) (ht : start.OnlyRead t) : start.OnlyRead (answer plan q t).2 := by
  cases q with
  | put path data => exact absurd hq id
  | get path =>
      show start.OnlyRead (match plan.objects t.accesses with
        | some e => _
        | none => _ : Except StoreError ByteArray × Trial).2
      cases plan.objects t.accesses with
      | none => exact ht
      | some e => exact ht
  | metastore c =>
      obtain ⟨hm, ho, reads, hcalls, hreads⟩ := ht
      obtain ⟨hm', ho', new, hcalls', hnew⟩ := t.call_of_isRead (plan.calls t.calls.length) hq
      refine ⟨hm'.trans hm, ho'.trans ho, new ++ reads, ?_, ?_⟩
      · rw [List.append_assoc, ← hcalls]
        exact hcalls'
      · intro x hx
        rcases List.mem_append.1 hx with hx | hx
        · exact hnew x hx
        · exact hreads x hx

end Trial

end LakeCatalog
