import LakeCatalog.Proofs.Acknowledgements
import LakeCatalog.Proofs.Bids
import Mathlib.Data.Set.Card

/-!
# Registrations that move from name to name

Any number of requests take turns at one site, and none of them is to drop anything.  A rename
registers a copy of the record that it has found, and then drops whatever is registered under its
source, or, when nothing is, under its target.  By then another request may have put another
record there, so that a rename may drop what it has not copied.

What is counted are the records that have a property which every copy keeps, such as the location
of the metadata, and the renames that have copied such a record and still want to drop one.  As
long as no rename drops a record of the kind without having copied one, there is always one more of
the former.

* `Movers` — the requests, and the site at which they take turns;
* `RequestRun`, `Turn` — how far a request has come, and what its turns can do;
* `Takes`, `TakesOther` — the turn in which a rename drops a record, and one that it has not copied;
* `Covered`, `Covered.turn` — what is counted, and that every turn keeps it;
* `held_or_takesOther` — what is registered stays registered, unless there is such a turn;
* `registers_or_held` — what a request registers before it returns has been registered by then;
* `location_stays_registered` — the location of every table's metadata stays registered;
* `RenameChain.renames_lose_table` — there can be such a turn, with which a table is lost.
-/

namespace LakeCatalog

open Metastore (Call Failure Memory)

/-! ### How far a request has come -/

/-- Requests that take turns at a site.  None of them is to drop anything. -/
structure Movers (ι : Type) where
  site : Site
  catalogs : ι → Catalog
  requests : ι → Request
  dropsNothing : ∀ i, (requests i).DropsNothing

namespace Movers

variable {ι : Type} [DecidableEq ι] (w : Movers ι)

/-- The site, and what is left of the requests, after a schedule of turns. -/
def after (schedule : List ι) : Clients ι :=
  Interleaving.after Site.answer ⟨w.site, fun i => ((w.requests i).action (w.catalogs i)).run⟩
    schedule

/-- The record that is registered under a name after a schedule. -/
def record? (schedule : List ι) (n : TableName) : Option TableRecord :=
  (w.after schedule).state.metastore.record? n

/-- The record that a rename has found: what its source had when it took its first turn. -/
def found? (schedule : List ι) (i : ι) : Option TableRecord :=
  match w.requests i with
  | .renameTable source _ => w.record? (schedule.takeWhile (· ≠ i)) source
  | _ => none

/-- In its next turn behind a schedule a rename that has found `r'` drops `r`, which is registered
under its source or its target. -/
structure Takes (schedule : List ι) (i : ι) (n : TableName) (r r' : TableRecord) : Prop where
  own : ∃ source target, w.requests i = .renameTable source target ∧ (n = source ∨ n = target)
  drops : ∃ next, (w.after schedule).programs i
    = .ask (.metastore (.deleteTable n.space.text n.table)) next
  held : w.record? schedule n = some r
  found : w.found? schedule i = some r'

/-- How far a request has come after a schedule, with what is left of it. -/
inductive RequestRun (schedule : List ι) (i : ι) :
    Program Backend (Except CatalogError Receipt) → Prop
  /-- It removes nothing any more, if it ever did. -/
  | keeping {p : Program Backend (Except CatalogError Receipt)} (hkeeps : p.Keeps) :
      RequestRun schedule i p
  /-- It is a rename that has had no turn. -/
  | asked {source target : TableName} {p : Program Backend (Except CatalogError Receipt)}
      (hrequest : w.requests i = .renameTable source target) (hturns : i ∉ schedule)
      (hmoves : p.Moves source target) : RequestRun schedule i p
  /-- It is a rename that has found its source. -/
  | found {source target : TableName} {r : TableRecord}
      {p : Program Backend (Except CatalogError Receipt)}
      (hrequest : w.requests i = .renameTable source target) (hturns : i ∈ schedule)
      (hfound : w.found? schedule i = some r) (hcopies : p.Copies source target r) :
      RequestRun schedule i p
  /-- It is a rename whose copy is registered. -/
  | copied {source target : TableName} {r : TableRecord}
      {p : Program Backend (Except CatalogError Receipt)}
      (hrequest : w.requests i = .renameTable source target) (hturns : i ∈ schedule)
      (hfound : w.found? schedule i = some r) (hclears : p.Clears source target) :
      RequestRun schedule i p
  /-- It is a rename that was told that nothing is registered under its source. -/
  | beaten {source target : TableName} {r : TableRecord}
      {p : Program Backend (Except CatalogError Receipt)}
      (hrequest : w.requests i = .renameTable source target) (hturns : i ∈ schedule)
      (hfound : w.found? schedule i = some r) (hundoes : p.Undoes target) :
      RequestRun schedule i p

variable {w} {schedule : List ι} {i j : ι}

theorem after_concat : w.after (schedule ++ [i]) = (w.after schedule).step Site.answer i :=
  Interleaving.after_concat schedule

theorem programs_concat_of_ne (hne : j ≠ i) :
    (w.after (schedule ++ [i])).programs j = (w.after schedule).programs j := by
  rw [after_concat, Interleaving.programs_step_of_ne hne]

/-- What a rename has found does not change after its first turn. -/
theorem found?_append (hi : i ∈ schedule) (later : List ι) :
    w.found? (schedule ++ later) i = w.found? schedule i := by
  have hbefore : (schedule ++ later).takeWhile (· ≠ i) = schedule.takeWhile (· ≠ i) := by
    rw [List.takeWhile_append, if_neg]
    intro hall
    have hwhole := (List.takeWhile_prefix (· ≠ i)).eq_of_length hall
    have hnot := List.mem_takeWhile_imp (hwhole ▸ hi)
    simp at hnot
  unfold found?
  rw [hbefore]

/-- In its first turn a rename finds what is registered under its source by then. -/
theorem found?_first {source target : TableName}
    (hrequest : w.requests i = .renameTable source target) (hi : i ∉ schedule) :
    w.found? (schedule ++ [i]) i = w.record? schedule source := by
  have hbefore : (schedule ++ [i]).takeWhile (· ≠ i) = schedule := by
    rw [List.takeWhile_append_of_pos, List.takeWhile_cons_of_neg (by simp), List.append_nil]
    intro j hj
    have hne : j ≠ i := by
      rintro rfl
      exact hi hj
    exact decide_eq_true hne
  unfold found?
  rw [hrequest, hbefore]

/-- The turn of another request leaves a request where it is. -/
theorem RequestRun.other {p : Program Backend (Except CatalogError Receipt)}
    (h : w.RequestRun schedule i p) (hj : j ≠ i) : w.RequestRun (schedule ++ [j]) i p := by
  cases h with
  | keeping hkeeps => exact .keeping hkeeps
  | asked hrequest hturns hmoves => exact .asked hrequest (not_mem_concat hturns hj) hmoves
  | found hrequest hturns hfound hcopies =>
      exact .found hrequest (List.mem_append_left _ hturns)
        ((found?_append hturns _).trans hfound) hcopies
  | copied hrequest hturns hfound hclears =>
      exact .copied hrequest (List.mem_append_left _ hturns)
        ((found?_append hturns _).trans hfound) hclears
  | beaten hrequest hturns hfound hundoes =>
      exact .beaten hrequest (List.mem_append_left _ hturns)
        ((found?_append hturns _).trans hfound) hundoes

/-! ### One turn -/

variable (w) in
/-- **What the turn of a request can do** to the records, and how far it takes the request. -/
inductive Turn (schedule : List ι) (i : ι) : Prop
  /-- It removes no record, and the request will not remove any later. -/
  | keeps (hgrows : ∀ n r, w.record? schedule n = some r → w.record? (schedule ++ [i]) n = some r)
      (hkeeps : ((w.after (schedule ++ [i])).programs i).Keeps)
  /-- A rename finds its source. -/
  | finds {source target : TableName} {r : TableRecord}
      (hrequest : w.requests i = .renameTable source target)
      (hstays : ∀ n, w.record? (schedule ++ [i]) n = w.record? schedule n)
      (hheld : w.record? schedule source = some r)
      (hfound : w.found? (schedule ++ [i]) i = some r)
      (hcopies : ((w.after (schedule ++ [i])).programs i).Copies source target r)
  /-- A rename registers its copy. -/
  | registers {source target : TableName} {r : TableRecord}
      (hrequest : w.requests i = .renameTable source target) (hturns : i ∈ schedule)
      (hfound : w.found? schedule i = some r)
      (hcopies : ((w.after schedule).programs i).Copies source target r)
      (hfree : w.record? schedule target = none)
      (hcopy : w.record? (schedule ++ [i]) target = some (r.copiedTo target))
      (hothers : ∀ n, n ≠ target → w.record? (schedule ++ [i]) n = w.record? schedule n)
      (hclears : ((w.after (schedule ++ [i])).programs i).Clears source target)
  /-- A rename finds nothing under its source to drop. -/
  | misses {source target : TableName} {r : TableRecord}
      (hrequest : w.requests i = .renameTable source target) (hturns : i ∈ schedule)
      (hfound : w.found? schedule i = some r)
      (hstays : ∀ n, w.record? (schedule ++ [i]) n = w.record? schedule n)
      (hremoves : ((w.after schedule).programs i).Removes)
      (hundoes : ((w.after (schedule ++ [i])).programs i).Undoes target)
  /-- A rename drops what is registered under its source or its target. -/
  | drops {n : TableName} {r r' : TableRecord} (hturns : i ∈ schedule)
      (htakes : w.Takes schedule i n r r') (hgone : w.record? (schedule ++ [i]) n = none)
      (hothers : ∀ k, k ≠ n → w.record? (schedule ++ [i]) k = w.record? schedule k)
      (hkeeps : ((w.after (schedule ++ [i])).programs i).Keeps)

variable {n source target : TableName} {r : TableRecord}

/-- A turn that does not change the site. -/
theorem record?_of_state (hstate : (w.after (schedule ++ [i])).state = (w.after schedule).state)
    (n : TableName) : w.record? (schedule ++ [i]) n = w.record? schedule n := by
  unfold record?
  rw [hstate]

/-- A turn in which a question is asked. -/
theorem turn_ask {q : BackendQuery}
    {next : q.Reply → Program Backend (Except CatalogError Receipt)}
    (hi : (w.after schedule).programs i = .ask q next) :
    (w.after (schedule ++ [i])).programs i = next (Site.answer q (w.after schedule).state).1 ∧
      (w.after (schedule ++ [i])).state = (Site.answer q (w.after schedule).state).2 := by
  rw [after_concat, Interleaving.step_ask hi]
  exact ⟨Function.update_self .., rfl⟩

/-- A turn in which a table is to be removed. -/
theorem turn_delete {next : Except Failure Unit → Program Backend (Except CatalogError Receipt)}
    (hi : (w.after schedule).programs i
      = .ask (.metastore (.deleteTable n.space.text n.table)) next) :
    ((∃ f, (w.after (schedule ++ [i])).programs i = next (.error f)) ∧
        ∀ k, w.record? (schedule ++ [i]) k = w.record? schedule k) ∨
      ∃ r, w.record? schedule n = some r ∧ w.record? (schedule ++ [i]) n = none ∧
        (∀ k, k ≠ n → w.record? (schedule ++ [i]) k = w.record? schedule k) ∧
          (w.after (schedule ++ [i])).programs i = next (.ok ()) := by
  obtain ⟨hprogram, hstate⟩ := turn_ask hi
  cases hr : w.record? schedule n with
  | none =>
      obtain ⟨f, hcall, -⟩ := Site.call_deleteTable_none hr
      unfold Handler.call at hcall
      rw [hcall] at hprogram hstate
      exact Or.inl ⟨⟨f, hprogram⟩, record?_of_state hstate⟩
  | some r =>
      obtain ⟨m', hcall, hloses⟩ := Site.call_deleteTable_some hr
      unfold Handler.call at hcall
      rw [hcall] at hprogram hstate
      refine Or.inr ⟨r, rfl, ?_, fun k hk => ?_, hprogram⟩
      · unfold record?
        rw [hstate]
        exact hloses.record?_self
      · unfold record?
        rw [hstate]
        exact hloses.record?_of_ne hk

theorem turn_keeping (hi : ((w.after schedule).programs i).Keeps) : w.Turn schedule i := by
  cases hp : (w.after schedule).programs i with
  | done a =>
      have hstep := Interleaving.step_done (h := Site.answer) hp
      rw [← after_concat] at hstep
      refine .keeps (fun n r hr => ?_) ?_
      · rw [record?_of_state (by rw [hstep])]
        exact hr
      · rw [hstep]
        exact hi
  | exhausted =>
      rw [hp] at hi
      exact absurd hi.conforms id
  | ask q next =>
      rw [hp] at hi
      obtain ⟨hprogram, hstate⟩ := turn_ask hp
      refine .keeps (fun n r hr => ?_) ?_
      · unfold record?
        rw [hstate]
        exact Site.record?_answer hi.conforms.1 hr
      · rw [hprogram]
        exact ⟨hi.conforms.2 _⟩

theorem turn_asked (hrequest : w.requests i = .renameTable source target) (hturns : i ∉ schedule)
    (hmoves : ((w.after schedule).programs i).Moves source target) : w.Turn schedule i := by
  obtain ⟨next, hp, hok, herror⟩ := hmoves
  obtain ⟨hanswer, hstate⟩ := turn_ask hp
  have hstays : ∀ n, w.record? (schedule ++ [i]) n = w.record? schedule n :=
    record?_of_state hstate
  have hprogram : (w.after (schedule ++ [i])).programs i = next
      ((w.after schedule).state.metastore.getTable source.space.text source.table) := hanswer
  cases hget : (w.after schedule).state.metastore.getTable source.space.text source.table with
  | error f =>
      rw [hget] at hprogram
      refine .keeps (fun n r hr => (hstays n).trans hr) ?_
      rw [hprogram]
      exact herror f
  | ok r =>
      rw [hget] at hprogram
      have hheld : w.record? schedule source = some r := Memory.record?_of_getTable hget
      rcases hok r with hcopies | hkeeps
      · refine .finds hrequest hstays hheld ((found?_first hrequest hturns).trans hheld) ?_
        rw [hprogram]
        exact hcopies
      · refine .keeps (fun n r hr => (hstays n).trans hr) ?_
        rw [hprogram]
        exact hkeeps

theorem turn_found (hrequest : w.requests i = .renameTable source target) (hturns : i ∈ schedule)
    (hfound : w.found? schedule i = some r)
    (hcopies : ((w.after schedule).programs i).Copies source target r) : w.Turn schedule i := by
  have hcopying := hcopies
  obtain ⟨next, hp, hok, herror⟩ := hcopies
  obtain ⟨hprogram, hstate⟩ := turn_ask hp
  rcases hcall : Site.answer
    (.metastore (.createTable target.space.text (r.renamed target.table))) (w.after schedule).state
    with ⟨reply, s'⟩
  rw [hcall] at hprogram hstate
  cases reply with
  | error f =>
      have hstays : ∀ n, w.record? (schedule ++ [i]) n = w.record? schedule n :=
        record?_of_state (hstate.trans (Site.eq_of_call_error hcall))
      refine .keeps (fun n r hr => (hstays n).trans hr) ?_
      rw [hprogram]
      exact herror f
  | ok u =>
      obtain ⟨hgains, -⟩ := Site.gains_of_call rfl hcall
      refine .registers hrequest hturns hfound hcopying hgains.absent ?_ (fun n hn => ?_) ?_
      · unfold record?
        rw [hstate]
        exact hgains.record?_self
      · unfold record?
        rw [hstate]
        exact hgains.record?_of_ne hn
      · rw [hprogram]
        exact hok

theorem turn_copied (hrequest : w.requests i = .renameTable source target) (hturns : i ∈ schedule)
    (hfound : w.found? schedule i = some r)
    (hclears : ((w.after schedule).programs i).Clears source target) : w.Turn schedule i := by
  obtain ⟨next, hp, hok, herror⟩ := hclears
  rcases turn_delete hp with ⟨⟨f, hprogram⟩, hstays⟩ | ⟨r', hheld, hgone, hothers, hprogram⟩
  · refine .misses hrequest hturns hfound hstays ⟨_, _, _, hp⟩ ?_
    rw [hprogram]
    exact herror f
  · refine .drops hturns ⟨⟨_, _, hrequest, Or.inl rfl⟩, ⟨_, hp⟩, hheld, hfound⟩ hgone hothers ?_
    rw [hprogram]
    exact hok

theorem turn_beaten (hrequest : w.requests i = .renameTable source target) (hturns : i ∈ schedule)
    (hfound : w.found? schedule i = some r)
    (hundoes : ((w.after schedule).programs i).Undoes target) : w.Turn schedule i := by
  obtain ⟨next, hp, hnext⟩ := hundoes
  rcases turn_delete hp with ⟨⟨f, hprogram⟩, hstays⟩ | ⟨r', hheld, hgone, hothers, hprogram⟩
  · refine .keeps (fun n r hr => (hstays n).trans hr) ?_
    rw [hprogram]
    exact hnext _
  · refine .drops hturns ⟨⟨_, _, hrequest, Or.inr rfl⟩, ⟨_, hp⟩, hheld, hfound⟩ hgone hothers ?_
    rw [hprogram]
    exact hnext _

theorem RequestRun.turn (h : w.RequestRun schedule i ((w.after schedule).programs i)) :
    w.Turn schedule i := by
  cases h with
  | keeping hkeeps => exact turn_keeping hkeeps
  | asked hrequest hturns hmoves => exact turn_asked hrequest hturns hmoves
  | found hrequest hturns hfound hcopies => exact turn_found hrequest hturns hfound hcopies
  | copied hrequest hturns hfound hclears => exact turn_copied hrequest hturns hfound hclears
  | beaten hrequest hturns hfound hundoes => exact turn_beaten hrequest hturns hfound hundoes

/-- A turn takes its request on. -/
theorem Turn.requestRun (h : w.Turn schedule i) :
    w.RequestRun (schedule ++ [i]) i ((w.after (schedule ++ [i])).programs i) := by
  have hlast : i ∈ schedule ++ [i] := List.mem_append_right _ List.mem_cons_self
  cases h with
  | keeps hgrows hkeeps => exact .keeping hkeeps
  | finds hrequest hstays hheld hfound hcopies => exact .found hrequest hlast hfound hcopies
  | registers hrequest hturns hfound hcopies hfree hcopy hothers hclears =>
      exact .copied hrequest hlast ((found?_append hturns _).trans hfound) hclears
  | misses hrequest hturns hfound hstays hremoves hundoes =>
      exact .beaten hrequest hlast ((found?_append hturns _).trans hfound) hundoes
  | drops hturns htakes hgone hothers hkeeps => exact .keeping hkeeps

/-- **Every schedule** takes each request along one of its ways. -/
theorem requestRun (schedule : List ι) (i : ι) :
    w.RequestRun schedule i ((w.after schedule).programs i) := by
  -- The schedule grows at its end, where the last turn is.
  induction schedule using List.reverseRecOn with
  | nil =>
      rcases (w.requests i).moves_or_keeps (w.catalogs i) (w.dropsNothing i)
        with ⟨source, target, hrequest, hmoves⟩ | hkeeps
      · exact .asked hrequest List.not_mem_nil hmoves
      · exact .keeping hkeeps
  | append_singleton schedule j ih =>
      by_cases hj : j = i
      · subst hj
        exact ih.turn.requestRun
      · rw [programs_concat_of_ne (Ne.symm hj)]
        exact ih.other hj

/-! ### What is counted -/

section Count

variable (w) (P : TableRecord → Prop)

/-- The names under which a record with the property is registered. -/
def held (schedule : List ι) : Set TableName := {n | ∃ r, w.record? schedule n = some r ∧ P r}

/-- The renames that have found a record with the property and are not done with it. -/
def inHand (schedule : List ι) : Set ι :=
  {i | i ∈ schedule ∧ ¬((w.after schedule).programs i).Keeps ∧
    ∃ r, w.found? schedule i = some r ∧ P r}

/-- Those of them that want to drop a record in their next turn. -/
def owing (schedule : List ι) : Set ι :=
  {i | i ∈ schedule ∧ ((w.after schedule).programs i).Removes ∧
    ∃ r, w.found? schedule i = some r ∧ P r}

/-- **What is counted**: there are more records with the property than renames that want to drop
one. -/
def Covered (schedule : List ι) : Prop :=
  (w.owing P schedule).encard + 1 ≤ (w.held P schedule).encard

/-- There is no record with the property, and nobody has found one that was there before. -/
def Idle (schedule : List ι) : Prop := w.held P schedule = ∅ ∧ w.inHand P schedule = ∅

end Count

variable {P : TableRecord → Prop} {k : TableName} {r' : TableRecord}

theorem owing_subset_inHand : w.owing P schedule ⊆ w.inHand P schedule := by
  rintro i ⟨hturns, hremoves, hfound⟩
  exact ⟨hturns, fun hkeeps => hkeeps.not_removes hremoves, hfound⟩

/-- The turn of another request does not change how far a request has come with what it found. -/
theorem waits_of_ne (waits : Program Backend (Except CatalogError Receipt) → Prop) (hne : j ≠ i) :
    (j ∈ schedule ++ [i] ∧ waits ((w.after (schedule ++ [i])).programs j) ∧
        ∃ r, w.found? (schedule ++ [i]) j = some r ∧ P r) ↔
      (j ∈ schedule ∧ waits ((w.after schedule).programs j) ∧
        ∃ r, w.found? schedule j = some r ∧ P r) := by
  have hturns : j ∈ schedule ++ [i] ↔ j ∈ schedule := by
    rw [List.mem_append, List.mem_singleton]
    exact or_iff_left hne
  rw [hturns, programs_concat_of_ne hne]
  refine and_congr_right fun hj => ?_
  rw [found?_append hj]

theorem mem_owing_of_ne (hne : j ≠ i) :
    j ∈ w.owing P (schedule ++ [i]) ↔ j ∈ w.owing P schedule :=
  waits_of_ne Program.Removes hne

theorem mem_inHand_of_ne (hne : j ≠ i) :
    j ∈ w.inHand P (schedule ++ [i]) ↔ j ∈ w.inHand P schedule :=
  waits_of_ne (fun p => ¬p.Keeps) hne

/-- Only the request whose turn it is can come to owe something. -/
theorem owing_concat_subset (hi : i ∉ w.owing P (schedule ++ [i])) :
    w.owing P (schedule ++ [i]) ⊆ w.owing P schedule := by
  intro j hj
  by_cases hne : j = i
  · subst hne
    exact absurd hj hi
  · exact (mem_owing_of_ne hne).1 hj

theorem inHand_concat_subset (hi : i ∈ w.inHand P (schedule ++ [i]) → i ∈ w.inHand P schedule) :
    w.inHand P (schedule ++ [i]) ⊆ w.inHand P schedule := by
  intro j hj
  by_cases hne : j = i
  · subst hne
    exact hi hj
  · exact (mem_inHand_of_ne hne).1 hj

/-! ### What every turn keeps of it -/

/-- The records of a turn that leaves all others where they are. -/
theorem held_subset_of_others
    (hothers : ∀ k, k ≠ n → w.record? (schedule ++ [i]) k = w.record? schedule k)
    (hn : n ∉ w.held P schedule) : w.held P schedule ⊆ w.held P (schedule ++ [i]) := by
  rintro k ⟨r, hr, hP⟩
  have hne : k ≠ n := by
    rintro rfl
    exact hn ⟨r, hr, hP⟩
  exact ⟨r, (hothers k hne).trans hr, hP⟩

theorem held_subset_of_stays (hstays : ∀ k, w.record? (schedule ++ [i]) k = w.record? schedule k) :
    w.held P schedule ⊆ w.held P (schedule ++ [i]) := by
  rintro k ⟨r, hr, hP⟩
  exact ⟨r, (hstays k).trans hr, hP⟩

theorem not_mem_held (hfree : w.record? schedule n = none) : n ∉ w.held P schedule := by
  rintro ⟨r, hr, -⟩
  rw [hfree] at hr
  cases hr

/-- A turn with which no record of the kind goes and nobody comes to want to drop one. -/
theorem Covered.grow (h : w.Covered P schedule)
    (hheld : w.held P schedule ⊆ w.held P (schedule ++ [i]))
    (howing : w.owing P (schedule ++ [i]) ⊆ w.owing P schedule) :
    w.Covered P (schedule ++ [i]) := by
  calc (w.owing P (schedule ++ [i])).encard + 1
      ≤ (w.owing P schedule).encard + 1 := by gcongr
    _ ≤ (w.held P schedule).encard := h
    _ ≤ (w.held P (schedule ++ [i])).encard := Set.encard_le_encard hheld

/-- The turn in which a copy of a record of the kind is registered: there is one more record, and
one more rename that wants to drop one. -/
theorem Covered.register (h : w.Covered P schedule) (hi : i ∉ w.owing P schedule)
    (hfree : w.record? schedule n = none) (hcopy : w.record? (schedule ++ [i]) n = some r)
    (hP : P r) (hothers : ∀ k, k ≠ n → w.record? (schedule ++ [i]) k = w.record? schedule k) :
    w.Covered P (schedule ++ [i]) := by
  have hnew : n ∉ w.held P schedule := not_mem_held hfree
  have hheld : insert n (w.held P schedule) ⊆ w.held P (schedule ++ [i]) :=
    Set.insert_subset ⟨r, hcopy, hP⟩ (held_subset_of_others hothers hnew)
  have howing : w.owing P (schedule ++ [i]) ⊆ insert i (w.owing P schedule) := by
    intro j hj
    by_cases hne : j = i
    · exact Or.inl hne
    · exact Or.inr ((mem_owing_of_ne hne).1 hj)
  calc (w.owing P (schedule ++ [i])).encard + 1
      ≤ (insert i (w.owing P schedule)).encard + 1 := by gcongr
    _ = (w.owing P schedule).encard + 1 + 1 := by rw [Set.encard_insert_of_notMem hi]
    _ ≤ (w.held P schedule).encard + 1 := by gcongr; exact h
    _ = (insert n (w.held P schedule)).encard := (Set.encard_insert_of_notMem hnew).symm
    _ ≤ (w.held P (schedule ++ [i])).encard := Set.encard_le_encard hheld

/-- The turn in which a rename that wants to drop a record of the kind drops one: there is one less
of each. -/
theorem Covered.drop (h : w.Covered P schedule) (hi : i ∈ w.owing P schedule)
    (hheld : n ∈ w.held P schedule)
    (hothers : ∀ k, k ≠ n → w.record? (schedule ++ [i]) k = w.record? schedule k)
    (hkeeps : ((w.after (schedule ++ [i])).programs i).Keeps) : w.Covered P (schedule ++ [i]) := by
  have hrest : w.held P schedule \ {n} ⊆ w.held P (schedule ++ [i]) := by
    rintro k ⟨⟨r, hr, hP⟩, hne⟩
    exact ⟨r, (hothers k hne).trans hr, hP⟩
  have howing : w.owing P (schedule ++ [i]) ⊆ w.owing P schedule \ {i} := by
    intro j hj
    have hne : j ≠ i := by
      rintro rfl
      exact hkeeps.not_removes hj.2.1
    exact ⟨(mem_owing_of_ne hne).1 hj, hne⟩
  have hless : (w.owing P schedule \ {i}).encard + 1 + 1
      ≤ (w.held P schedule \ {n}).encard + 1 := by
    rw [Set.encard_sdiff_singleton_add_one hi, Set.encard_sdiff_singleton_add_one hheld]
    exact h
  calc (w.owing P (schedule ++ [i])).encard + 1
      ≤ (w.owing P schedule \ {i}).encard + 1 := by gcongr
    _ ≤ (w.held P schedule \ {n}).encard :=
        (ENat.add_le_add_iff_right ENat.one_ne_top).1 hless
    _ ≤ (w.held P (schedule ++ [i])).encard := Set.encard_le_encard hrest

/-- Who removes nothing any more is not counted. -/
theorem not_mem_owing_of_keeps (hkeeps : ((w.after schedule).programs i).Keeps) :
    i ∉ w.owing P schedule :=
  fun hi => hkeeps.not_removes hi.2.1

/-- **Every turn keeps what is counted**, unless it is one in which a rename drops a record with the
property that has found one without. -/
theorem Covered.turn (hcopies : ∀ r n, P r → P (r.copiedTo n)) (h : w.Covered P schedule)
    (hproper : ∀ n r r', w.Takes schedule i n r r' → P r → P r') (ht : w.Turn schedule i) :
    w.Covered P (schedule ++ [i]) := by
  cases ht with
  | keeps hgrows hkeeps =>
      refine h.grow ?_ (owing_concat_subset (not_mem_owing_of_keeps hkeeps))
      rintro n ⟨r, hr, hP⟩
      exact ⟨r, hgrows n r hr, hP⟩
  | finds hrequest hstays hheld hfound hcopying =>
      exact h.grow (held_subset_of_stays hstays)
        (owing_concat_subset fun hi => hcopying.not_removes hi.2.1)
  | @registers source target r hrequest hturns hfound hcopying hfree hcopy hothers hclears =>
      by_cases hP : P r
      · exact h.register (fun hi => hcopying.not_removes hi.2.1) hfree hcopy (hcopies r target hP)
          hothers
      · refine h.grow (held_subset_of_others hothers (not_mem_held hfree)) (owing_concat_subset ?_)
        rintro ⟨-, -, r', hr', hP'⟩
        rw [found?_append hturns, hfound, Option.some.injEq] at hr'
        rw [← hr'] at hP'
        exact hP hP'
  | misses hrequest hturns hfound hstays hremoves hundoes =>
      refine h.grow (held_subset_of_stays hstays) ?_
      intro j hj
      by_cases hne : j = i
      · subst hne
        obtain ⟨-, -, hr⟩ := hj
        rw [found?_append hturns] at hr
        exact ⟨hturns, hremoves, hr⟩
      · exact (mem_owing_of_ne hne).1 hj
  | @drops n r r' hturns htakes hgone hothers hkeeps =>
      by_cases hP : P r
      · obtain ⟨next, hp⟩ := htakes.drops
        have howes : i ∈ w.owing P schedule :=
          ⟨hturns, ⟨_, _, _, hp⟩, r', htakes.found, hproper n r r' htakes hP⟩
        exact h.drop howes ⟨r, htakes.held, hP⟩ hothers hkeeps
      · refine h.grow (held_subset_of_others hothers ?_)
          (owing_concat_subset (not_mem_owing_of_keeps hkeeps))
        rintro ⟨r'', hr'', hP''⟩
        have hsame := hr''.symm.trans htakes.held
        rw [Option.some.injEq] at hsame
        rw [hsame] at hP''
        exact hP hP''

/-- While nobody has found a record of the kind, nobody is counted. -/
theorem covered_of_inHand (hidle : w.inHand P schedule = ∅)
    (hsome : (w.held P schedule).Nonempty) : w.Covered P schedule := by
  have howed : w.owing P schedule = ∅ := Set.subset_eq_empty owing_subset_inHand hidle
  unfold Covered
  rw [howed, Set.encard_empty, zero_add]
  exact Set.one_le_encard_iff_nonempty.2 hsome

theorem covered_or_idle (hidle : w.inHand P schedule = ∅) :
    w.Covered P schedule ∨ w.Idle P schedule := by
  rcases Set.eq_empty_or_nonempty (w.held P schedule) with hnone | hsome
  · exact Or.inr ⟨hnone, hidle⟩
  · exact Or.inl (covered_of_inHand hidle hsome)

/-- Nobody finds a record of a kind that is not there. -/
theorem Idle.turn (h : w.Idle P schedule) (ht : w.Turn schedule i) :
    w.Covered P (schedule ++ [i]) ∨ w.Idle P (schedule ++ [i]) := by
  obtain ⟨hnone, hidle⟩ := h
  refine covered_or_idle (Set.subset_eq_empty (inHand_concat_subset ?_) hidle)
  rintro ⟨-, hwants, r', hr', hP⟩
  cases ht with
  | keeps hgrows hkeeps => exact absurd hkeeps hwants
  | drops hturns htakes hgone hothers hkeeps => exact absurd hkeeps hwants
  | finds hrequest hstays hheld hfound hcopying =>
      have hsource : _ ∈ w.held P schedule := ⟨r', hheld.trans (hfound.symm.trans hr'), hP⟩
      rw [hnone] at hsource
      exact absurd hsource (Set.notMem_empty _)
  | registers hrequest hturns hfound hcopying hfree hcopy hothers hclears =>
      rw [found?_append hturns] at hr'
      exact ⟨hturns, hcopying.not_keeps, r', hr', hP⟩
  | misses hrequest hturns hfound hstays hremoves hundoes =>
      rw [found?_append hturns] at hr'
      exact ⟨hturns, fun hkeeps => hkeeps.not_removes hremoves, r', hr', hP⟩

/-! ### Whole schedules -/

variable (w P) in
/-- In a turn of the schedule a rename drops a record with the property, while the record that it
has found and copied does not have it. -/
def TakesOther (schedule : List ι) : Prop :=
  ∃ before i later n r r', schedule = before ++ i :: later ∧ w.Takes before i n r r' ∧ P r ∧ ¬P r'

theorem TakesOther.append (h : w.TakesOther P schedule) (later : List ι) :
    w.TakesOther P (schedule ++ later) := by
  obtain ⟨before, i, rest, n, r, r', rfl, htakes, hP, hP'⟩ := h
  exact ⟨before, i, rest ++ later, n, r, r', by simp, htakes, hP, hP'⟩

/-- A turn is proper, or it is one in which a rename drops what it has not copied. -/
theorem proper_or_takesOther (P : TableRecord → Prop) (schedule : List ι) (i : ι) :
    (∀ n r r', w.Takes schedule i n r r' → P r → P r') ∨ w.TakesOther P (schedule ++ [i]) := by
  by_cases hproper : ∀ n r r', w.Takes schedule i n r r' → P r → P r'
  · exact Or.inl hproper
  · right
    push Not at hproper
    obtain ⟨n, r, r', htakes, hP, hP'⟩ := hproper
    exact ⟨schedule, i, [], n, r, r', rfl, htakes, hP, hP'⟩

theorem Covered.after (hcopies : ∀ r n, P r → P (r.copiedTo n)) (h : w.Covered P schedule)
    (later : List ι) : w.Covered P (schedule ++ later) ∨ w.TakesOther P (schedule ++ later) := by
  -- The schedule grows at its end, where the last turn is.
  induction later using List.reverseRecOn with
  | nil =>
      left
      rwa [List.append_nil]
  | append_singleton later i ih =>
      rw [← List.append_assoc]
      rcases ih with hcovered | hother
      · rcases proper_or_takesOther P (schedule ++ later) i with hproper | hother
        · exact Or.inl (hcovered.turn hcopies hproper (requestRun (schedule ++ later) i).turn)
        · exact Or.inr hother
      · exact Or.inr (hother.append [i])

theorem covered_or_idle_or_takesOther (hcopies : ∀ r n, P r → P (r.copiedTo n))
    (schedule : List ι) :
    (w.Covered P schedule ∨ w.Idle P schedule) ∨ w.TakesOther P schedule := by
  induction schedule using List.reverseRecOn with
  | nil =>
      left
      refine covered_or_idle (Set.eq_empty_of_forall_notMem fun i hi => ?_)
      exact List.not_mem_nil hi.1
  | append_singleton schedule i ih =>
      rcases ih with (hcovered | hidle) | hother
      · rcases hcovered.after hcopies [i] with hcovered | hother
        · exact Or.inl (Or.inl hcovered)
        · exact Or.inr hother
      · exact Or.inl (hidle.turn (requestRun schedule i).turn)
      · exact Or.inr (hother.append [i])

/-- A turn of a request that has a record to register. -/
theorem registers_turn (hcopies : ∀ r n, P r → P (r.copiedTo n))
    (h : ((w.after schedule).programs i).Registers n P) :
    ((w.after (schedule ++ [i])).programs i).Registers n P ∨ n ∈ w.held P (schedule ++ [i]) := by
  cases hp : (w.after schedule).programs i with
  | done outcome =>
      left
      rw [after_concat, Interleaving.step_done hp]
      exact h
  | exhausted =>
      left
      rw [after_concat, Interleaving.step_exhausted hp]
      exact h
  | ask q next =>
      obtain ⟨hprogram, hstate⟩ := turn_ask hp
      rw [hprogram]
      rw [hp] at h
      cases h with
      | asks hnext => exact Or.inl (hnext _)
      | @registers r _ hname hP hrefused =>
          rcases hcall : Site.answer (.metastore (.createTable n.space.text r))
            (w.after schedule).state with ⟨reply, s'⟩
          cases reply with
          | error f => exact Or.inl (hrefused f)
          | ok u =>
              right
              obtain ⟨hgains, -⟩ := Site.gains_of_call hname hcall
              refine ⟨_, ?_, hcopies r n hP⟩
              unfold record?
              rw [hstate, hcall, hgains.record?_self]
              unfold TableRecord.copiedTo
              rw [← hname]

/-- **What a request registers before it returns** has been registered by then. -/
theorem registers_or_held (hcopies : ∀ r n, P r → P (r.copiedTo n))
    (hrequest : Program.Registers n P ((w.requests i).action (w.catalogs i)).run)
    (schedule : List ι) :
    ((w.after schedule).programs i).Registers n P ∨
      ∃ before later, schedule = before ++ later ∧ n ∈ w.held P before := by
  induction schedule using List.reverseRecOn with
  | nil => exact Or.inl hrequest
  | append_singleton schedule j ih =>
      rcases ih with hleft | ⟨before, later, rfl, hheld⟩
      · by_cases hj : j = i
        · subst hj
          rcases registers_turn hcopies hleft with hleft | hheld
          · exact Or.inl hleft
          · exact Or.inr ⟨schedule ++ [j], [], (List.append_nil _).symm, hheld⟩
        · left
          rw [programs_concat_of_ne (Ne.symm hj)]
          exact hleft
      · exact Or.inr ⟨before, later ++ [j], List.append_assoc .., hheld⟩

/-- **What is registered stays registered**, as far as any property goes that a copy keeps, unless
a rename drops what it has not copied. -/
theorem held_or_takesOther (hcopies : ∀ r n, P r → P (r.copiedTo n)) (schedule later : List ι)
    (hheld : (w.held P schedule).Nonempty) :
    (w.held P (schedule ++ later)).Nonempty ∨ w.TakesOther P (schedule ++ later) := by
  rcases covered_or_idle_or_takesOther hcopies schedule with (hcovered | hidle) | hother
  · rcases hcovered.after hcopies later with hcovered | hother
    · left
      have hone : 1 ≤ (w.held P (schedule ++ later)).encard :=
        le_trans le_add_self hcovered
      exact Set.one_le_encard_iff_nonempty.1 hone
    · exact Or.inr hother
  · rw [hidle.1] at hheld
    exact absurd hheld Set.not_nonempty_empty
  · exact Or.inr (hother.append later)

end Movers

/-! ### Locations -/

namespace TableRecord

/-- The record names a location of metadata, whatever kind of table it is. -/
def Names (location : String) (r : TableRecord) : Prop :=
  r.parameters.get? metadataLocationKey = some location

theorem Names.copiedTo {location : String} (r : TableRecord) (n : TableName)
    (h : r.Names location) : (r.copiedTo n).Names location := h

theorem LeadsTo.copiedTo {location : String} (r : TableRecord) (n : TableName)
    (h : r.LeadsTo location) : (r.copiedTo n).LeadsTo location := by
  obtain ⟨k, hk⟩ := h
  exact ⟨n, Catalog.metadataLocation_congr hk rfl⟩

end TableRecord

/-- **A creation that has returned a table has registered it**, with a new file for its metadata. -/
theorem Movers.exists_held_of_created {ι : Type} [DecidableEq ι] {w : Movers ι}
    {schedule : List ι} {i : ι} {fresh : Fresh} {n : TableName} {creation : TableCreation}
    {receipt : Receipt} (hrequest : w.requests i = .createTable fresh n creation)
    (hdone : (w.after schedule).programs i = .done (.ok receipt)) :
    ∃ place before later, schedule = before ++ later ∧
      n ∈ w.held (·.LeadsTo (Metadata.fileLocation fresh.fileId place)) before := by
  have hregisters := Request.registers_createTable (w.catalogs i) fresh n creation
  rw [← hrequest] at hregisters
  have hcopies : ∀ (r : TableRecord) (k : TableName),
      (∃ place, r.LeadsTo (Metadata.fileLocation fresh.fileId place)) →
        ∃ place, (r.copiedTo k).LeadsTo (Metadata.fileLocation fresh.fileId place) := by
    rintro r k ⟨place, hleads⟩
    exact ⟨place, hleads.copiedTo r k⟩
  rcases registers_or_held hcopies hregisters schedule
    with hleft | ⟨before, later, hschedule, r, hr, place, hleads⟩
  · rw [hdone] at hleft
    cases hleft
  · exact ⟨place, before, later, hschedule, r, hr, hleads⟩

/-- **A location of metadata stays registered** under at least one name, from any time on, and so
does a table of this catalog that has its metadata there, unless a rename, in a turn of the
schedule, drops under its source or its target a record with this location after it has copied one
without.  This goes for the metadata file of every creation that has returned a table. -/
theorem Movers.location_stays_registered {ι : Type} [DecidableEq ι] (w : Movers ι)
    (location : String) (schedule later : List ι) :
    ((w.held (·.Names location) schedule).Nonempty →
      (w.held (·.Names location) (schedule ++ later)).Nonempty ∨
        w.TakesOther (·.Names location) (schedule ++ later)) ∧
    ((w.held (·.LeadsTo location) schedule).Nonempty →
      (w.held (·.LeadsTo location) (schedule ++ later)).Nonempty ∨
        w.TakesOther (·.LeadsTo location) (schedule ++ later)) ∧
    ∀ i fresh n creation receipt, w.requests i = .createTable fresh n creation →
      (w.after schedule).programs i = .done (.ok receipt) →
      ∃ place file, file = Metadata.fileLocation fresh.fileId place ∧
        ((w.held (·.LeadsTo file) (schedule ++ later)).Nonempty ∨
          w.TakesOther (·.LeadsTo file) (schedule ++ later)) := by
  refine ⟨held_or_takesOther TableRecord.Names.copiedTo schedule later,
    held_or_takesOther TableRecord.LeadsTo.copiedTo schedule later, ?_⟩
  intro i fresh n creation receipt hrequest hdone
  obtain ⟨place, before, rest, rfl, hheld⟩ := exists_held_of_created hrequest hdone
  rw [List.append_assoc]
  exact ⟨place, _, rfl,
    held_or_takesOther TableRecord.LeadsTo.copiedTo before (rest ++ later) ⟨n, hheld⟩⟩

/-! ### A table that is lost -/

namespace RenameChain

/-- A name in the one namespace. -/
def inDb (t : String) (ht : IsSegment t) : TableName := ⟨⟨"db", isSegment_db⟩, t, ht⟩

/-- Two tables, each with a metadata file of its own. -/
def site : Site where
  metastore := (Memory.withPageSize 100).setDatabase "db"
    { record := .ofProperties "db" .empty
      tables := (OrderedMap.empty.insert "orders"
        ((TableRecord.ofMetadata "orders" "s3://bucket/orders.json" .empty).copiedTo
          (inDb "orders" (by decide)))).insert "stock"
        ((TableRecord.ofMetadata "stock" "s3://bucket/stock.json" .empty).copiedTo
          (inDb "stock" (by decide))) }
  objects := .empty

/-- Two requests move the one table to two names, and a third moves the other table to the name
that the first had. -/
def movers : Movers (Fin 3) where
  site := site
  catalogs := fun _ => ⟨"lake", none, 1⟩
  requests
    | 0 => .renameTable (inDb "orders" (by decide)) (inDb "copy" (by decide))
    | 1 => .renameTable (inDb "orders" (by decide)) (inDb "sales" (by decide))
    | 2 => .renameTable (inDb "stock" (by decide)) (inDb "orders" (by decide))
  dropsNothing
    | 0 => trivial
    | 1 => trivial
    | 2 => trivial

/-- The first request registers its copy; the second moves the table, and the third the other one
into its place; and then the first drops its source. -/
def schedule : List (Fin 3) := [0, 0, 1, 1, 1, 2, 2, 2, 0]

/-- The locations of all tables that are left. -/
theorem location_of_left :
    ∀ space ∈ (movers.after schedule).state.metastore.databases.entries,
      ∀ table ∈ space.2.tables.entries, table.2.Names "s3://bucket/orders.json" := by
  unfold TableRecord.Names
  decide +kernel

/-- **Renames lose a table**: its location was registered, and none of them was to drop anything,
but it is registered under no name any more. -/
theorem renames_lose_table :
    (movers.held (·.Names "s3://bucket/stock.json") []).Nonempty ∧
      movers.held (·.Names "s3://bucket/stock.json") schedule = ∅ := by
  constructor
  · exact ⟨inDb "stock" (by decide), _, rfl, rfl⟩
  · refine Set.eq_empty_of_forall_notMem ?_
    rintro n ⟨r, hr, hnames⟩
    obtain ⟨d, hd, ht⟩ := Memory.exists_of_record? hr
    have hleft : r.Names "s3://bucket/orders.json" := location_of_left _
      (OrderedMap.mem_entries_iff.2 hd) _ (OrderedMap.mem_entries_iff.2 ht)
    have hsame : "s3://bucket/orders.json" = "s3://bucket/stock.json" :=
      Option.some.inj (hleft.symm.trans hnames)
    exact absurd hsame (by decide)

/-! ### A table that is created and stays -/

/-- Where the metadata file of a new table lies. -/
def salesFile : String := Metadata.fileLocation Site.firstIds.fileId "s3://bucket/sales"

/-- One request creates a table, and another one moves a table. -/
def founders : Movers (Fin 2) where
  site := site
  catalogs := fun _ => ⟨"lake", none, 1⟩
  requests
    | 0 => .createTable Site.firstIds (inDb "sales" (by decide))
        { Site.bareTable with location := some "s3://bucket/sales" }
    | 1 => .renameTable (inDb "orders" (by decide)) (inDb "copy" (by decide))
  dropsNothing
    | 0 => trivial
    | 1 => trivial

/-- With four turns the table is created. -/
theorem created_founders : (founders.after [0, 0, 0, 0]).programs 0
    = .done (.ok (.table (inDb "sales" (by decide)) salesFile)) := by
  have hpath : Objects.pathOf salesFile
      = .ok "sales/metadata/00000-11111111-1111-1111-1111-111111111111.metadata.json" := by
    decide +kernel
  -- After three turns the file is written and registered, and is left to be read.
  have hloading : (founders.after [0, 0, 0]).programs 0 = ((Objects.readMetadata salesFile >>=
      fun m => pure (⟨inDb "sales" (by decide), m, salesFile, founders.catalogs 0⟩ : Table)) >>=
        fun t => pure t.receipt).run := rfl
  have hdata : (founders.after [0, 0, 0]).state.objects.get?
      "sales/metadata/00000-11111111-1111-1111-1111-111111111111.metadata.json"
      = some (Site.bareTable.content Site.firstIds "s3://bucket/sales") := rfl
  have hread := Site.perform_readMetadata hpath hdata
  rw [Site.read?_bareTable] at hread
  rw [show [0, 0, 0, 0] = [0, 0, 0] ++ [(0 : Fin 2)] from rfl, Movers.after_concat,
    Interleaving.step_once hloading ((Objects.asksOnce_readMetadata hpath).bind fun _ => ⟨_, rfl⟩)
      (Action.perform_bind_ok Site.answer hread)]
  rfl

/-- While the other table is moved, or after it, the location of the new table and that of the
moved one stay registered, as long as nobody drops what has not been copied. -/
theorem location_stays_registered_founders :
    (founders.held (·.Names "s3://bucket/orders.json") [0, 0, 0, 0]).Nonempty ∧
    (founders.held (·.LeadsTo "s3://bucket/orders.json") [0, 0, 0, 0]).Nonempty ∧
    (founders.after [0, 0, 0, 0]).programs 0
      = .done (.ok (.table (inDb "sales" (by decide)) salesFile)) ∧
    ((founders.held (·.Names "s3://bucket/orders.json") [0, 0, 0, 0, 1, 1, 1]).Nonempty ∨
      founders.TakesOther (·.Names "s3://bucket/orders.json") [0, 0, 0, 0, 1, 1, 1]) ∧
    ((founders.held (·.LeadsTo "s3://bucket/orders.json") [0, 0, 0, 0, 1, 1, 1]).Nonempty ∨
      founders.TakesOther (·.LeadsTo "s3://bucket/orders.json") [0, 0, 0, 0, 1, 1, 1]) ∧
    ∃ place file, file = Metadata.fileLocation Site.firstIds.fileId place ∧
      ((founders.held (·.LeadsTo file) [0, 0, 0, 0, 1, 1, 1]).Nonempty ∨
        founders.TakesOther (·.LeadsTo file) [0, 0, 0, 0, 1, 1, 1]) := by
  have hrecord : founders.record? [0, 0, 0, 0] (inDb "orders" (by decide))
      = some ((TableRecord.ofMetadata "orders" "s3://bucket/orders.json" .empty).copiedTo
        (inDb "orders" (by decide))) := rfl
  have hnames : (founders.held (·.Names "s3://bucket/orders.json") [0, 0, 0, 0]).Nonempty :=
    ⟨_, _, hrecord, rfl⟩
  have hleads : (founders.held (·.LeadsTo "s3://bucket/orders.json") [0, 0, 0, 0]).Nonempty :=
    ⟨_, _, hrecord, TableRecord.LeadsTo.copiedTo _ _
      ⟨inDb "orders" (by decide), Catalog.metadataLocation_ofMetadata _ "orders" _ .empty⟩⟩
  obtain ⟨hnamed, hled, hcreated⟩ :=
    founders.location_stays_registered "s3://bucket/orders.json" [0, 0, 0, 0] [1, 1, 1]
  exact ⟨hnames, hleads, created_founders, hnamed hnames, hled hleads,
    hcreated 0 _ _ _ _ rfl created_founders⟩

end RenameChain

end LakeCatalog
