import LakeCatalog.Proofs.Interleavings
import LakeCatalog.Proofs.NamespaceRefinement
import LakeCatalog.Proofs.SiteCalls
import Mathlib.Data.List.Induction

/-!
# A namespace that is dropped while others go on

Dropping a namespace takes two turns: its tables are listed, and when there are none its database
is deleted, with whatever is in it by then.  Other requests may have their turns between the two.

* `Interleaving.Registers` — the turn in which a program registers a table;
* `exists_registers` — a name that has come to a record was registered in some turn;
* `DropRun`, `dropRun` — how far a drop has come, and what its turns have changed;
* `dropNamespace_loses_only` — a drop that succeeds takes only such tables with it as were
  registered between its two turns;
* `dropNamespace_loses_table` — and these it does take.
-/

namespace LakeCatalog

open Metastore (Call Failure Memory)

/-! ### Registrations -/

namespace Interleaving

variable {ι α : Type} [DecidableEq ι] {x : Interleaving Backend ι α Site} {i : ι} {n : TableName}

/-- In its next turn the program asks to register a table under a name, and this succeeds. -/
def Registers (x : Interleaving Backend ι α Site) (i : ι) (n : TableName) : Prop :=
  ∃ r next s', x.programs i = .ask (.metastore (.createTable n.space.text r)) next ∧
    r.name = n.table ∧
    Handler.call Site.answer (.createTable n.space.text r) x.state = (.ok (), s')

/-- A turn after which a name has a record that had none is one that registers it. -/
theorem registers_of_step (hbefore : x.state.metastore.record? n = none)
    (hafter : (x.step Site.answer i).state.metastore.record? n ≠ none) : x.Registers i n := by
  cases hi : x.programs i with
  | done a =>
      rw [step_done hi] at hafter
      exact absurd hbefore hafter
  | exhausted =>
      rw [step_exhausted hi] at hafter
      exact absurd hbefore hafter
  | ask q next =>
      rw [step_ask hi] at hafter
      cases q with
      | put path data => exact absurd hbefore hafter
      | get path => exact absurd hbefore hafter
      | metastore c =>
          obtain ⟨r, m', rfl, hname, hcreate⟩ := Memory.registered_of_respond hbefore hafter
          refine ⟨r, next, { x.state with metastore := m' }, hi, hname, ?_⟩
          show ((x.state.metastore.changed _).1,
            ({ x.state with metastore := (x.state.metastore.changed _).2 } : Site)) = _
          rw [hcreate]
          rfl

/-- **A name that has come to a record** was registered in one of the turns. -/
theorem exists_registers {schedule : List ι} (hbefore : x.state.metastore.record? n = none)
    (hafter : (x.after Site.answer schedule).state.metastore.record? n ≠ none) :
    ∃ before i later, schedule = before ++ i :: later ∧
      (x.after Site.answer before).Registers i n := by
  induction schedule generalizing x with
  | nil => exact absurd hbefore hafter
  | cons i schedule ih =>
      cases hstep : (x.step Site.answer i).state.metastore.record? n with
      | some r =>
          have hheld : (x.step Site.answer i).state.metastore.record? n ≠ none := by
            rw [hstep]
            exact Option.some_ne_none r
          exact ⟨[], i, schedule, rfl, registers_of_step hbefore hheld⟩
      | none =>
          obtain ⟨before, j, later, rfl, hregisters⟩ := ih hstep hafter
          exact ⟨i :: before, j, later, rfl, hregisters⟩

end Interleaving

/-! ### The two questions of a drop -/

namespace Catalog

/-- What is left of a drop that has seen no table. -/
def deletion (n : NamespaceName) : Action Receipt := do
  let _ ← (Action.call (.deleteDatabase n.text)
    (namespaceFailure n.text "delete_database") : Action Unit)
  pure .done

/-- A drop begins by asking for a page of tables.  A failure, or a table on the page, ends it with
an error; when there are none it goes on to delete the database. -/
theorem dropNamespace_asks {c : Catalog} (hbudget : 0 < c.pageBudget) (n : NamespaceName) :
    ∃ next, ((Request.dropNamespace n).action c).run
        = Program.ask (I := Backend) (.metastore (.getTables n.text none)) next ∧
      (∀ f, ∃ e, next (.error f) = .done (.error e)) ∧
      (∀ r rest token, ∃ e, next (.ok ⟨r :: rest, token⟩) = .done (.error e)) ∧
      next (.ok ⟨[], none⟩) = (deletion n).run := by
  obtain ⟨next, hask, herror, hlisted, hlast⟩ := Site.firstTable_asks hbudget n
  have haction : (Request.dropNamespace n).action c = (do c.dropNamespace n; pure .done) := rfl
  rw [haction]
  unfold dropNamespace
  rw [hask]
  refine ⟨_, rfl, ?_, ?_, ?_⟩
  · intro f
    simp only [herror f]
    exact ⟨_, rfl⟩
  · intro r rest token
    simp only [hlisted r rest token]
    cases TableName.ofParts n.text r.name with
    | ok t => exact ⟨_, rfl⟩
    | error e => exact ⟨_, rfl⟩
  · simp only [hlast]
    rfl

end Catalog

/-! ### How far a drop has come -/

namespace Site

/-- The site without a namespace, and without the tables that were in it. -/
def without (s : Site) (n : NamespaceName) : Site :=
  { s with metastore := { s.metastore with databases := s.metastore.databases.erase n.text } }

/-- The namespace is there and holds no table. -/
def HasEmpty (s : Site) (n : NamespaceName) : Prop :=
  ∃ d, s.metastore.databases.get? n.text = some d ∧ d.tables.entries = []

theorem HasEmpty.record? {s : Site} {n : NamespaceName} (h : s.HasEmpty n) {t : TableName}
    (ht : t.space = n) : s.metastore.record? t = none := by
  obtain ⟨d, hd, hempty⟩ := h
  rw [← ht] at hd
  rw [Memory.record?_of_get? hd]
  unfold OrderedMap.get?
  rw [hempty]
  rfl

theorem call_deleteDatabase_some {s : Site} {n : NamespaceName} {d : Metastore.DatabaseState}
    (hd : s.metastore.databases.get? n.text = some d) :
    Handler.call answer (.deleteDatabase n.text) s = (.ok (), s.without n) := by
  show ((s.metastore.changed (s.metastore.deleteDatabase n.text)).1,
    ({ s with metastore := (s.metastore.changed (s.metastore.deleteDatabase n.text)).2 } : Site)) = _
  unfold Memory.deleteDatabase
  rw [Memory.database_of_get? hd]
  rfl

theorem call_deleteDatabase_none {s : Site} {n : NamespaceName}
    (hd : s.metastore.databases.get? n.text = none) :
    Handler.call answer (.deleteDatabase n.text) s
      = (.error (Memory.databaseNotFound n.text), s) := by
  show ((s.metastore.changed (s.metastore.deleteDatabase n.text)).1,
    ({ s with metastore := (s.metastore.changed (s.metastore.deleteDatabase n.text)).2 } : Site)) = _
  unfold Memory.deleteDatabase
  rw [Memory.database_of_get?_none hd]
  rfl

/-- No question changes the size of pages. -/
theorem pageSize_answer (q : BackendQuery) (s : Site) :
    (answer q s).2.metastore.pageSize = s.metastore.pageSize := by
  cases q with
  | metastore c => exact Memory.pageSize_respond s.metastore c
  | put path data => rfl
  | get path => rfl

end Site

section Drop

/-- Requests that take turns at a site. -/
abbrev Clients (ι : Type) : Type := Interleaving Backend ι (Except CatalogError Receipt) Site

variable {ι : Type} [DecidableEq ι] {x : Clients ι} {c : Catalog} {d : ι} {n : NamespaceName}
  {schedule : List ι}

/-- How a drop stands after a schedule, with what is left of it. -/
inductive DropRun (x : Clients ι) (c : Catalog) (d : ι) (n : NamespaceName) (schedule : List ι) :
    Program Backend (Except CatalogError Receipt) → Prop
  /-- It has had no turn. -/
  | asked (hturns : d ∉ schedule) :
      DropRun x c d n schedule ((Request.dropNamespace n).action c).run
  /-- In its one turn it has seen that the namespace is empty. -/
  | listed {before between : List ι} (hschedule : schedule = before ++ d :: between)
      (hbefore : d ∉ before) (hbetween : d ∉ between)
      (hempty : (x.after Site.answer before).state.HasEmpty n)
      (hharmless : x.Harmless Site.answer d schedule) :
      DropRun x c d n schedule (Catalog.deletion n).run
  /-- In its second turn it has deleted the database. -/
  | dropped {before between later : List ι}
      (hschedule : schedule = before ++ d :: between ++ d :: later)
      (hbefore : d ∉ before) (hbetween : d ∉ between)
      (hempty : (x.after Site.answer before).state.HasEmpty n)
      (hharmless : x.Harmless Site.answer d (before ++ d :: between))
      (hdeletes : ((x.after Site.answer (before ++ d :: between)).step Site.answer d).state
        = (x.after Site.answer (before ++ d :: between)).state.without n) :
      DropRun x c d n schedule (.done (.ok .done))
  /-- It has ended with an error, and no turn of it has changed anything. -/
  | refused {e : CatalogError} (hturns : d ∈ schedule)
      (hharmless : x.Harmless Site.answer d schedule) :
      DropRun x c d n schedule (.done (.error e))

/-- A turn in which a drop lists its namespace changes nothing. -/
theorem step_asked (hbudget : 0 < c.pageBudget) (hpages : 0 < x.state.metastore.pageSize)
    (hd : x.programs d = ((Request.dropNamespace n).action c).run) :
    (x.step Site.answer d).state = x.state ∧
      ((∃ e, (x.step Site.answer d).programs d = .done (.error e)) ∨
        x.state.HasEmpty n ∧ (x.step Site.answer d).programs d = (Catalog.deletion n).run) := by
  obtain ⟨next, hask, herror, hheld, hlast⟩ := Catalog.dropNamespace_asks hbudget n
  have hstep : x.step Site.answer d = ⟨x.state, Function.update x.programs d
      (next (x.state.metastore.getTables n.text none))⟩ := Interleaving.step_ask (hd.trans hask)
  rw [hstep]
  refine ⟨rfl, ?_⟩
  simp only [Function.update_self]
  cases hspace : x.state.metastore.databases.get? n.text with
  | none =>
      rw [Site.getTables_none hspace]
      exact Or.inl (herror _)
  | some database =>
      cases hentries : database.tables.entries with
      | nil =>
          have hvalues : database.tables.values = [] := List.map_eq_nil_iff.2 hentries
          rw [Site.getTables_some hspace, hvalues, Site.pageAt_nil]
          exact Or.inr ⟨⟨database, hspace, hentries⟩, hlast⟩
      | cons entry rest =>
          obtain ⟨rest', token, hpage⟩ := Site.getTables_held hpages hspace hentries
          rw [hpage]
          exact Or.inl (hheld _ _ _)

/-- A turn in which a drop deletes the database takes everything in it, or changes nothing. -/
theorem step_listed (hd : x.programs d = (Catalog.deletion n).run) :
    ((x.step Site.answer d).state = x.state.without n ∧
        (x.step Site.answer d).programs d = .done (.ok .done)) ∨
      (x.step Site.answer d).state = x.state ∧
        ∃ e, (x.step Site.answer d).programs d = .done (.error e) := by
  cases hspace : x.state.metastore.databases.get? n.text with
  | some database =>
      rw [Interleaving.step_call_ok hd (Site.call_deleteDatabase_some hspace)]
      exact Or.inl ⟨rfl, Function.update_self ..⟩
  | none =>
      rw [Interleaving.step_call_error hd (Site.call_deleteDatabase_none hspace)]
      exact Or.inr ⟨rfl, _, Function.update_self ..⟩

/-- Who has had no turn has had none after the turn of another. -/
theorem not_mem_concat {κ : Type} {i j : κ} {turns : List κ} (hj : j ∉ turns) (hi : i ≠ j) :
    j ∉ turns ++ [i] := by
  rw [List.mem_append, List.mem_singleton]
  rintro (hmem | rfl)
  · exact hj hmem
  · exact hi rfl

/-- The turn of another request leaves the drop where it is. -/
theorem DropRun.other {p : Program Backend (Except CatalogError Receipt)}
    (h : DropRun x c d n schedule p) {i : ι} (hi : i ≠ d) :
    DropRun x c d n (schedule ++ [i]) p := by
  cases h with
  | asked hturns => exact .asked (not_mem_concat hturns hi)
  | @listed before between hschedule hbefore hbetween hempty hharmless =>
      have hsame : schedule ++ [i] = before ++ d :: (between ++ [i]) := by
        rw [hschedule, List.append_assoc, List.cons_append]
      exact .listed hsame hbefore (not_mem_concat hbetween hi) hempty
        (hharmless.concat fun h => absurd h hi)
  | @dropped before between later hschedule hbefore hbetween hempty hharmless hdeletes =>
      have hsame : schedule ++ [i] = before ++ d :: between ++ d :: (later ++ [i]) := by
        rw [hschedule, List.append_assoc, List.cons_append]
      exact .dropped hsame hbefore hbetween hempty hharmless hdeletes
  | refused hturns hharmless =>
      exact .refused (List.mem_append_left _ hturns) (hharmless.concat fun h => absurd h hi)

/-- The drop's own turn takes it a step on. -/
theorem DropRun.own (hbudget : 0 < c.pageBudget)
    (hpages : 0 < (x.after Site.answer schedule).state.metastore.pageSize)
    (h : DropRun x c d n schedule ((x.after Site.answer schedule).programs d)) :
    DropRun x c d n (schedule ++ [d]) ((x.after Site.answer (schedule ++ [d])).programs d) := by
  rw [Interleaving.after_concat]
  generalize hp : (x.after Site.answer schedule).programs d = p at h
  cases h with
  | asked hturns =>
      obtain ⟨hstate, hways⟩ := step_asked hbudget hpages hp
      have hharmless : x.Harmless Site.answer d (schedule ++ [d]) :=
        (Interleaving.harmless_of_not_mem hturns).concat fun _ => hstate
      rcases hways with ⟨e, hended⟩ | ⟨hempty, hlisted⟩
      · rw [hended]
        exact .refused (List.mem_append_right _ List.mem_cons_self) hharmless
      · rw [hlisted]
        exact .listed rfl hturns List.not_mem_nil hempty hharmless
  | @listed before between hschedule hbefore hbetween hempty hharmless =>
      rcases step_listed hp with ⟨hstate, hended⟩ | ⟨hstate, e, hended⟩
      · rw [hended]
        subst hschedule
        have hsame : before ++ d :: between ++ [d] = before ++ d :: between ++ d :: [] := rfl
        exact .dropped hsame hbefore hbetween hempty hharmless hstate
      · rw [hended]
        exact .refused (List.mem_append_right _ List.mem_cons_self)
          (hharmless.concat fun _ => hstate)
  | @dropped before between later hschedule hbefore hbetween hempty hharmless hdeletes =>
      have hsame : schedule ++ [d] = before ++ d :: between ++ d :: (later ++ [d]) := by
        rw [hschedule, List.append_assoc, List.cons_append]
      rw [Interleaving.step_done hp, hp]
      exact .dropped hsame hbefore hbetween hempty hharmless hdeletes
  | refused hturns hharmless =>
      have hstay := Interleaving.step_done (h := Site.answer) hp
      rw [hstay, hp]
      refine .refused (List.mem_append_left _ hturns) (hharmless.concat fun _ => ?_)
      rw [hstay]

/-- **Every schedule** takes a drop along one of its ways. -/
theorem dropRun (hbudget : 0 < c.pageBudget) (hpages : 0 < x.state.metastore.pageSize)
    (hd : x.programs d = ((Request.dropNamespace n).action c).run) (schedule : List ι) :
    DropRun x c d n schedule ((x.after Site.answer schedule).programs d) := by
  have hsize : ∀ schedule : List ι,
      0 < (x.after Site.answer schedule).state.metastore.pageSize := by
    refine Interleaving.after_induction (fun y : Clients ι => 0 < y.state.metastore.pageSize) ?_
      hpages
    intro y i hy
    cases hi : y.programs i with
    | done a =>
        rw [Interleaving.step_done hi]
        exact hy
    | exhausted =>
        rw [Interleaving.step_exhausted hi]
        exact hy
    | ask q next =>
        rw [Interleaving.step_ask hi]
        show 0 < (Site.answer q y.state).2.metastore.pageSize
        rw [Site.pageSize_answer]
        exact hy
  -- The schedule grows at its end, where the last turn is.
  induction schedule using List.reverseRecOn with
  | nil =>
      rw [Interleaving.after_nil, hd]
      exact .asked List.not_mem_nil
  | append_singleton schedule i ih =>
      by_cases hi : i = d
      · subst hi
        exact ih.own hbudget (hsize schedule)
      · rw [Interleaving.after_concat, Interleaving.programs_step_of_ne (Ne.symm hi)]
        exact ih.other hi

/-- What a drop has taken with it whose two turns come after `before`, with `between` in the middle. -/
structure Dropped (x : Clients ι) (d : ι) (n : NamespaceName) (before between : List ι) : Prop where
  /-- The namespace was there and empty when it was listed. -/
  empty : (x.after Site.answer before).state.HasEmpty n
  /-- Nothing was changed until the database was deleted, with all tables in it. -/
  harmless : x.Harmless Site.answer d (before ++ d :: between)
  erased : ((x.after Site.answer (before ++ d :: between)).step Site.answer d).state
    = (x.after Site.answer (before ++ d :: between)).state.without n
  /-- Each of these tables was registered by another request between the two turns. -/
  registered : ∀ t : TableName, t.space = n →
    (x.after Site.answer (before ++ d :: between)).state.metastore.record? t ≠ none →
      ∃ early i late, between = early ++ i :: late ∧ i ≠ d ∧
        (x.after Site.answer (before ++ d :: early)).Registers i t

theorem dropped_of_turns {before between : List ι} (hbetween : d ∉ between)
    (hempty : (x.after Site.answer before).state.HasEmpty n)
    (hharmless : x.Harmless Site.answer d (before ++ d :: between))
    (hdeletes : ((x.after Site.answer (before ++ d :: between)).step Site.answer d).state
      = (x.after Site.answer (before ++ d :: between)).state.without n) :
    Dropped x d n before between where
  empty := hempty
  harmless := hharmless
  erased := hdeletes
  registered := by
    intro t ht hheld
    have hlisted : ((x.after Site.answer before).step Site.answer d).state.metastore.record? t
        = none := by
      rw [hharmless before between rfl]
      exact hempty.record? ht
    rw [Interleaving.after_append, Interleaving.after_cons] at hheld
    obtain ⟨early, i, late, rfl, hregisters⟩ := Interleaving.exists_registers hlisted hheld
    refine ⟨early, i, late, rfl, ?_, ?_⟩
    · rintro rfl
      exact hbetween (List.mem_append_right _ List.mem_cons_self)
    · rw [Interleaving.after_append, Interleaving.after_cons]
      exact hregisters

/-- **What a drop takes with it**, whatever else takes its turns.  A drop that succeeds has seen the
namespace empty, and only such tables go with the namespace as others have registered in it since
then; a drop that fails changes nothing; and after two turns it has done one or the other. -/
theorem dropNamespace_loses_only (hbudget : 0 < c.pageBudget)
    (hpages : 0 < x.state.metastore.pageSize)
    (hd : x.programs d = ((Request.dropNamespace n).action c).run) (schedule : List ι) :
    (∀ r, (x.after Site.answer schedule).programs d = .done (.ok r) →
      ∃ before between later, schedule = before ++ d :: between ++ d :: later ∧
        Dropped x d n before between) ∧
    (∀ e, (x.after Site.answer schedule).programs d = .done (.error e) →
      x.Harmless Site.answer d schedule) ∧
    (2 ≤ schedule.count d → ∃ r, (x.after Site.answer schedule).programs d = .done r) := by
  have hrun := dropRun hbudget hpages hd schedule
  generalize hp : (x.after Site.answer schedule).programs d = p at hrun
  cases hrun with
  | asked hturns =>
      obtain ⟨next, hask, -⟩ := Catalog.dropNamespace_asks hbudget n
      rw [hask]
      refine ⟨nofun, nofun, ?_⟩
      intro htwice
      rw [List.count_eq_zero_of_not_mem hturns] at htwice
      omega
  | @listed before between hschedule hbefore hbetween hempty hharmless =>
      refine ⟨nofun, nofun, ?_⟩
      intro htwice
      rw [hschedule, List.count_append, List.count_cons_self,
        List.count_eq_zero_of_not_mem hbefore, List.count_eq_zero_of_not_mem hbetween] at htwice
      omega
  | @dropped before between later hschedule hbefore hbetween hempty hharmless hdeletes =>
      refine ⟨?_, nofun, fun _ => ⟨_, rfl⟩⟩
      intro r _
      exact ⟨before, between, later, hschedule,
        dropped_of_turns hbetween hempty hharmless hdeletes⟩
  | refused hturns hharmless => exact ⟨nofun, fun _ _ => hharmless, fun _ => ⟨_, rfl⟩⟩

end Drop

/-! ### A registration that is lost -/

namespace DropRace

/-- A table, and the name that it is to have in another namespace. -/
def oldName : TableName := ⟨⟨"spare", by decide⟩, "moved", by decide⟩

def newName : TableName := ⟨⟨"db", isSegment_db⟩, "moved", by decide⟩

/-- A site with the table and both namespaces. -/
def site : Site where
  metastore := ((Memory.withPageSize 100).setDatabase "db" { record := .ofProperties "db" .empty })
    |>.setDatabase "spare"
      { record := .ofProperties "spare" .empty
        tables := OrderedMap.empty.insert "moved"
          ((TableRecord.ofMetadata "moved" "s3://bucket/m.json" .empty).copiedTo oldName) }
  objects := .empty

/-- One request drops the empty namespace, another moves the table there. -/
def clients : Clients (Fin 2) where
  state := site
  programs
    | 0 => ((Request.dropNamespace newName.space).action ⟨"lake", none, 1⟩).run
    | 1 => ((Request.renameTable oldName newName).action ⟨"lake", none, 1⟩).run

/-- **A registration that is lost**: the drop lists the namespace, the table is found and registered
in it, and the drop deletes it with the namespace and succeeds.  When the other request then drops
the source, the table is under neither name. -/
theorem dropNamespace_loses_table :
    (clients.after Site.answer [0, 1]).Registers 1 newName ∧
      (clients.after Site.answer [0, 1, 1]).state.metastore.record? newName ≠ none ∧
      (clients.after Site.answer [0, 1, 1, 0]).programs 0 = .done (.ok .done) ∧
      (clients.after Site.answer [0, 1, 1, 0]).state.metastore.record? newName = none ∧
      (clients.after Site.answer [0, 1, 1, 0, 1]).state.metastore.record? newName = none ∧
      (clients.after Site.answer [0, 1, 1, 0, 1]).state.metastore.record? oldName = none := by
  refine ⟨⟨_, _, _, rfl, rfl, rfl⟩, ?_, rfl, rfl, rfl, rfl⟩
  exact Option.some_ne_none _

theorem dropNamespace_loses_only_clients :
    0 < (⟨"lake", none, 1⟩ : Catalog).pageBudget ∧ 0 < clients.state.metastore.pageSize ∧
      clients.programs 0 = ((Request.dropNamespace newName.space).action ⟨"lake", none, 1⟩).run ∧
      ∃ before between later, [0, 1, 1, 0] = before ++ 0 :: between ++ 0 :: later ∧
        Dropped clients 0 newName.space before between := by
  have hbudget : 0 < (⟨"lake", none, 1⟩ : Catalog).pageBudget := by decide
  have hpages : 0 < clients.state.metastore.pageSize := by decide
  have hdrops : clients.programs 0
      = ((Request.dropNamespace newName.space).action ⟨"lake", none, 1⟩).run := rfl
  obtain ⟨hdropped, -, -⟩ := dropNamespace_loses_only hbudget hpages hdrops [0, 1, 1, 0]
  exact ⟨hbudget, hpages, hdrops, hdropped .done rfl⟩

end DropRace

end LakeCatalog
