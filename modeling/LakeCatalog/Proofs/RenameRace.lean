import LakeCatalog.Proofs.CreateFrame
import LakeCatalog.Proofs.Interleavings
import LakeCatalog.Proofs.RenameFaults
import LakeCatalog.Proofs.SiteCalls

/-!
# Renames that run side by side

Several calls to rename tables take turns at one site; some of them may want the same table.  Each
registers its own copy first and then drops the source, and only one drop can find the source
there.  So the drop is where one call wins, and every other call takes its copy back.

* `StoredTable` — a registered table with the metadata that its record leads to;
* `RenameCall`, `Phase` — a call, and how far it has come;
* `Rivals` — calls that may run side by side: each has a free name of its own to move to;
* `Standing`, `Standing.step` — what holds between any two turns, and that every turn keeps it;
* `Rivals.elect_one` — of the calls for one table exactly one moves it.
-/

namespace LakeCatalog

open Metastore (Call Failure Memory)

/-! ### Tables that can be loaded -/

/-- A registered table that can be loaded: its record, where this says that the metadata file is,
and what the file holds. -/
structure StoredTable where
  record : TableRecord
  location : String
  path : String
  content : ByteArray
  metadata : Metadata

/-- The table is what a site has under a name. -/
structure StoredTable.IsAt (d : StoredTable) (s : Site) (n : TableName) : Prop where
  record : s.metastore.record? n = some d.record
  location : d.record.metadataLocation n = .ok d.location
  path : Objects.pathOf d.location = .ok d.path
  content : s.objects.get? d.path = some d.content
  metadata : Metadata.read? d.content = some d.metadata

/-! ### Calls and how far they have come -/

/-- A call to rename a table. -/
structure RenameCall where
  catalog : Catalog
  source : TableName
  target : TableName

namespace RenameCall

variable (x : RenameCall)

/-- What the call does. -/
def program : Program Backend (Except CatalogError Table) :=
  (x.catalog.renameTable x.source x.target).run

/-- The error of a call that does not find its source. -/
def missing : CatalogError := .noSuchTable x.source.space.text x.source.table

/-- The error of a call that took its copy back because its source was gone. -/
def overtaken : CatalogError := .renameFailed x.source.toText x.target.toText x.missing

/-- What is left to do once the copy is registered. -/
def dropSource : Action Table :=
  (Catalog.dropTable x.source).attempt fun
    | .ok () => x.catalog.loadTable x.target
    | .error cause => Catalog.rollBackRename x.source x.target cause

/-- What is left to do once the source is found. -/
def register (r : TableRecord) : Action Table := do
  Catalog.createTableRecord x.target (r.renamed x.target.table)
  x.dropSource

/-- What is left to do once the moved table is found. -/
def readBack (location : String) : Action Table := do
  let metadata ← Objects.readMetadata location
  pure ⟨x.target, metadata, location, x.catalog⟩

theorem program_eq : x.program
    = (Action.call (.getTable x.source.space.text x.source.table)
        (Catalog.tableFailure x.source "get_table") >>= fun record =>
      Action.ofExcept (record.metadataLocation x.source) >>= fun _ => x.register record).run := rfl

theorem readBack_eq {location path : String} (hpath : Objects.pathOf location = .ok path) :
    ∃ next, (x.readBack location).run = Program.ask (I := Backend) (.get path) next ∧
      ∀ data m, Metadata.read? data = some m →
        next (.ok data) = .done (.ok ⟨x.target, m, location, x.catalog⟩) := by
  unfold readBack Objects.readMetadata Objects.read
  rw [hpath]
  refine ⟨_, rfl, ?_⟩
  intro data m hread
  dsimp only [Program.bind, Except.mapError, id, ExceptT.bindCont]
  rw [hread]
  rfl

end RenameCall

/-- How far a call has come, with the table that it found. -/
inductive Phase where
  /-- It has asked for nothing yet. -/
  | asked
  /-- It has found its source. -/
  | found (d : StoredTable)
  /-- Its copy is registered. -/
  | copied (d : StoredTable)
  /-- It has dropped its source. -/
  | dropped (d : StoredTable)
  /-- It has found the record of the moved table. -/
  | located (d : StoredTable)
  /-- It has returned the moved table. -/
  | moved (d : StoredTable)
  /-- Its source was gone when it wanted to drop it. -/
  | beaten (d : StoredTable)
  /-- It has returned that it took its copy back. -/
  | rolledBack (d : StoredTable)
  /-- It has returned that there is no source. -/
  | missed

namespace Phase

/-- What is left of a call in a phase. -/
def program (x : RenameCall) : Phase → Program Backend (Except CatalogError Table)
  | asked => x.program
  | found d => (x.register d.record).run
  | copied _ => x.dropSource.run
  | dropped _ => (x.catalog.loadTable x.target).run
  | located d => (x.readBack d.location).run
  | moved d => .done (.ok ⟨x.target, d.metadata, d.location, x.catalog⟩)
  | beaten _ => (Catalog.rollBackRename x.source x.target x.missing).run
  | rolledBack _ => .done (.error x.overtaken)
  | missed => .done (.error x.missing)

/-- The table that the call has found. -/
def table? : Phase → Option StoredTable
  | asked | missed => none
  | found d | copied d | dropped d | located d | moved d | beaten d | rolledBack d => some d

/-- The table of which the call has a copy registered. -/
def copy? : Phase → Option StoredTable
  | asked | found _ | rolledBack _ | missed => none
  | copied d | dropped d | located d | moved d | beaten d => some d

/-- The call has moved its source. -/
def Won : Phase → Prop
  | dropped _ | located _ | moved _ => True
  | _ => False

/-- The call has seen that there is no source any more. -/
def Lost : Phase → Prop
  | beaten _ | rolledBack _ | missed => True
  | _ => False

/-- The most turns that are left of a call. -/
def left : Phase → Nat
  | asked => 5
  | found _ => 4
  | copied _ => 3
  | dropped _ => 2
  | located _ | beaten _ => 1
  | moved _ | rolledBack _ | missed => 0

/-- A call that has no turns left has returned. -/
theorem exists_done {p : Phase} (h : p.left = 0) (x : RenameCall) :
    ∃ r, p.program x = .done r := by
  cases p with
  | asked => cases h
  | found d => cases h
  | copied d => cases h
  | dropped d => cases h
  | located d => cases h
  | beaten d => cases h
  | moved d => exact ⟨_, rfl⟩
  | rolledBack d => exact ⟨_, rfl⟩
  | missed => exact ⟨_, rfl⟩

end Phase

/-! ### What holds between turns -/

variable {ι : Type}

/-- Calls that may run side by side at a site: each has a name of its own to move to, which is
free and good and in a namespace that is there, and each table that is to be moved can be loaded. -/
structure Rivals (calls : ι → RenameCall) (s : Site) : Prop where
  apart : ∀ i j, (calls i).target = (calls j).target → i = j
  free : ∀ i, s.metastore.record? (calls i).target = none
  foreign : ∀ i j, (calls i).target ≠ (calls j).source
  space : ∀ i, s.metastore.databases.contains (calls i).target.space.text = true
  shortSource : ∀ i, Registry.Short (calls i).source.table
  shortTarget : ∀ i, Registry.Short (calls i).target.table
  stored : ∀ i r, s.metastore.record? (calls i).source = some r →
    ∃ d : StoredTable, d.record = r ∧ d.IsAt s (calls i).source

/-- **What holds between any two turns** of calls that began at a site. -/
structure Standing (calls : ι → RenameCall) (s₀ : Site) (phase : ι → Phase)
    (x : Interleaving Backend ι (Except CatalogError Table) Site) : Prop where
  programs : ∀ i, x.programs i = (phase i).program (calls i)
  objects : x.state.objects = s₀.objects
  space : ∀ i, x.state.metastore.databases.contains (calls i).target.space.text = true
  tables : ∀ i d, (phase i).table? = some d → d.IsAt s₀ (calls i).source
  copies : ∀ i, x.state.metastore.record? (calls i).target
    = (phase i).copy?.map fun d => d.record.copiedTo (calls i).target
  /- What is the target of no call and the source of no call that has won is as it was. -/
  kept : ∀ n, (∀ i, (calls i).target ≠ n) → (∀ i, (phase i).Won → (calls i).source ≠ n) →
    x.state.metastore.record? n = s₀.metastore.record? n
  gone : ∀ i, (phase i).Won ∨ (phase i).Lost → x.state.metastore.record? (calls i).source = none
  winner : ∀ i j, (phase i).Won → (phase j).Won → (calls i).source = (calls j).source → i = j

variable {calls : ι → RenameCall} {s₀ s' : Site} {phase : ι → Phase} {i : ι} {p q : Phase}
  {x : Interleaving Backend ι (Except CatalogError Table) Site}

theorem Rivals.start (hr : Rivals calls s₀) :
    Standing calls s₀ (fun _ => .asked) ⟨s₀, fun i => (calls i).program⟩ where
  programs := by
    intro i
    show (calls i).program = _
    unfold Phase.program
    rfl
  objects := rfl
  space := hr.space
  tables := by
    intro i d hd
    cases hd
  copies := hr.free
  kept := fun _ _ _ => rfl
  gone := by
    intro i h
    rcases h with hwon | hlost
    · cases hwon
    · cases hlost
  winner := by
    intro i j hwon
    cases hwon

namespace Standing

theorem target_ne (hr : Rivals calls s₀) {i j : ι} (hne : j ≠ i) :
    (calls j).target ≠ (calls i).target :=
  fun h => hne (hr.apart j i h)

/-- A source that is still registered is the table that was there at the start. -/
theorem exists_table (hr : Rivals calls s₀) (hx : Standing calls s₀ phase x) {r : TableRecord}
    (h : x.state.metastore.record? (calls i).source = some r) :
    ∃ d : StoredTable, d.record = r ∧ d.IsAt s₀ (calls i).source := by
  have hnobody : ∀ j, (phase j).Won → (calls j).source ≠ (calls i).source := by
    intro j hwon hsame
    have hgone := hx.gone j (Or.inl hwon)
    rw [hsame, h] at hgone
    cases hgone
  have hkept := hx.kept _ (fun j => hr.foreign j i) hnobody
  rw [h] at hkept
  exact hr.stored i r hkept.symm

variable [DecidableEq ι]

/-- A program and a phase that change together. -/
theorem programs_update (hx : Standing calls s₀ phase x) (i : ι) (p : Phase) (j : ι) :
    Function.update x.programs i (p.program (calls i)) j
      = (Function.update phase i p j).program (calls j) := by
  by_cases hj : j = i
  · subst hj
    rw [Function.update_self, Function.update_self]
  · rw [Function.update_of_ne hj, Function.update_of_ne hj]
    exact hx.programs j

/-- A turn that changes nothing but the record of the call's own target. -/
theorem keep (hr : Rivals calls s₀) (hx : Standing calls s₀ phase x) (hphase : phase i = q)
    (htable : ∀ d, p.table? = some d → d.IsAt s₀ (calls i).source)
    (hobjects : s'.objects = x.state.objects)
    (hspace : ∀ name, x.state.metastore.databases.contains name = true →
      s'.metastore.databases.contains name = true)
    (hcopy : s'.metastore.record? (calls i).target
      = p.copy?.map fun d => d.record.copiedTo (calls i).target)
    (hrest : ∀ n, n ≠ (calls i).target → s'.metastore.record? n = x.state.metastore.record? n)
    (hwon : p.Won ↔ q.Won)
    (hlost : p.Lost → x.state.metastore.record? (calls i).source = none) :
    Standing calls s₀ (Function.update phase i p)
      ⟨s', Function.update x.programs i (p.program (calls i))⟩ := by
  have hwinners : ∀ j, (Function.update phase i p j).Won ↔ (phase j).Won := by
    intro j
    by_cases hj : j = i
    · subst hj
      rw [Function.update_self, hphase]
      exact hwon
    · rw [Function.update_of_ne hj]
  have hsource : ∀ j, s'.metastore.record? (calls j).source
      = x.state.metastore.record? (calls j).source :=
    fun j => hrest _ (Ne.symm (hr.foreign i j))
  refine ⟨hx.programs_update i p, hobjects.trans hx.objects, fun j => hspace _ (hx.space j),
    ?_, ?_, ?_, ?_, ?_⟩
  · intro j d hd
    by_cases hj : j = i
    · subst hj
      rw [Function.update_self] at hd
      exact htable d hd
    · rw [Function.update_of_ne hj] at hd
      exact hx.tables j d hd
  · intro j
    by_cases hj : j = i
    · subst hj
      rw [Function.update_self]
      exact hcopy
    · rw [Function.update_of_ne hj, hrest _ (target_ne hr hj)]
      exact hx.copies j
  · intro n htarget hnobody
    rw [hrest n (Ne.symm (htarget i))]
    exact hx.kept n htarget fun j hj => hnobody j ((hwinners j).2 hj)
  · intro j hj
    rw [hsource j]
    rcases hj with hj | hj
    · exact hx.gone j (Or.inl ((hwinners j).1 hj))
    · by_cases hji : j = i
      · subst hji
        rw [Function.update_self] at hj
        exact hlost hj
      · rw [Function.update_of_ne hji] at hj
        exact hx.gone j (Or.inr hj)
  · intro j k hj hk
    exact hx.winner j k ((hwinners j).1 hj) ((hwinners k).1 hk)

/-- A turn that only tells a call something. -/
theorem learn (hr : Rivals calls s₀) (hx : Standing calls s₀ phase x) (hphase : phase i = q)
    (htable : ∀ d, p.table? = some d → d.IsAt s₀ (calls i).source)
    (hcopy : p.copy? = q.copy?) (hwon : p.Won ↔ q.Won)
    (hlost : p.Lost → x.state.metastore.record? (calls i).source = none) :
    Standing calls s₀ (Function.update phase i p)
      ⟨x.state, Function.update x.programs i (p.program (calls i))⟩ := by
  refine hx.keep hr hphase htable rfl (fun _ h => h) ?_ (fun _ _ => rfl) hwon hlost
  rw [hcopy, ← hphase]
  exact hx.copies i

/-- **The turn that wins**: the source is dropped. -/
theorem win (hr : Rivals calls s₀) (hx : Standing calls s₀ phase x) {d : StoredTable}
    {m' : Memory} (hphase : phase i = .copied d)
    (hloses : x.state.metastore.Loses m' (calls i).source) {r : TableRecord}
    (hheld : x.state.metastore.record? (calls i).source = some r) :
    Standing calls s₀ (Function.update phase i (.dropped d))
      ⟨⟨m', x.state.objects⟩, Function.update x.programs i
        ((Phase.dropped d).program (calls i))⟩ := by
  have hself : Function.update phase i (.dropped d) i = .dropped d := Function.update_self ..
  have hother : ∀ {j}, j ≠ i → Function.update phase i (.dropped d) j = phase j :=
    fun hj => Function.update_of_ne hj _ _
  -- Nobody has won this source before, since it was still there.
  have hfirst : ∀ j, (phase j).Won → (calls j).source ≠ (calls i).source := by
    intro j hwon hsame
    have hgone := hx.gone j (Or.inl hwon)
    rw [hsame, hheld] at hgone
    cases hgone
  refine ⟨hx.programs_update i _, hx.objects, fun j => ?_, ?_, ?_, ?_, ?_, ?_⟩
  · exact hloses.contains (hx.space j)
  · intro j e he
    by_cases hj : j = i
    · subst hj
      rw [hself] at he
      refine hx.tables j e ?_
      rw [hphase]
      exact he
    · rw [hother hj] at he
      exact hx.tables j e he
  · intro j
    rw [hloses.record?_of_ne (hr.foreign j i), hx.copies j]
    by_cases hj : j = i
    · subst hj
      rw [hself, hphase]
      rfl
    · rw [hother hj]
  · intro n htarget hnobody
    have hne : n ≠ (calls i).source := by
      refine Ne.symm (hnobody i ?_)
      rw [hself]
      exact trivial
    rw [hloses.record?_of_ne hne]
    refine hx.kept n htarget ?_
    intro j hj
    by_cases hji : j = i
    · rw [hji]
      exact Ne.symm hne
    · refine hnobody j ?_
      rw [hother hji]
      exact hj
  · intro j hj
    by_cases hsame : (calls j).source = (calls i).source
    · rw [hsame]
      exact hloses.record?_self
    · rw [hloses.record?_of_ne hsame]
      have hji : j ≠ i := by
        rintro rfl
        exact hsame rfl
      rw [hother hji] at hj
      exact hx.gone j hj
  · intro j k hj hk hsame
    by_cases hji : j = i
    · subst hji
      by_cases hkj : k = j
      · exact hkj.symm
      · rw [hother hkj] at hk
        exact absurd hsame.symm (hfirst k hk)
    · rw [hother hji] at hj
      by_cases hki : k = i
      · subst hki
        exact absurd hsame (hfirst j hj)
      · rw [hother hki] at hk
        exact hx.winner j k hj hk hsame

/-! ### One turn -/

theorem step_asked (hr : Rivals calls s₀) (hx : Standing calls s₀ phase x)
    (hphase : phase i = .asked) :
    ∃ p, Standing calls s₀ (Function.update phase i p) (x.step Site.answer i) ∧ p.left ≤ 4 := by
  have hi := hx.programs i
  rw [hphase] at hi
  cases hrecord : x.state.metastore.record? (calls i).source with
  | none =>
      obtain ⟨f, hget, hf⟩ := Site.call_getTable_none hrecord (hr.shortSource i)
      refine ⟨.missed, ?_, Nat.zero_le 4⟩
      rw [Interleaving.step_call_error (hi.trans (calls i).program_eq) hget, hf]
      refine hx.learn hr hphase ?_ rfl Iff.rfl fun _ => hrecord
      intro d hd
      cases hd
  | some r =>
      obtain ⟨d, rfl, hd⟩ := hx.exists_table hr hrecord
      refine ⟨.found d, ?_, Nat.le_refl 4⟩
      rw [Interleaving.step_call_ok (hi.trans (calls i).program_eq)
        (Site.call_getTable_some hrecord (hr.shortSource i)), hd.location]
      refine hx.learn hr hphase ?_ rfl Iff.rfl nofun
      intro e he
      cases he
      exact hd

theorem step_found (hr : Rivals calls s₀) (hx : Standing calls s₀ phase x) {d : StoredTable}
    (hphase : phase i = .found d) :
    Standing calls s₀ (Function.update phase i (.copied d)) (x.step Site.answer i) := by
  have hi := hx.programs i
  have hfree := hx.copies i
  have htable := hx.tables i
  rw [hphase] at hi hfree htable
  obtain ⟨m', hcreate, hgains⟩ := Site.call_createTable_free (hx.space i) hfree
    (r := d.record.renamed (calls i).target.table) rfl (hr.shortTarget i)
  rw [Interleaving.step_call_ok hi hcreate]
  exact hx.keep hr hphase htable rfl (fun _ h => hgains.contains h) hgains.record?_self
    (fun n hn => hgains.record?_of_ne hn) Iff.rfl nofun

theorem step_copied (hr : Rivals calls s₀) (hx : Standing calls s₀ phase x) {d : StoredTable}
    (hphase : phase i = .copied d) :
    ∃ p, Standing calls s₀ (Function.update phase i p) (x.step Site.answer i) ∧ p.left ≤ 2 := by
  have hi := hx.programs i
  have htable := hx.tables i
  rw [hphase] at hi htable
  cases hrecord : x.state.metastore.record? (calls i).source with
  | none =>
      obtain ⟨f, hdrop, hf⟩ := Site.call_deleteTable_none hrecord
      refine ⟨.beaten d, ?_, Nat.le_succ 1⟩
      rw [Interleaving.step_attempt_error hi hdrop, hf]
      exact hx.learn hr hphase htable rfl Iff.rfl fun _ => hrecord
  | some r =>
      obtain ⟨m', hdrop, hloses⟩ := Site.call_deleteTable_some hrecord
      refine ⟨.dropped d, ?_, Nat.le_refl 2⟩
      rw [Interleaving.step_attempt_ok hi hdrop]
      exact hx.win hr hphase hloses hrecord

theorem step_dropped (hr : Rivals calls s₀) (hx : Standing calls s₀ phase x) {d : StoredTable}
    (hphase : phase i = .dropped d) :
    Standing calls s₀ (Function.update phase i (.located d)) (x.step Site.answer i) := by
  have hi := hx.programs i
  have hcopy := hx.copies i
  have htable := hx.tables i
  rw [hphase] at hi hcopy htable
  have hlocation : (d.record.copiedTo (calls i).target).metadataLocation (calls i).target
      = .ok d.location := Catalog.metadataLocation_congr (htable d rfl).location rfl
  rw [Interleaving.step_call_ok hi (Site.call_getTable_some hcopy (hr.shortTarget i)), hlocation]
  exact hx.learn hr hphase htable rfl Iff.rfl nofun

theorem step_located (hr : Rivals calls s₀) (hx : Standing calls s₀ phase x) {d : StoredTable}
    (hphase : phase i = .located d) :
    Standing calls s₀ (Function.update phase i (.moved d)) (x.step Site.answer i) := by
  have hi := hx.programs i
  have htable := hx.tables i
  rw [hphase] at hi htable
  have hd := htable d rfl
  have hget : Site.answer (.get d.path) x.state = (.ok d.content, x.state) := by
    show (x.state.fetch d.path, x.state) = _
    unfold Site.fetch
    rw [hx.objects, hd.content]
  obtain ⟨next, hask, hnext⟩ := (calls i).readBack_eq hd.path
  rw [Interleaving.step_ask (hi.trans hask), hget, hnext _ _ hd.metadata]
  exact hx.learn hr hphase htable rfl Iff.rfl nofun

theorem step_beaten (hr : Rivals calls s₀) (hx : Standing calls s₀ phase x) {d : StoredTable}
    (hphase : phase i = .beaten d) :
    Standing calls s₀ (Function.update phase i (.rolledBack d)) (x.step Site.answer i) := by
  have hi := hx.programs i
  have hcopy := hx.copies i
  have htable := hx.tables i
  rw [hphase] at hi hcopy htable
  obtain ⟨m', hdrop, hloses⟩ := Site.call_deleteTable_some hcopy
  rw [Interleaving.step_attempt_ok hi hdrop]
  refine hx.keep hr hphase htable rfl (fun _ h => hloses.contains h) hloses.record?_self
    (fun n hn => hloses.record?_of_ne hn) Iff.rfl fun _ => hx.gone i (Or.inr ?_)
  rw [hphase]
  exact trivial

/-- A call that has returned does nothing in its turns. -/
theorem step_returned (hx : Standing calls s₀ phase x) (hleft : (phase i).left = 0) :
    Standing calls s₀ (Function.update phase i (phase i)) (x.step Site.answer i) := by
  obtain ⟨r, hreturned⟩ := Phase.exists_done hleft (calls i)
  rw [Interleaving.step_done ((hx.programs i).trans hreturned), Function.update_eq_self]
  exact hx

/-- **Every turn** keeps what holds, and takes the call a step on. -/
theorem step (hr : Rivals calls s₀) (hx : Standing calls s₀ phase x) (i : ι) :
    ∃ p, Standing calls s₀ (Function.update phase i p) (x.step Site.answer i) ∧
      p.left ≤ (phase i).left - 1 := by
  by_cases hleft : (phase i).left = 0
  · exact ⟨_, hx.step_returned hleft, Nat.le_of_eq (by rw [hleft])⟩
  · cases hphase : phase i with
    | asked => exact hx.step_asked hr hphase
    | found d => exact ⟨_, hx.step_found hr hphase, Nat.le_refl 3⟩
    | copied d => exact hx.step_copied hr hphase
    | dropped d => exact ⟨_, hx.step_dropped hr hphase, Nat.le_refl 1⟩
    | located d => exact ⟨_, hx.step_located hr hphase, Nat.le_refl 0⟩
    | beaten d => exact ⟨_, hx.step_beaten hr hphase, Nat.le_refl 0⟩
    | moved d =>
        rw [hphase] at hleft
        exact absurd rfl hleft
    | rolledBack d =>
        rw [hphase] at hleft
        exact absurd rfl hleft
    | missed =>
        rw [hphase] at hleft
        exact absurd rfl hleft

/-- **Every schedule** keeps what holds, and takes each call as many steps on as it has turns. -/
theorem after (hr : Rivals calls s₀) (hx : Standing calls s₀ phase x) (schedule : List ι) :
    ∃ phase', Standing calls s₀ phase' (x.after Site.answer schedule) ∧
      ∀ i, (phase' i).left ≤ (phase i).left - schedule.count i :=
  Interleaving.exists_after (Standing calls s₀) (fun _ => Phase.left) (fun hy i => hy.step hr i) hx
    schedule

end Standing

/-! ### What comes of it -/

namespace Standing

/-- A source that is gone was taken by a call that won it. -/
theorem exists_winner (hr : Rivals calls s₀) (hx : Standing calls s₀ phase x) {r : TableRecord}
    (hthen : s₀.metastore.record? (calls i).source = some r)
    (hnow : x.state.metastore.record? (calls i).source = none) :
    ∃ w, (phase w).Won ∧ (calls w).source = (calls i).source := by
  by_contra hnobody
  have hkept := hx.kept _ (fun j => hr.foreign j i)
    fun j hwon hsame => hnobody ⟨j, hwon, hsame⟩
  rw [hnow, hthen] at hkept
  cases hkept

/-- What a call that has won found, and the copy that is registered. -/
theorem copy_of_won (hx : Standing calls s₀ phase x) (hwon : (phase i).Won) :
    ∃ d : StoredTable, d.IsAt s₀ (calls i).source ∧ (phase i).table? = some d ∧
      x.state.metastore.record? (calls i).target = some (d.record.copiedTo (calls i).target) := by
  have hcopy := hx.copies i
  have htable := hx.tables i
  cases hphase : phase i with
  | dropped d =>
      rw [hphase] at hcopy htable
      exact ⟨d, htable d rfl, rfl, hcopy⟩
  | located d =>
      rw [hphase] at hcopy htable
      exact ⟨d, htable d rfl, rfl, hcopy⟩
  | moved d =>
      rw [hphase] at hcopy htable
      exact ⟨d, htable d rfl, rfl, hcopy⟩
  | asked | found d | copied d | beaten d | rolledBack d | missed =>
      rw [hphase] at hwon
      cases hwon

/-- The location of each table that is to be moved is registered at any time. -/
theorem registers (hr : Rivals calls s₀) (hx : Standing calls s₀ phase x) {location : String}
    (h : s₀.metastore.Registers (calls i).source location) :
    x.state.metastore.Registers (calls i).source location ∨
      ∃ j, (calls j).source = (calls i).source ∧
        x.state.metastore.Registers (calls j).target location := by
  obtain ⟨r, hthen, hlocation⟩ := h
  cases hnow : x.state.metastore.record? (calls i).source with
  | some r' =>
      obtain ⟨d, rfl, hd⟩ := hx.exists_table hr hnow
      rw [hd.record, Option.some.injEq] at hthen
      rw [← hthen] at hlocation
      exact Or.inl ⟨_, hnow, hlocation⟩
  | none =>
      obtain ⟨w, hwon, hsame⟩ := hx.exists_winner hr hthen hnow
      obtain ⟨d, hd, -, hcopy⟩ := hx.copy_of_won hwon
      rw [hsame] at hd
      rw [hd.record, Option.some.injEq] at hthen
      rw [← hthen] at hlocation
      exact Or.inr ⟨w, hsame, _, hcopy, Catalog.metadataLocation_congr hlocation rfl⟩

/-- The phases in which a call has returned, with what it has returned. -/
theorem phase_of_done (hx : Standing calls s₀ phase x) {r : Except CatalogError Table}
    (h : x.programs i = .done r) :
    (∃ d, phase i = .moved d ∧
        r = .ok ⟨(calls i).target, d.metadata, d.location, (calls i).catalog⟩) ∨
      (∃ d, phase i = .rolledBack d ∧ r = .error (calls i).overtaken) ∨
        phase i = .missed ∧ r = .error (calls i).missing := by
  have htable := hx.tables i
  rw [hx.programs i] at h
  cases hphase : phase i with
  | asked =>
      rw [hphase] at h
      cases h
  | found d =>
      rw [hphase] at h
      cases h
  | copied d =>
      rw [hphase] at h
      cases h
  | dropped d =>
      rw [hphase] at h
      cases h
  | located d =>
      rw [hphase] at h htable
      obtain ⟨next, hask, -⟩ := (calls i).readBack_eq (htable d rfl).path
      cases hask.symm.trans h
  | beaten d =>
      rw [hphase] at h
      cases h
  | moved d =>
      rw [hphase] at h
      cases h
      exact Or.inl ⟨d, rfl, rfl⟩
  | rolledBack d =>
      rw [hphase] at h
      cases h
      exact Or.inr (Or.inl ⟨d, rfl, rfl⟩)
  | missed =>
      rw [hphase] at h
      cases h
      exact Or.inr (Or.inr ⟨rfl, rfl⟩)

end Standing

/-- What is left of a race when all calls have returned. -/
structure Elected (calls : ι → RenameCall) (s₀ s : Site)
    (outcome : ι → Except CatalogError Table) : Prop where
  /-- A table that was there is gone from its name.  One of the calls for it has returned it with
  its own metadata and has registered its record as it was; all others have nothing registered and
  returned that the table is not there, or that they took their copy back because of that. -/
  moved : ∀ i r, s₀.metastore.record? (calls i).source = some r →
    s.metastore.record? (calls i).source = none ∧
      ∃ (d : StoredTable) (w : ι), d.IsAt s₀ (calls i).source ∧
        (calls w).source = (calls i).source ∧
        outcome w = .ok ⟨(calls w).target, d.metadata, d.location, (calls w).catalog⟩ ∧
        s.metastore.record? (calls w).target = some (r.copiedTo (calls w).target) ∧
        ∀ j, (calls j).source = (calls i).source → j ≠ w →
          s.metastore.record? (calls j).target = none ∧
            (outcome j = .error (calls j).missing ∨ outcome j = .error (calls j).overtaken)
  /-- A call for a table that was not there has returned this and has nothing registered. -/
  missed : ∀ i, s₀.metastore.record? (calls i).source = none →
    outcome i = .error (calls i).missing ∧ s.metastore.record? (calls i).source = none ∧
      s.metastore.record? (calls i).target = none
  /-- No other record is touched, and no object. -/
  rest : ∀ n, (∀ i, n ≠ (calls i).source ∧ n ≠ (calls i).target) →
    s.metastore.record? n = s₀.metastore.record? n
  objects : s.objects = s₀.objects

theorem Standing.elected (hr : Rivals calls s₀) (hx : Standing calls s₀ phase x)
    {outcome : ι → Except CatalogError Table} (hdone : ∀ i, x.programs i = .done (outcome i)) :
    Elected calls s₀ x.state outcome where
  moved := by
    intro i r hthen
    have hnow : x.state.metastore.record? (calls i).source = none := by
      refine hx.gone i ?_
      rcases hx.phase_of_done (hdone i) with ⟨d, hphase, -⟩ | ⟨d, hphase, -⟩ | ⟨hphase, -⟩
      · rw [hphase]
        exact Or.inl trivial
      · rw [hphase]
        exact Or.inr trivial
      · rw [hphase]
        exact Or.inr trivial
    obtain ⟨w, hwon, hsame⟩ := hx.exists_winner hr hthen hnow
    obtain ⟨d, hd, htable, hcopy⟩ := hx.copy_of_won hwon
    rw [hsame] at hd
    have hrecord := hd.record.symm.trans hthen
    rw [Option.some.injEq] at hrecord
    rw [hrecord] at hcopy
    refine ⟨hnow, d, w, hd, hsame, ?_, hcopy, ?_⟩
    · rcases hx.phase_of_done (hdone w) with ⟨e, hphase, hw⟩ | ⟨e, hphase, -⟩ | ⟨hphase, -⟩
      · rw [hphase] at htable
        cases htable
        exact hw
      · rw [hphase] at hwon
        cases hwon
      · rw [hphase] at hwon
        cases hwon
    · intro j hj hne
      have hcopies := hx.copies j
      rcases hx.phase_of_done (hdone j) with ⟨e, hphase, -⟩ | ⟨e, hphase, hout⟩ | ⟨hphase, hout⟩
      · have hwon' : (phase j).Won := by
          rw [hphase]
          exact trivial
        exact absurd (hx.winner j w hwon' hwon (hj.trans hsame.symm)) hne
      · rw [hphase] at hcopies
        exact ⟨hcopies, Or.inr hout⟩
      · rw [hphase] at hcopies
        exact ⟨hcopies, Or.inl hout⟩
  missed := by
    intro i hthen
    have hcopies := hx.copies i
    have htable := hx.tables i
    rcases hx.phase_of_done (hdone i) with ⟨d, hphase, -⟩ | ⟨d, hphase, -⟩ | ⟨hphase, hout⟩
    · rw [hphase] at htable
      cases (htable d rfl).record.symm.trans hthen
    · rw [hphase] at htable
      cases (htable d rfl).record.symm.trans hthen
    · have hgone := hx.gone i
      rw [hphase] at hcopies hgone
      exact ⟨hout, hgone (Or.inr trivial), hcopies⟩
  rest := by
    intro n hn
    exact hx.kept n (fun i => Ne.symm (hn i).2) fun i _ => Ne.symm (hn i).1
  objects := hx.objects

variable [DecidableEq ι]

/-- Calls that begin at a site, after a schedule of turns. -/
def RenameCall.race (calls : ι → RenameCall) (s₀ : Site) (schedule : List ι) :
    Interleaving Backend ι (Except CatalogError Table) Site :=
  Interleaving.after Site.answer ⟨s₀, fun i => (calls i).program⟩ schedule

/-- **Of the renames of one table exactly one moves it**, whatever the schedule.  At any time each
table that is to be moved is registered under its own name or one of those it is to be moved to;
when all calls have returned, exactly one of them has moved it; and a call has returned after five
turns at the latest. -/
theorem Rivals.elect_one (hr : Rivals calls s₀) (schedule : List ι) :
    (∀ i location, s₀.metastore.Registers (calls i).source location →
      (RenameCall.race calls s₀ schedule).state.metastore.Registers (calls i).source location ∨
        ∃ j, (calls j).source = (calls i).source ∧
          (RenameCall.race calls s₀ schedule).state.metastore.Registers (calls j).target
            location) ∧
    (∀ outcome, (∀ i, (RenameCall.race calls s₀ schedule).programs i = .done (outcome i)) →
      Elected calls s₀ (RenameCall.race calls s₀ schedule).state outcome) ∧
    ∀ i, 5 ≤ schedule.count i →
      ∃ r, (RenameCall.race calls s₀ schedule).programs i = .done r := by
  obtain ⟨phase, hstanding, hleft⟩ := hr.start.after hr schedule
  refine ⟨fun i location h => hstanding.registers hr h, fun outcome h => hstanding.elected hr h, ?_⟩
  intro i hturns
  have hended : (phase i).left = 0 := by
    have hi := hleft i
    have hstart : Phase.asked.left = 5 := rfl
    omega
  obtain ⟨r, hdone⟩ := Phase.exists_done hended (calls i)
  exact ⟨r, (hstanding.programs i).trans hdone⟩

/-! ### Two calls for one table -/

/-- The calls move the one table of a site to two names. -/
def twoCalls : Fin 2 → RenameCall
  | 0 => ⟨Site.lake, Site.firstName, ⟨⟨"db", isSegment_db⟩, "a", by decide⟩⟩
  | 1 => ⟨Site.lake, Site.firstName, ⟨⟨"db", isSegment_db⟩, "b", by decide⟩⟩

/-- The table. -/
def firstTable : StoredTable where
  record := Site.firstRecord.copiedTo Site.firstName
  location := Metadata.fileLocation Site.firstIds.fileId "s3://w/db.db/t?1"
  path := "db.db/t"
  content := Site.bareTable.content Site.firstIds "s3://w/db.db/t?1"
  metadata := .reread Site.firstIds "s3://w/db.db/t?1" Site.bareTable.schema none none .empty

theorem firstTable_isAt : firstTable.IsAt Site.firstSite Site.firstName where
  record := rfl
  location := Catalog.metadataLocation_congr
    (Catalog.metadataLocation_ofMetadata Site.firstName "t?1" _ .empty) rfl
  path := by decide +kernel
  content := OrderedMap.get?_insert_self _ _ _
  metadata := Site.read?_bareTable Site.firstIds "s3://w/db.db/t?1"

theorem rivals_twoCalls : Rivals twoCalls Site.firstSite where
  apart := by decide
  free
    | 0 => rfl
    | 1 => rfl
  foreign := by decide
  space := by decide
  shortSource := by decide
  shortTarget := by decide
  stored := by
    intro i r hr
    have hsource : (twoCalls i).source = Site.firstName := by
      match i with
      | 0 => rfl
      | 1 => rfl
    rw [hsource] at hr ⊢
    rw [firstTable_isAt.record, Option.some.injEq] at hr
    exact ⟨firstTable, hr, firstTable_isAt⟩

/-- The calls take their turns alternately until both have returned. -/
theorem elect_one_twoCalls :
    Rivals twoCalls Site.firstSite ∧ ∃ outcome,
      (∀ i, (RenameCall.race twoCalls Site.firstSite [0, 1, 0, 1, 0, 1, 0, 1, 0, 1]).programs i
        = .done (outcome i)) ∧
      Elected twoCalls Site.firstSite
        (RenameCall.race twoCalls Site.firstSite [0, 1, 0, 1, 0, 1, 0, 1, 0, 1]).state outcome := by
  obtain ⟨-, helected, hended⟩ :=
    Rivals.elect_one rivals_twoCalls [0, 1, 0, 1, 0, 1, 0, 1, 0, 1]
  have hturns : ∀ i : Fin 2, 5 ≤ List.count i [0, 1, 0, 1, 0, 1, 0, 1, 0, 1] := by decide
  choose outcome hdone using fun i => hended i (hturns i)
  exact ⟨rivals_twoCalls, outcome, hdone, helected outcome hdone⟩

end LakeCatalog
