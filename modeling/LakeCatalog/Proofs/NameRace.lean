import LakeCatalog.Proofs.Bids
import LakeCatalog.Proofs.RenameUnheard

/-!
# A free name is taken by one call

The calls of a contest take turns at one site.  Each of them has something to do before it asks to
register its record, and something to do afterwards, but it is this one question that decides:
whoever asks it first gets the name, and everybody else is told that it is taken.

* `Bid.Phase`, `Bid.Progress` — how far a call has come, with what is left of it;
* `Contest.Tables`, `Contest.Files` — what the metastore and the objects hold between two turns;
* `Contest.Standing.step` — every turn keeps this;
* `Contest.one_takes` — exactly one call takes the name, and the others move nothing.
-/

namespace LakeCatalog

open Metastore (Call Failure Memory)
open Registry (longName not_short_longName)

namespace Bid

/-! ### How far a bid has come -/

/-- How far a bid has come. -/
inductive Phase where
  /-- It has asked for nothing yet. -/
  | asked
  /-- It has a place for its table, but has not written the metadata file. -/
  | placed
  /-- It has a record to register. -/
  | ready
  /-- It has registered the record, and its source is still there. -/
  | taken
  /-- It has registered the record and dropped its source, if it has one. -/
  | settled
  /-- It has found the record under the new name. -/
  | located
  /-- It has returned what it has loaded. -/
  | returned
  /-- It has returned that the name is taken. -/
  | beaten

namespace Phase

/-- The bid has written its metadata file, if it writes one. -/
def Written : Phase → Prop
  | asked | placed => False
  | _ => True

/-- The bid has registered its record. -/
def Owns : Phase → Prop
  | taken | settled | located | returned => True
  | _ => False

/-- The bid has dropped its source, if it has one. -/
def Cleared : Phase → Prop
  | settled | located | returned => True
  | _ => False

/-- The most turns that are left of a bid. -/
def left (x : Bid) : Phase → Nat
  | asked => 5
  | placed => 4
  | ready => match x with
    | .create .. => 3
    | .rename .. => 4
  | taken => 3
  | settled => 2
  | located => 1
  | returned | beaten => 0

theorem Owns.written {p : Phase} (h : p.Owns) : p.Written := by
  cases p with
  | taken | settled | located | returned => exact trivial
  | asked | placed | ready | beaten => exact absurd h id

theorem left_le (x : Bid) (p : Phase) : p.left x ≤ 5 := by
  cases p <;> cases x <;> simp [left]

theorem Cleared.owns {p : Phase} (h : p.Cleared) : p.Owns := by
  cases p with
  | settled | located | returned => exact trivial
  | asked | placed | ready | taken | beaten => exact absurd h id

/-- A property of phases that a bid does not change by its turn is changed for no bid. -/
theorem update_iff {ι : Type} [DecidableEq ι] {phase : ι → Phase} {i : ι} {p : Phase}
    {P : Phase → Prop} (h : P p ↔ P (phase i)) (j : ι) :
    P (Function.update phase i p j) ↔ P (phase j) := by
  by_cases hj : j = i
  · subst hj
    rw [Function.update_self]
    exact h
  · rw [Function.update_of_ne hj]

end Phase

end Bid

/-! ### What holds between turns -/

section Contest

variable {ι : Type} (bids : ι → Bid) (n : TableName) (s₀ : Site)

/-- How far a bid has come, and what is left of it. -/
inductive Bid.Progress : Bid → Offer → Phase → Program Backend (Except CatalogError Table) → Prop
  /-- It has not asked for a place yet. -/
  | unplaced {c : Catalog} {fresh : Fresh} {creation : TableCreation} {place path : String}
      (hnone : Catalog.usableLocation creation.location = none)
      (hplace : (c.tableLocation n creation).perform Site.answer s₀ = (some (.ok place), s₀))
      (hpath : Objects.pathOf (Metadata.fileLocation fresh.fileId place) = .ok path) :
      Progress (.create c fresh creation) (newTable n fresh creation place) .asked
        (program n (.create c fresh creation))
  /-- It has not asked for its source yet. -/
  | unfound {c : Catalog} {source : TableName} {r : TableRecord} {file : String}
      (hrecord : s₀.metastore.record? source = some r)
      (hfile : r.metadataLocation source = .ok file) :
      Progress (.rename c source) ⟨r, file⟩ .asked (program n (.rename c source))
  | placed {c : Catalog} {fresh : Fresh} {creation : TableCreation} {place path : String}
      (hplace : (c.tableLocation n creation).perform Site.answer s₀ = (some (.ok place), s₀))
      (hpath : Objects.pathOf (Metadata.fileLocation fresh.fileId place) = .ok path) :
      Progress (.create c fresh creation) (newTable n fresh creation place) .placed
        (c.createAt fresh n creation place).run
  | ready {x : Bid} {o : Offer} : Progress x o .ready (x.register n o.record).run
  | taken {c : Catalog} {source : TableName} {o : Offer} :
      Progress (.rename c source) o .taken (RenameCall.mk c source n).dropSource.run
  | settled {x : Bid} {o : Offer} : Progress x o .settled (x.catalog.loadTable n).run
  | located {x : Bid} {o : Offer} {path : String} (hpath : Objects.pathOf o.file = .ok path) :
      Progress x o .located (x.readBack n o.file).run
  | returned {x : Bid} {o : Offer} {outcome : Except CatalogError Table}
      (hloaded : Loaded bids n s₀ x o outcome) : Progress x o .returned (.done outcome)
  | beaten {x : Bid} {o : Offer} :
      Progress x o .beaten (.done (.error (.tableAlreadyExists n.space.text n.table)))

/-- A bid that has no turns left has returned. -/
theorem Bid.Progress.exists_done {bids : ι → Bid} {n : TableName} {s₀ : Site} {x : Bid} {o : Offer}
    {p : Phase} {program : Program Backend (Except CatalogError Table)}
    (h : x.Progress bids n s₀ o p program) (hleft : p.left x = 0) : ∃ r, program = .done r := by
  cases h with
  | returned hloaded => exact ⟨_, rfl⟩
  | beaten => exact ⟨_, rfl⟩
  | ready => cases x <;> cases hleft
  | unplaced hnone hplace hpath => cases hleft
  | unfound hrecord hfile => cases hleft
  | placed hplace hpath => cases hleft
  | taken => cases hleft
  | settled => cases hleft
  | located hpath => cases hleft

namespace Contest

variable (offers : ι → Offer) (phase : ι → Bid.Phase)

/-- What the metastore holds between two turns of a contest. -/
structure Tables (m : Memory) : Prop where
  space : m.databases.contains n.space.text = true
  database : m.getDatabase n.space.text = s₀.metastore.getDatabase n.space.text
  owned : ∀ i, (phase i).Owns → m.record? n = some ((offers i).record.copiedTo n)
  free : (∀ i, ¬(phase i).Owns) → m.record? n = none
  lone : ∀ i j, (phase i).Owns → (phase j).Owns → i = j
  beaten : ∀ i, phase i = .beaten → ∃ j, (phase j).Owns
  gone : ∀ i source, (phase i).Cleared → (bids i).source? = some source →
    m.record? source = none
  /- What is not the source of a bid that has dropped it is as it was. -/
  kept : ∀ k, k ≠ n → (∀ i, (phase i).Cleared → (bids i).source? ≠ some k) →
    m.record? k = s₀.metastore.record? k

/-- What the objects hold between two turns of a contest. -/
structure Files (objects : OrderedMap ByteArray) : Prop where
  held : ∀ path, s₀.objects.contains path = true → objects.contains path = true
  found : ∀ path data, objects.get? path = some data →
    s₀.objects.get? path = some data ∨ ∃ i, (bids i).Writes n s₀ path data
  /- A file that was written is there, unless another one was written in its place. -/
  written : ∀ i path data, (phase i).Written → (bids i).Writes n s₀ path data →
    ∃ j data', (bids j).Writes n s₀ path data' ∧ objects.get? path = some data'

/-- **What holds between two turns** of a contest. -/
structure Standing (x : Interleaving Backend ι (Except CatalogError Table) Site) : Prop where
  progress : ∀ i, (bids i).Progress bids n s₀ (offers i) (phase i) (x.programs i)
  tables : Tables bids n s₀ offers phase x.state.metastore
  files : Files bids n s₀ phase x.state.objects

variable {bids n s₀ offers phase} {i : ι} {p : Bid.Phase} {m m' : Memory}
  {objects : OrderedMap ByteArray} {source : TableName} {s' : Site}
  {x : Interleaving Backend ι (Except CatalogError Table) Site}

/-- The wanted name is the source of no bid, since it is free. -/
theorem ne_of_source (hc : Contest bids n s₀) (hsource : (bids i).source? = some source) :
    source ≠ n := by
  rintro rfl
  obtain ⟨o, ho⟩ := hc.offers i
  obtain ⟨r, hr⟩ := ho.exists_record hsource
  rw [hc.free] at hr
  cases hr

theorem short_of_source (hc : Contest bids n s₀) (hsource : (bids i).source? = some source) :
    Registry.Short source.table := by
  obtain ⟨o, ho⟩ := hc.offers i
  obtain ⟨r, hr⟩ := ho.exists_record hsource
  obtain ⟨d, hd, ht⟩ := Memory.exists_of_record? hr
  exact (hc.filed.table _ d _ r hd ht).2.2.2

/-- A source is as it was until its bid has dropped it. -/
theorem Tables.record?_source (ht : Tables bids n s₀ offers phase m) (hc : Contest bids n s₀)
    (hsource : (bids i).source? = some source) (hphase : ¬(phase i).Cleared) :
    m.record? source = s₀.metastore.record? source := by
  refine ht.kept source (hc.ne_of_source hsource) ?_
  intro j hj hsame
  rw [hc.apart j i source hsame hsource] at hj
  exact hphase hj

/-- Nobody changes the namespace, so a new table has the place that it had at the start. -/
theorem Tables.perform_tableLocation {s : Site} (ht : Tables bids n s₀ offers phase s.metastore)
    {c : Catalog} {creation : TableCreation} {place : String}
    (hasks : (c.tableLocation n creation).AsksOnce (.metastore (.getDatabase n.space.text)))
    (hplace : (c.tableLocation n creation).perform Site.answer s₀ = (some (.ok place), s₀)) :
    (c.tableLocation n creation).perform Site.answer s = (some (.ok place), s) := by
  obtain ⟨r, hperform, -⟩ := Site.perform_of_conforms
    (Catalog.tableLocation_conforms c n creation) s
  have hsame : ((c.tableLocation n creation).perform Site.answer s).1 =
      ((c.tableLocation n creation).perform Site.answer s₀).1 := hasks.perform_congr ht.database
  rw [hperform, hplace, Option.some.injEq] at hsame
  rw [hperform, hsame]

/-- A metadata file that was there or was written is found, and no other. -/
theorem Files.exists_loaded {s : Site} (hf : Files bids n s₀ phase s.objects)
    (hoffers : ∀ i, (bids i).Offers n s₀ (offers i)) {path : String}
    (hpath : Objects.pathOf (offers i).file = .ok path) (hwritten : (phase i).Written) :
    ∃ outcome, Loaded bids n s₀ (bids i) (offers i) outcome ∧
      ((bids i).readBack n (offers i).file).perform Site.answer s = (some outcome, s) := by
  have hread : ∀ data, s.objects.get? path = some data →
      ((bids i).readBack n (offers i).file).perform Site.answer s
        = (some (Site.reading (bids i).catalog n (offers i).file data), s) := by
    intro data hdata
    have hmetadata := Site.perform_readMetadata hpath hdata
    unfold Bid.readBack Site.reading
    cases hdecoded : Metadata.read? data with
    | some metadata =>
        rw [hdecoded] at hmetadata
        exact Action.perform_bind_ok Site.answer hmetadata
    | none =>
        rw [hdecoded] at hmetadata
        exact Action.perform_bind_error Site.answer hmetadata
  cases hsource : (bids i).source? with
  | none =>
      obtain ⟨path', data, hwrites, hpath'⟩ := (hoffers i).exists_writes hsource
      rw [hpath, Except.ok.injEq] at hpath'
      subst hpath'
      obtain ⟨j, data', hwrites', hdata⟩ := hf.written i path data hwritten hwrites
      exact ⟨_, .written hpath hwrites', hread data' hdata⟩
  | some source =>
      cases hdata : s.objects.get? path with
      | some data =>
          rcases hf.found path data hdata with hbefore | ⟨j, hwrites⟩
          · exact ⟨_, .found hsource hpath hbefore, hread data hdata⟩
          · exact ⟨_, .written hpath hwrites, hread data hdata⟩
      | none =>
          have hnone : s₀.objects.get? path = none := by
            by_contra hheld
            have hcontains := hf.held path (by
              rw [OrderedMap.contains_eq]
              exact Option.isSome_iff_ne_none.2 hheld)
            rw [OrderedMap.contains_eq, hdata] at hcontains
            cases hcontains
          exact ⟨_, .missing hsource hpath hnone, Action.perform_bind_error Site.answer
            (Site.perform_readMetadata_missing hpath hdata)⟩

/-! ### The beginning and the end -/

/-- A bid begins with nothing done. -/
theorem exists_progress {b : Bid} {o : Offer} (h : b.Offers n s₀ o) :
    ∃ p, b.Progress bids n s₀ o p (b.program n) ∧ ¬p.Written := by
  cases h with
  | rename hrecord hfile => exact ⟨.asked, .unfound hrecord hfile, id⟩
  | @create c fresh creation place path hplace hpath =>
      cases husable : Catalog.usableLocation creation.location with
      | none => exact ⟨.asked, .unplaced husable hplace hpath, id⟩
      | some given =>
          have hgiven : c.tableLocation n creation = Action.ofExcept (.ok given) := by
            unfold Catalog.tableLocation
            rw [husable]
            rfl
          have hsame := hplace
          rw [hgiven] at hsame
          cases hsame
          have hbegins : Bid.program n (.create c fresh creation)
              = (c.createAt fresh n creation place).run := by
            show (c.createTable fresh n creation).run = _
            rw [Catalog.createTable_eq, hgiven, Action.run_ofExcept_ok]
          refine ⟨.placed, ?_, id⟩
          rw [hbegins]
          exact .placed hplace hpath

theorem start (hc : Contest bids n s₀) (hoffers : ∀ i, (bids i).Offers n s₀ (offers i)) :
    ∃ phase, Standing bids n s₀ offers phase ⟨s₀, fun i => (bids i).program n⟩ := by
  have hbegun (i : ι) : ∃ p, (bids i).Progress bids n s₀ (offers i) p ((bids i).program n) ∧
      ¬p.Written := exists_progress (hoffers i)
  choose phase hprogress hfresh using hbegun
  have hnobody : ∀ i, ¬(phase i).Owns := fun i h => hfresh i h.written
  refine ⟨phase, hprogress, ?_, ?_⟩
  · refine ⟨hc.space, rfl, fun i h => absurd h (hnobody i), fun _ => hc.free,
      fun i _ h => absurd h (hnobody i), ?_, fun i _ h => absurd h.owns (hnobody i),
      fun _ _ _ => rfl⟩
    intro i hi
    refine absurd ?_ (hfresh i)
    rw [hi]
    exact trivial
  · exact ⟨fun _ h => h, fun _ _ h => Or.inl h, fun i _ _ h => absurd h (hfresh i)⟩

/-- A bid that has returned has loaded its table or was told that the name is taken. -/
theorem ended_of_done {b : Bid} {o : Offer} {outcome : Except CatalogError Table}
    (h : b.Progress bids n s₀ o p (.done outcome)) :
    (p = .returned ∧ Loaded bids n s₀ b o outcome) ∨
      p = .beaten ∧ outcome = .error (.tableAlreadyExists n.space.text n.table) := by
  generalize hprogram : Program.done (I := Backend) outcome = q at h
  cases h with
  | @unplaced c fresh creation _ _ hnone hplace hpath =>
      have hbegins : Bid.program n (.create c fresh creation)
          = (c.tableLocation n creation >>= c.createAt fresh n creation).run := by
        rw [← Catalog.createTable_eq]
        rfl
      exact absurd (hprogram.trans hbegins).symm
        ((Catalog.asksOnce_tableLocation hnone c n).bind_ne_done _ _)
  | unfound hrecord hfile => cases hprogram
  | @placed c fresh creation place path hplace hpath =>
      exact absurd hprogram.symm ((creation.asksOnce_writeMetadata hpath).bind_ne_done _ _)
  | ready => cases hprogram
  | taken => cases hprogram
  | settled => cases hprogram
  | located hpath =>
      exact absurd hprogram.symm ((Objects.asksOnce_readMetadata hpath).bind_ne_done _ _)
  | returned hloaded =>
      cases hprogram
      exact Or.inl ⟨rfl, hloaded⟩
  | beaten =>
      cases hprogram
      exact Or.inr ⟨rfl, rfl⟩

variable [DecidableEq ι]

/-! ### What a turn does to the metastore -/

/-- It does nothing to the metastore. -/
theorem Tables.same (ht : Tables bids n s₀ offers phase m) (howns : p.Owns ↔ (phase i).Owns)
    (hcleared : p.Cleared ↔ (phase i).Cleared) (hbeaten : p = .beaten → ∃ j, (phase j).Owns) :
    Tables bids n s₀ offers (Function.update phase i p) m := by
  have howners := Bid.Phase.update_iff (P := Bid.Phase.Owns) howns
  have hclears := Bid.Phase.update_iff (P := Bid.Phase.Cleared) hcleared
  refine ⟨ht.space, ht.database, fun j hj => ht.owned j ((howners j).1 hj), ?_, ?_, ?_, ?_, ?_⟩
  · intro hnobody
    exact ht.free fun j hj => hnobody j ((howners j).2 hj)
  · intro j k hj hk
    exact ht.lone j k ((howners j).1 hj) ((howners k).1 hk)
  · intro j hj
    have howner : ∃ k, (phase k).Owns := by
      by_cases hji : j = i
      · subst hji
        rw [Function.update_self] at hj
        exact hbeaten hj
      · rw [Function.update_of_ne hji] at hj
        exact ht.beaten j hj
    obtain ⟨k, hk⟩ := howner
    exact ⟨k, (howners k).2 hk⟩
  · intro j source hj hsource
    exact ht.gone j source ((hclears j).1 hj) hsource
  · intro k hk hnobody
    exact ht.kept k hk fun j hj => hnobody j ((hclears j).2 hj)

/-- **The turn that takes the name**: the record is registered, and nobody has registered one
before. -/
theorem Tables.take (ht : Tables bids n s₀ offers phase m)
    (hgains : m.Gains m' n ((offers i).record.copiedTo n)) (howns : p.Owns)
    (hcleared : p.Cleared → (bids i).source? = none) :
    Tables bids n s₀ offers (Function.update phase i p) m' := by
  have hnobody : ∀ j, ¬(phase j).Owns := by
    intro j hj
    have hheld := ht.owned j hj
    rw [hgains.absent] at hheld
    cases hheld
  have honly : ∀ j, (Function.update phase i p j).Owns → j = i := by
    intro j hj
    by_contra hne
    rw [Function.update_of_ne hne] at hj
    exact hnobody j hj
  have hself : (Function.update phase i p i).Owns := by
    rw [Function.update_self]
    exact howns
  refine ⟨hgains.contains ht.space, (hgains.getDatabase _).trans ht.database, ?_, ?_, ?_,
    fun _ _ => ⟨i, hself⟩, ?_, ?_⟩
  · intro j hj
    rw [honly j hj]
    exact hgains.record?_self
  · intro hfree
    exact absurd hself (hfree i)
  · intro j k hj hk
    exact (honly j hj).trans (honly k hk).symm
  · intro j source hj hsource
    obtain rfl := honly j hj.owns
    rw [Function.update_self] at hj
    rw [hcleared hj] at hsource
    cases hsource
  · intro k hk _
    rw [hgains.record?_of_ne hk]
    exact ht.kept k hk fun j hj => absurd hj.owns (hnobody j)

/-- The turn in which a moved table is dropped under its old name. -/
theorem Tables.drop (ht : Tables bids n s₀ offers phase m) (hphase : phase i = .taken)
    (hsource : (bids i).source? = some source) (hne : source ≠ n)
    (hloses : m.Loses m' source) :
    Tables bids n s₀ offers (Function.update phase i .settled) m' := by
  have howns : Bid.Phase.settled.Owns ↔ (phase i).Owns := by
    rw [hphase]
    exact Iff.rfl
  have howners := Bid.Phase.update_iff (P := Bid.Phase.Owns) howns
  have hself : Function.update phase i .settled i = .settled := Function.update_self ..
  have hother : ∀ {j}, j ≠ i → Function.update phase i .settled j = phase j :=
    fun hj => Function.update_of_ne hj _ _
  refine ⟨hloses.contains ht.space, (hloses.getDatabase _).trans ht.database, ?_, ?_, ?_, ?_, ?_,
    ?_⟩
  · intro j hj
    rw [hloses.record?_of_ne (Ne.symm hne)]
    exact ht.owned j ((howners j).1 hj)
  · intro hnobody
    rw [hloses.record?_of_ne (Ne.symm hne)]
    exact ht.free fun j hj => hnobody j ((howners j).2 hj)
  · intro j k hj hk
    exact ht.lone j k ((howners j).1 hj) ((howners k).1 hk)
  · intro j hj
    have hji : j ≠ i := by
      rintro rfl
      rw [hself] at hj
      cases hj
    rw [hother hji] at hj
    obtain ⟨k, hk⟩ := ht.beaten j hj
    exact ⟨k, (howners k).2 hk⟩
  · intro j source' hj hsource'
    by_cases hsame : source' = source
    · rw [hsame]
      exact hloses.record?_self
    · have hji : j ≠ i := by
        rintro rfl
        rw [hsource, Option.some.injEq] at hsource'
        exact hsame hsource'.symm
      rw [hother hji] at hj
      rw [hloses.record?_of_ne hsame]
      exact ht.gone j source' hj hsource'
  · intro k hk hnobody
    have hks : k ≠ source := by
      rintro rfl
      refine hnobody i ?_ hsource
      rw [hself]
      exact trivial
    rw [hloses.record?_of_ne hks]
    refine ht.kept k hk ?_
    intro j hj
    have hji : j ≠ i := by
      rintro rfl
      rw [hphase] at hj
      exact hj
    refine hnobody j ?_
    rw [hother hji]
    exact hj

/-! ### What a turn does to the objects -/

/-- It does nothing to them, and the bid has not got past writing a file. -/
theorem Files.same (hf : Files bids n s₀ phase objects)
    (hwritten : p.Written → (phase i).Written ∨ (bids i).source? ≠ none) :
    Files bids n s₀ (Function.update phase i p) objects where
  held := hf.held
  found := hf.found
  written := by
    intro j path data hj hwrites
    by_cases hji : j = i
    · subst hji
      rw [Function.update_self] at hj
      rcases hwritten hj with hbefore | hsource
      · exact hf.written j path data hbefore hwrites
      · exact absurd hwrites.source?_eq hsource
    · rw [Function.update_of_ne hji] at hj
      exact hf.written j path data hj hwrites

/-- The turn in which a creation writes its file. -/
theorem Files.write (hf : Files bids n s₀ phase objects) {path : String} {data : ByteArray}
    (hwrites : (bids i).Writes n s₀ path data) (p : Bid.Phase) :
    Files bids n s₀ (Function.update phase i p) (objects.insert path data) where
  held := fun path' h => Site.contains_insert_of_contains (hf.held path' h)
  found := by
    intro path' data' h
    rw [OrderedMap.get?_insert] at h
    by_cases hpath : path = path'
    · rw [if_pos hpath, Option.some.injEq] at h
      subst hpath h
      exact Or.inr ⟨i, hwrites⟩
    · rw [if_neg hpath] at h
      exact hf.found path' data' h
  written := by
    intro j path' data' hj hwrites'
    by_cases hpath : path = path'
    · subst hpath
      exact ⟨i, data, hwrites, OrderedMap.get?_insert_self _ _ _⟩
    · have hji : j ≠ i := by
        rintro rfl
        exact hpath (hwrites.unique hwrites').1
      rw [Function.update_of_ne hji] at hj
      rw [OrderedMap.get?_insert_of_ne _ hpath]
      exact hf.written j path' data' hj hwrites'

/-! ### One turn -/

namespace Standing

/-- A turn is what it does to the metastore, to the objects and to its own bid. -/
theorem advance (hx : Standing bids n s₀ offers phase x)
    {program : Program Backend (Except CatalogError Table)}
    (hprogress : (bids i).Progress bids n s₀ (offers i) p program)
    (htables : Tables bids n s₀ offers (Function.update phase i p) s'.metastore)
    (hfiles : Files bids n s₀ (Function.update phase i p) s'.objects) :
    Standing bids n s₀ offers (Function.update phase i p)
      ⟨s', Function.update x.programs i program⟩ where
  progress := by
    intro j
    show (bids j).Progress bids n s₀ (offers j) (Function.update phase i p j)
      (Function.update x.programs i program j)
    by_cases hj : j = i
    · subst hj
      rw [Function.update_self, Function.update_self]
      exact hprogress
    · rw [Function.update_of_ne hj, Function.update_of_ne hj]
      exact hx.progress j
  tables := htables
  files := hfiles

/-- A turn that only tells a bid something. -/
theorem learn (hx : Standing bids n s₀ offers phase x)
    {program : Program Backend (Except CatalogError Table)}
    (hprogress : (bids i).Progress bids n s₀ (offers i) p program)
    (howns : p.Owns ↔ (phase i).Owns) (hcleared : p.Cleared ↔ (phase i).Cleared)
    (hbeaten : p = .beaten → ∃ j, (phase j).Owns)
    (hwritten : p.Written → (phase i).Written ∨ (bids i).source? ≠ none) :
    Standing bids n s₀ offers (Function.update phase i p)
      ⟨x.state, Function.update x.programs i program⟩ :=
  hx.advance hprogress (hx.tables.same howns hcleared hbeaten) (hx.files.same hwritten)

section Creation

variable {c : Catalog} {fresh : Fresh} {creation : TableCreation} {place path : String}

theorem step_unplaced (hx : Standing bids n s₀ offers phase x)
    (hbid : bids i = .create c fresh creation)
    (hoffer : offers i = Bid.newTable n fresh creation place) (hphase : phase i = .asked)
    (hprogram : x.programs i = Bid.program n (.create c fresh creation))
    (hnone : Catalog.usableLocation creation.location = none)
    (hplace : (c.tableLocation n creation).perform Site.answer s₀ = (some (.ok place), s₀))
    (hpath : Objects.pathOf (Metadata.fileLocation fresh.fileId place) = .ok path) :
    Standing bids n s₀ offers (Function.update phase i .placed) (x.step Site.answer i) := by
  have hasks := Catalog.asksOnce_tableLocation hnone c n
  have hbegins : x.programs i
      = (c.tableLocation n creation >>= c.createAt fresh n creation).run := by
    rw [← Catalog.createTable_eq]
    exact hprogram
  rw [Interleaving.step_once hbegins hasks (hx.tables.perform_tableLocation hasks hplace),
    Action.run_ofExcept_ok]
  refine hx.learn ?_ ?_ ?_ nofun nofun
  · rw [hbid, hoffer]
    exact .placed hplace hpath
  · rw [hphase]
    exact Iff.rfl
  · rw [hphase]
    exact Iff.rfl

theorem step_placed (hx : Standing bids n s₀ offers phase x)
    (hbid : bids i = .create c fresh creation)
    (hoffer : offers i = Bid.newTable n fresh creation place) (hphase : phase i = .placed)
    (hprogram : x.programs i = (c.createAt fresh n creation place).run)
    (hplace : (c.tableLocation n creation).perform Site.answer s₀ = (some (.ok place), s₀))
    (hpath : Objects.pathOf (Metadata.fileLocation fresh.fileId place) = .ok path) :
    Standing bids n s₀ offers (Function.update phase i .ready) (x.step Site.answer i) := by
  have hwrite : (Objects.writeMetadata (creation.metadata fresh place)
      (Metadata.fileLocation fresh.fileId place)).perform Site.answer x.state
      = (some (.ok ()), x.state.withContent fresh creation place path) :=
    Catalog.perform_writeMetadata Site.answer fresh creation place hpath x.state
  have hwrites : (bids i).Writes n s₀ path (creation.content fresh place) := by
    rw [hbid]
    exact .create hplace hpath
  rw [Interleaving.step_once hprogram (creation.asksOnce_writeMetadata hpath) hwrite,
    Action.run_ofExcept_ok]
  refine hx.advance ?_ (hx.tables.same ?_ ?_ nofun) (hx.files.write hwrites .ready)
  · rw [hbid, hoffer]
    exact .ready
  · rw [hphase]
    exact Iff.rfl
  · rw [hphase]
    exact Iff.rfl

end Creation

theorem step_unfound (hc : Contest bids n s₀) (hx : Standing bids n s₀ offers phase x)
    {c : Catalog} {r : TableRecord} {file : String} (hbid : bids i = .rename c source)
    (hoffer : offers i = ⟨r, file⟩) (hphase : phase i = .asked)
    (hprogram : x.programs i = Bid.program n (.rename c source))
    (hrecord : s₀.metastore.record? source = some r)
    (hfile : r.metadataLocation source = .ok file) :
    Standing bids n s₀ offers (Function.update phase i .ready) (x.step Site.answer i) := by
  have hsource : (bids i).source? = some source := by
    rw [hbid]
    rfl
  have hheld : x.state.metastore.record? source = some r := by
    refine (hx.tables.record?_source hc hsource ?_).trans hrecord
    rw [hphase]
    exact id
  have hbegins := hprogram.trans (RenameCall.program_eq ⟨c, source, n⟩)
  rw [Interleaving.step_call_ok hbegins
    (Site.call_getTable_some hheld (hc.short_of_source hsource)), hfile]
  refine hx.learn ?_ ?_ ?_ nofun ?_
  · rw [hbid, hoffer]
    exact .ready
  · rw [hphase]
    exact Iff.rfl
  · rw [hphase]
    exact Iff.rfl
  · intro _
    rw [hsource]
    exact Or.inr (Option.some_ne_none source)

/-- The turn that decides: the first bid that comes to it takes the name. -/
theorem step_ready (hc : Contest bids n s₀) (hx : Standing bids n s₀ offers phase x)
    (hphase : phase i = .ready)
    (hprogram : x.programs i = ((bids i).register n (offers i).record).run) :
    ∃ p, Standing bids n s₀ offers (Function.update phase i p) (x.step Site.answer i) ∧
      p.left (bids i) ≤ Bid.Phase.ready.left (bids i) - 1 := by
  have hfiles : ∀ p, Files bids n s₀ (Function.update phase i p) x.state.objects := by
    intro p
    refine hx.files.same fun _ => Or.inl ?_
    rw [hphase]
    exact trivial
  cases hrecord : x.state.metastore.record? n with
  | none =>
      obtain ⟨m', hcreate, hgains⟩ := Site.call_createTable_free hx.tables.space hrecord
        (r := (offers i).record.renamed n.table) rfl hc.short
      rw [Interleaving.step_call_ok hprogram hcreate]
      cases hbid : bids i with
      | create c fresh creation =>
          refine ⟨.settled, hx.advance ?_ (hx.tables.take hgains trivial ?_) (hfiles .settled),
            Nat.le_refl 2⟩
          · rw [hbid]
            exact .settled
          · intro _
            rw [hbid]
            rfl
      | rename c source =>
          refine ⟨.taken, hx.advance ?_ (hx.tables.take hgains trivial nofun) (hfiles .taken),
            Nat.le_refl 3⟩
          rw [hbid]
          exact .taken
  | some r =>
      obtain ⟨f, hcreate, hf⟩ := Site.call_createTable_held hrecord
        (r := (offers i).record.renamed n.table) rfl hc.short
      rw [Interleaving.step_call_error hprogram hcreate, hf]
      have howner : ∃ j, (phase j).Owns := by
        by_contra hnobody
        rw [hx.tables.free (not_exists.1 hnobody)] at hrecord
        cases hrecord
      refine ⟨.beaten, hx.advance .beaten (hx.tables.same ?_ ?_ fun _ => howner)
        (hfiles .beaten), Nat.zero_le _⟩
      · rw [hphase]
        exact Iff.rfl
      · rw [hphase]
        exact Iff.rfl

theorem step_taken (hc : Contest bids n s₀) (hx : Standing bids n s₀ offers phase x)
    {c : Catalog} (hbid : bids i = .rename c source) (hphase : phase i = .taken)
    (hprogram : x.programs i = (RenameCall.mk c source n).dropSource.run) :
    Standing bids n s₀ offers (Function.update phase i .settled) (x.step Site.answer i) := by
  have hsource : (bids i).source? = some source := by
    rw [hbid]
    rfl
  obtain ⟨o, ho⟩ := hc.offers i
  obtain ⟨r, hr⟩ := ho.exists_record hsource
  have hheld : x.state.metastore.record? source = some r := by
    refine (hx.tables.record?_source hc hsource ?_).trans hr
    rw [hphase]
    exact id
  obtain ⟨m', hdrop, hloses⟩ := Site.call_deleteTable_some hheld
  rw [Interleaving.step_attempt_ok hprogram hdrop]
  refine hx.advance ?_ (hx.tables.drop hphase hsource (hc.ne_of_source hsource) hloses)
    (hx.files.same fun _ => Or.inl ?_)
  · rw [hbid]
    exact .settled
  · rw [hphase]
    exact trivial

/-- Loading begins with the record, which is the one that was registered. -/
theorem step_settled (hc : Contest bids n s₀) (hoffers : ∀ i, (bids i).Offers n s₀ (offers i))
    (hx : Standing bids n s₀ offers phase x) (hphase : phase i = .settled)
    (hprogram : x.programs i = ((bids i).catalog.loadTable n).run) :
    ∃ p, Standing bids n s₀ offers (Function.update phase i p) (x.step Site.answer i) ∧
      p.left (bids i) ≤ 1 := by
  have howns : (phase i).Owns := by
    rw [hphase]
    exact trivial
  have hwritten : (phase i).Written := by
    rw [hphase]
    exact trivial
  have hcleared : (phase i).Cleared := by
    rw [hphase]
    exact trivial
  have hturn : x.step Site.answer i = ⟨x.state, Function.update x.programs i
      ((bids i).readBack n (offers i).file).run⟩ := by
    rw [Interleaving.step_call_ok hprogram
      (Site.call_getTable_some (hx.tables.owned i howns) hc.short), (hoffers i).metadataLocation n]
    rfl
  have hlearn : ∀ {p program}, (bids i).Progress bids n s₀ (offers i) p program →
      p.Owns → p.Cleared → p ≠ .beaten → Standing bids n s₀ offers (Function.update phase i p)
        ⟨x.state, Function.update x.programs i program⟩ := by
    intro p program hprogress hp hp' hne
    exact hx.learn hprogress (iff_of_true hp howns) (iff_of_true hp' hcleared)
      (fun h => absurd h hne) fun _ => Or.inl hwritten
  rw [hturn]
  cases hpath : Objects.pathOf (offers i).file with
  | ok path => exact ⟨.located, hlearn (.located hpath) trivial trivial nofun, Nat.le_refl 1⟩
  | error e =>
      -- A creation has written its file, so its location names an object.
      cases hsource : (bids i).source? with
      | none =>
          obtain ⟨path, data, -, hpath'⟩ := (hoffers i).exists_writes hsource
          rw [hpath] at hpath'
          cases hpath'
      | some source =>
          have hends : ((bids i).readBack n (offers i).file).run = .done (.error e) := by
            unfold Bid.readBack Objects.readMetadata Objects.read
            rw [hpath]
            rfl
          rw [hends]
          exact ⟨.returned, hlearn (.returned (.pathless hsource hpath)) trivial trivial nofun,
            Nat.zero_le 1⟩

theorem step_located (hoffers : ∀ i, (bids i).Offers n s₀ (offers i))
    (hx : Standing bids n s₀ offers phase x) (hphase : phase i = .located)
    (hprogram : x.programs i = ((bids i).readBack n (offers i).file).run) {path : String}
    (hpath : Objects.pathOf (offers i).file = .ok path) :
    Standing bids n s₀ offers (Function.update phase i .returned) (x.step Site.answer i) := by
  have hwritten : (phase i).Written := by
    rw [hphase]
    exact trivial
  obtain ⟨outcome, hloaded, hperform⟩ := hx.files.exists_loaded hoffers hpath hwritten
  rw [Interleaving.step_alone hprogram ((bids i).asksOnce_readBack n hpath) hperform]
  refine hx.learn (.returned hloaded) ?_ ?_ nofun fun _ => Or.inl hwritten
  · rw [hphase]
    exact Iff.rfl
  · rw [hphase]
    exact Iff.rfl

/-- A bid that has returned does nothing in its turns. -/
theorem step_ended (hx : Standing bids n s₀ offers phase x) {outcome : Except CatalogError Table}
    (hprogram : x.programs i = .done outcome) :
    Standing bids n s₀ offers (Function.update phase i (phase i)) (x.step Site.answer i) := by
  rw [Interleaving.step_done hprogram, Function.update_eq_self]
  exact hx

/-- **Every turn** keeps what holds, and takes the bid a step on. -/
theorem step (hc : Contest bids n s₀) (hoffers : ∀ i, (bids i).Offers n s₀ (offers i))
    (hx : Standing bids n s₀ offers phase x) (i : ι) :
    ∃ p, Standing bids n s₀ offers (Function.update phase i p) (x.step Site.answer i) ∧
      p.left (bids i) ≤ (phase i).left (bids i) - 1 := by
  have hprogress := hx.progress i
  generalize hbid : bids i = b at hprogress
  generalize hoffer : offers i = o at hprogress
  generalize hphase : phase i = p at hprogress
  generalize hprogram : x.programs i = q at hprogress
  cases hprogress with
  | unplaced hnone hplace hpath =>
      exact ⟨_, hx.step_unplaced hbid hoffer hphase hprogram hnone hplace hpath, Nat.le_refl 4⟩
  | unfound hrecord hfile =>
      exact ⟨_, hx.step_unfound hc hbid hoffer hphase hprogram hrecord hfile, Nat.le_refl 4⟩
  | placed hplace hpath =>
      exact ⟨_, hx.step_placed hbid hoffer hphase hprogram hplace hpath, Nat.le_refl 3⟩
  | ready =>
      rw [← hbid, ← hoffer] at hprogram
      rw [← hbid]
      exact hx.step_ready hc hphase hprogram
  | taken => exact ⟨_, hx.step_taken hc hbid hphase hprogram, Nat.le_refl 2⟩
  | settled =>
      rw [← hbid] at hprogram ⊢
      exact hx.step_settled hc hoffers hphase hprogram
  | located hpath =>
      rw [← hbid, ← hoffer] at hprogram
      rw [← hoffer] at hpath
      exact ⟨_, hx.step_located hoffers hphase hprogram hpath, Nat.le_refl 0⟩
  | returned hloaded =>
      refine ⟨_, hx.step_ended hprogram, ?_⟩
      rw [hphase]
      exact Nat.le_refl 0
  | beaten =>
      refine ⟨_, hx.step_ended hprogram, ?_⟩
      rw [hphase]
      exact Nat.le_refl 0

/-- **Every schedule** keeps what holds, and takes each bid as many steps on as it has turns. -/
theorem after (hc : Contest bids n s₀) (hoffers : ∀ i, (bids i).Offers n s₀ (offers i))
    (hx : Standing bids n s₀ offers phase x) (schedule : List ι) :
    ∃ phase', Standing bids n s₀ offers phase' (x.after Site.answer schedule) ∧
      ∀ i, (phase' i).left (bids i) ≤ (phase i).left (bids i) - schedule.count i :=
  Interleaving.exists_after (Standing bids n s₀ offers) (fun i => Bid.Phase.left (bids i))
    (fun hy i => hy.step hc hoffers i) hx schedule

end Standing

end Contest

/-! ### One of them takes the name -/

/-- What is left of a contest when all calls have returned, and one of them has taken the name. -/
structure Taken (bids : ι → Bid) (n : TableName) (s₀ s : Site)
    (outcome : ι → Except CatalogError Table) (w : ι) (o : Offer) : Prop where
  /-- What it had to register is registered under the name, and leads to the file that it has
  written or that its source had. -/
  offered : (bids w).Offers n s₀ o
  record : s.metastore.record? n = some (o.record.copiedTo n)
  registers : s.metastore.Registers n o.file
  /-- The file that it has written is there, unless another call has written one in its place. -/
  written : ∀ path data, (bids w).Writes n s₀ path data →
    ∃ j data', (bids j).Writes n s₀ path data' ∧ s.objects.get? path = some data'
  /-- It has returned what loading the table has come to, which is the table if the metadata can be
  read. -/
  loaded : Loaded bids n s₀ (bids w) o (outcome w)
  ok : Readable bids n s₀ → ∃ m, outcome w = .ok ⟨n, m, o.file, (bids w).catalog⟩
  alone : outcome w ≠ .error (.tableAlreadyExists n.space.text n.table)
  /-- All others have returned that there is a table of this name. -/
  others : ∀ i, i ≠ w → outcome i = .error (.tableAlreadyExists n.space.text n.table)
  /-- Its source is gone, and no other record is touched, not those of the other sources either. -/
  gone : ∀ source, (bids w).source? = some source → s.metastore.record? source = none
  kept : ∀ i source, i ≠ w → (bids i).source? = some source →
    ∃ r, s₀.metastore.record? source = some r ∧ s.metastore.record? source = some r
  rest : ∀ k, k ≠ n → (bids w).source? ≠ some k →
    s.metastore.record? k = s₀.metastore.record? k

variable {bids n s₀}

namespace Contest

variable {offers : ι → Offer} {phase : ι → Bid.Phase}
  {x : Interleaving Backend ι (Except CatalogError Table) Site}

theorem Standing.exists_taken [Nonempty ι] (hc : Contest bids n s₀)
    (hoffers : ∀ i, (bids i).Offers n s₀ (offers i)) (hx : Standing bids n s₀ offers phase x)
    {outcome : ι → Except CatalogError Table} (hdone : ∀ i, x.programs i = .done (outcome i)) :
    ∃ w, Taken bids n s₀ x.state outcome w (offers w) := by
  have hended : ∀ i, (phase i = .returned ∧ Loaded bids n s₀ (bids i) (offers i) (outcome i)) ∨
      phase i = .beaten ∧ outcome i = .error (.tableAlreadyExists n.space.text n.table) := by
    intro i
    have hprogress := hx.progress i
    rw [hdone i] at hprogress
    exact ended_of_done hprogress
  -- Somebody has the name: one that has returned its table, or one that has beaten another.
  have howner : ∃ w, (phase w).Owns := by
    obtain ⟨i⟩ := ‹Nonempty ι›
    rcases hended i with ⟨hphase, -⟩ | ⟨hphase, -⟩
    · refine ⟨i, ?_⟩
      rw [hphase]
      exact trivial
    · exact hx.tables.beaten i hphase
  obtain ⟨w, hw⟩ := howner
  have hreturned : phase w = .returned ∧ Loaded bids n s₀ (bids w) (offers w) (outcome w) := by
    rcases hended w with hreturned | ⟨hphase, -⟩
    · exact hreturned
    · rw [hphase] at hw
      exact absurd hw id
  obtain ⟨hphase, hloaded⟩ := hreturned
  have hcleared : (phase w).Cleared := by
    rw [hphase]
    exact trivial
  have hrecord := hx.tables.owned w hw
  have hrest : ∀ k, k ≠ n → (bids w).source? ≠ some k →
      x.state.metastore.record? k = s₀.metastore.record? k := by
    intro k hk hsource
    refine hx.tables.kept k hk ?_
    intro i hi
    rw [hx.tables.lone i w hi.owns hw]
    exact hsource
  refine ⟨w, hoffers w, hrecord, ⟨_, hrecord, (hoffers w).metadataLocation n⟩, ?_, hloaded,
    fun hr => hr.exists_ok (hoffers w) hloaded, hloaded.ne_taken, ?_, ?_, ?_, hrest⟩
  · intro path data hwrites
    exact hx.files.written w path data hw.written hwrites
  · intro i hi
    rcases hended i with ⟨hphase', -⟩ | ⟨-, hout⟩
    · have howns : (phase i).Owns := by
        rw [hphase']
        exact trivial
      exact absurd (hx.tables.lone i w howns hw) hi
    · exact hout
  · intro source hsource
    exact hx.tables.gone w source hcleared hsource
  · intro i source hi hsource
    obtain ⟨r, hr⟩ := (hoffers i).exists_record hsource
    refine ⟨r, hr, ?_⟩
    rw [hrest source (hc.ne_of_source hsource) fun hw' => hi (hc.apart i w source hsource hw')]
    exact hr

end Contest

variable [DecidableEq ι]

/-- Bids that begin at a site, after a schedule of turns. -/
def Bid.race (bids : ι → Bid) (n : TableName) (s₀ : Site) (schedule : List ι) :
    Interleaving Backend ι (Except CatalogError Table) Site :=
  Interleaving.after Site.answer ⟨s₀, fun i => (bids i).program n⟩ schedule

/-- **A free name is taken by exactly one call**, whatever the schedule.  When all calls have
returned, one of them has registered its table under the name and has returned it, if it can be
read; all others have returned that the name is taken and have moved nothing.  And a call has
returned after five turns at the latest. -/
theorem Contest.one_takes [Nonempty ι] (hc : Contest bids n s₀) (schedule : List ι) :
    (∀ outcome, (∀ i, (Bid.race bids n s₀ schedule).programs i = .done (outcome i)) →
      ∃ w o, Taken bids n s₀ (Bid.race bids n s₀ schedule).state outcome w o) ∧
    ∀ i, 5 ≤ schedule.count i →
      ∃ r, (Bid.race bids n s₀ schedule).programs i = .done r := by
  choose offers hoffers using hc.offers
  obtain ⟨phase, hstart⟩ := hc.start hoffers
  obtain ⟨phase', hstanding, hleft⟩ := hstart.after hc hoffers schedule
  constructor
  · intro outcome hdone
    obtain ⟨w, hw⟩ := hstanding.exists_taken hc hoffers hdone
    exact ⟨w, offers w, hw⟩
  · intro i hturns
    have hnone : (phase' i).left (bids i) = 0 := by
      have hi := hleft i
      have hmost := (phase i).left_le (bids i)
      omega
    exact (hstanding.progress i).exists_done hnone

end Contest

/-! ### A creation and a rename that want one name -/

theorem isSegment_moved : IsSegment "moved" := by decide

/-- The name that both calls want. -/
def wantedName : TableName := ⟨⟨"db", isSegment_db⟩, "moved", isSegment_moved⟩

/-- A new table is to have the name, and so is the one table of a site. -/
def twoBids : Fin 2 → Bid
  | 0 => .create Site.lake Site.secondIds Site.bareTable
  | 1 => .rename Site.lake Site.firstName

theorem filed_firstSite : Site.firstSite.metastore.Filed := by
  have hcalls : Site.firstSite.metastore = (Memory.withPageSize 100).afterCalls
      [.createDatabase (.ofProperties "db" .empty), .createTable "db" Site.firstRecord] := rfl
  rw [hcalls]
  exact (Memory.inventory_afterCalls (Memory.filed_withPageSize 100) _).2

theorem contest_twoBids : Contest twoBids wantedName Site.firstSite where
  filed := filed_firstSite
  space := by decide
  free := rfl
  short := by decide
  offers
    | 0 => by
      have hplace : (Site.lake.tableLocation wantedName Site.bareTable).perform Site.answer
          Site.firstSite = (some (.ok "s3://w/db.db/moved"), Site.firstSite) := rfl
      have hpath : Objects.pathOf
          (Metadata.fileLocation Site.secondIds.fileId "s3://w/db.db/moved")
          = .ok "db.db/moved/metadata/00000-22222222-2222-2222-2222-222222222222.metadata.json" :=
        by decide +kernel
      exact ⟨_, .create hplace hpath⟩
    | 1 => ⟨_, .rename firstTable_isAt.record firstTable_isAt.location⟩
  apart := by
    intro i j source hi hj
    match i, j with
    | 0, _ => cases hi
    | 1, 0 => cases hj
    | 1, 1 => rfl

theorem readable_twoBids : Readable twoBids wantedName Site.firstSite where
  created := by
    intro i c fresh creation hbid
    match i with
    | 0 =>
      cases hbid
      decide
    | 1 => cases hbid
  moved := by
    intro i o source hsource ho
    match i with
    | 0 => cases hsource
    | 1 =>
      cases ho with
      | rename hrecord hfile =>
          cases firstTable_isAt.record.symm.trans hrecord
          cases firstTable_isAt.location.symm.trans hfile
          exact ⟨_, _, _, firstTable_isAt.path, firstTable_isAt.content, firstTable_isAt.metadata⟩

/-- The calls take their turns alternately until both have returned. -/
theorem one_takes_twoBids :
    Contest twoBids wantedName Site.firstSite ∧ ∃ outcome w o,
      (∀ i, (Bid.race twoBids wantedName Site.firstSite
        [0, 1, 0, 1, 0, 1, 0, 1, 0, 1]).programs i = .done (outcome i)) ∧
      Taken twoBids wantedName Site.firstSite (Bid.race twoBids wantedName Site.firstSite
        [0, 1, 0, 1, 0, 1, 0, 1, 0, 1]).state outcome w o ∧
      ∃ m, outcome w = .ok ⟨wantedName, m, o.file, (twoBids w).catalog⟩ := by
  obtain ⟨htaken, hended⟩ :=
    Contest.one_takes contest_twoBids [0, 1, 0, 1, 0, 1, 0, 1, 0, 1]
  have hturns : ∀ i : Fin 2, 5 ≤ List.count i [0, 1, 0, 1, 0, 1, 0, 1, 0, 1] := by decide
  choose outcome hdone using fun i => hended i (hturns i)
  obtain ⟨w, o, hw⟩ := htaken outcome hdone
  exact ⟨contest_twoBids, outcome, w, o, hdone, hw, hw.ok readable_twoBids⟩

/-! ### Names that nobody gets, and tables that nobody is given -/

/-- A single creation under a free name that is too long is refused, and a single rename of a table
whose metadata file is not there takes the name and fails. -/
theorem nobody_returns_table :
    (Catalog.oneTable.record? longName = none ∧
      (Bid.race (fun _ : Fin 1 => .create Site.lake Site.firstIds Site.placedTable) longName
        ⟨Catalog.oneTable, .empty⟩ [0, 0]).programs 0
      = .done (.error (.metastore "create_table" (Memory.invalidName "Table" longName.table)))) ∧
    Catalog.oneTable.record? Catalog.newName = none ∧
      Catalog.oneTable.Registers Catalog.oldName "s3://bucket/m.json" ∧
      (Bid.race (fun _ : Fin 1 => .rename Site.lake Catalog.oldName) Catalog.newName
        ⟨Catalog.oneTable, .empty⟩ [0, 0, 0, 0, 0]).programs 0
      = .done (.error (.objectStore "s3://bucket/m.json" (.notFound "m.json"))) := by
  refine ⟨⟨by decide +kernel, ?_⟩, rfl, Catalog.oneTable_registers, rfl⟩
  -- After the first turn the metadata file is written, and the record is left.
  have hwritten : (Bid.race (fun _ : Fin 1 => .create Site.lake Site.firstIds Site.placedTable)
      longName ⟨Catalog.oneTable, .empty⟩ [0]).programs 0
      = (Action.call (.createTable longName.space.text (.ofMetadata longName.table
          (Metadata.fileLocation Site.firstIds.fileId "s3://w/t") .empty))
          (Catalog.createTableFailure longName) >>= fun _ =>
        Site.lake.loadTable longName).run := rfl
  obtain ⟨hrefused, hfailure⟩ := Site.call_createTable_long
    (s := (Bid.race (fun _ : Fin 1 => .create Site.lake Site.firstIds Site.placedTable) longName
      ⟨Catalog.oneTable, .empty⟩ [0]).state)
    (r := .ofMetadata longName.table (Metadata.fileLocation Site.firstIds.fileId "s3://w/t") .empty)
    rfl not_short_longName
  have hturn := Interleaving.programs_step_call_error hwritten hrefused
  rw [hfailure] at hturn
  exact hturn

end LakeCatalog
