import LakeCatalog.Proofs.Loads
import LakeCatalog.Proofs.NamespaceRefinement

/-!
# Tables of a catalog, and of a registry

What is done with a table at a site has the effect that the registry in its metastore says, and the
outcome too, but for one thing: an operation that ends with loading a table has the error of this
load when the metadata file of the table cannot be read.

* `Site.Holds` — the object at a location;
* `Site.Hands`, `Site.Shows` — how a receipt is handed out, and what is seen of a request;
* `perform_loadTable` — a registered table is loaded from where the registry says;
* `createTable_matches`, `dropTable_matches`, `renameTable_matches` — the operations.
-/

namespace LakeCatalog

open Metastore (Call Failure Memory DatabaseState)

namespace Registry

/-! ### What a registry says, and what the code computes -/

theorem asks_iff {asked : Option String} {location : String} :
    Asks asked location ↔ Catalog.usableLocation asked = some location := by
  cases asked with
  | none => simp [Asks, Catalog.usableLocation]
  | some text =>
      have hasks : Asks (some text) location ↔ Stripped text location ∧ location ≠ "" := by
        simp [Asks]
      rw [hasks, stripped_iff, Catalog.usableLocation_some]
      by_cases hempty : Text.trimRight '/' text = ""
      · rw [if_pos hempty, hempty]
        simp
      · rw [if_neg hempty, Option.some.injEq, eq_comm (a := location)]
        refine and_iff_left_of_imp ?_
        rintro rfl
        exact hempty

theorem fileOf_fileLocation (fileId : Uuid) (location : String) :
    FileOf fileId location (Metadata.fileLocation fileId location) :=
  ⟨_, stripped_trimRight location, rfl⟩

theorem misses_iff {location : String} {e : CatalogError} :
    Misses location e ↔ Objects.pathOf location = .error e := by
  unfold Objects.pathOf ObjectPath.ofLocation ObjectPath.segments
  constructor
  · intro h
    cases h with
    | notUrl h =>
        rw [h]
        rfl
    | noObject h hempty =>
        rw [h]
        simp only [Except.map, hempty]
        rfl
  · intro h
    cases hparse : Url.parse location with
    | error fault =>
        rw [hparse] at h
        cases h
        exact .notUrl hparse
    | ok url =>
        rw [hparse] at h
        cases hparts : url.path.parts with
        | nil =>
            simp only [Except.map, hparts] at h
            cases h
            exact .noObject hparse hparts
        | cons part parts =>
            simp only [Except.map, hparts] at h
            cases h

theorem not_misses {location path : String} (h : Objects.pathOf location = .ok path)
    (e : CatalogError) : ¬Misses location e := by
  rw [misses_iff, h]
  exact nofun

end Registry

namespace Site

variable {s s' : Site} {c : Catalog} {n : TableName}

/-! ### What is seen of a request -/

/-- The object at a location. -/
def Holds (s : Site) (location : String) (data : ByteArray) : Prop :=
  ∃ path, Objects.pathOf location = .ok path ∧ s.objects.get? path = some data

theorem Holds.unique {location : String} {data data' : ByteArray} (h : s.Holds location data)
    (h' : s.Holds location data') : data = data' := by
  obtain ⟨path, hpath, hdata⟩ := h
  obtain ⟨path', hpath', hdata'⟩ := h'
  cases hpath.symm.trans hpath'
  exact Option.some.inj (hdata.symm.trans hdata')

/-- How a receipt is handed out: as it is, except that for a table whose metadata file cannot be
read there is the error of reading it. -/
inductive Hands (s : Site) : Receipt → Except CatalogError Receipt → Prop
  | done : Hands s .done (.ok .done)
  | updated (summary : UpdateSummary) : Hands s (.updated summary) (.ok (.updated summary))
  | opened {n : TableName} {location : String} {data : ByteArray} (hdata : s.Holds location data)
      (hread : (Metadata.read? data).isSome = true) :
      Hands s (.table n location) (.ok (.table n location))
  | unread {n : TableName} {location : String} {data : ByteArray} (hdata : s.Holds location data)
      (hread : Metadata.read? data = none) :
      Hands s (.table n location) (.error (.metadata location))

/-- The receipt for a table is handed out if and only if its metadata file can be read. -/
theorem Hands.eq_ok_iff {location : String} {data : ByteArray}
    {outcome : Except CatalogError Receipt} (h : s.Hands (.table n location) outcome)
    (hdata : s.Holds location data) :
    outcome = .ok (.table n location) ↔ (Metadata.read? data).isSome = true := by
  cases h with
  | opened hdata' hread =>
      rw [hdata.unique hdata']
      exact iff_of_true rfl hread
  | unread hdata' hread =>
      rw [hdata.unique hdata', hread]
      exact iff_of_false nofun nofun

/-- What is seen of a request at a site, where a registry says what it comes to.  An error of the
registry leaves the whole metastore as it was. -/
inductive Shows (s : Site) : Except CatalogError (Registry × Receipt) →
    Option (Except CatalogError Receipt) × Site → Prop
  | refused {e : CatalogError} {s' : Site} (h : s'.metastore = s.metastore) :
      Shows s (.error e) (some (.error e), s')
  | done {g : Registry} {receipt : Receipt} {outcome : Except CatalogError Receipt} {s' : Site}
      (hregistry : s'.metastore.registry = g) (h : s'.Hands receipt outcome) :
      Shows s (.ok (g, receipt)) (some outcome, s')

/-- An operation that loads no table shows what the registry says. -/
theorem Matches.shows {α : Type} {expected : Except CatalogError (Registry × α)}
    {actual : Option (Except CatalogError α) × Site} (h : s.Matches expected actual)
    {f : α → Receipt} (hf : ∀ x, actual.2.Hands (f x) (.ok (f x))) :
    s.Shows (expected.map fun r => (r.1, f r.2)) (received f actual) := by
  obtain ⟨outcome, s'⟩ := actual
  cases expected with
  | ok r =>
      obtain ⟨rfl, hg⟩ := h
      exact .done hg (hf r.2)
  | error e =>
      obtain ⟨rfl, hm⟩ := h
      exact .refused hm

theorem Matches.shows_done {expected : Except CatalogError Registry}
    {actual : Option (Except CatalogError Unit) × Site}
    (h : s.Matches (expected.map (·, ())) actual) :
    s.Shows (expected.map (·, .done)) (received (fun _ => .done) actual) := by
  have hshows := h.shows (f := fun _ => .done) fun _ => .done
  cases expected with
  | ok g => exact hshows
  | error e => exact hshows

/-! ### Loading -/

/-- A registered table is loaded from where the registry says, if its metadata can be read. -/
theorem perform_loadTable (hs : s.Sound) (c : Catalog) {r : TableRecord}
    (hr : s.metastore.record? n = some r) :
    ∃ outcome, (c.loadTable n).perform answer s = (some outcome, s) ∧
      s.Hands (.table n r.pointer) (outcome.map Table.receipt) := by
  obtain ⟨location, path, hlies, hheld⟩ := hs.exists_liesAt hr
  obtain ⟨data, hdata⟩ := Option.isSome_iff_exists.1 hheld
  refine ⟨_, perform_loadTable_of_liesAt (hs.table hr).short hlies hdata, ?_⟩
  obtain ⟨r', hr', hlocation, hpath⟩ := hlies
  cases hr.symm.trans hr'
  have hholds : s.Holds location data := ⟨path, hpath, hdata⟩
  rw [TableRecord.pointer_of_metadataLocation hlocation]
  unfold reading
  cases hread : Metadata.read? data with
  | some m => exact .opened hholds (by rw [hread]; rfl)
  | none => exact .unread hholds hread

/-! ### Creating a table -/

theorem perform_tableLocation (hs : s.Sound) (c : Catalog) (n : TableName)
    (creation : TableCreation) :
    ∃ place, s.metastore.registry.Places c n creation.location place ∧
      (c.tableLocation n creation).perform answer s = (some place, s) := by
  unfold Catalog.tableLocation
  cases hasked : Catalog.usableLocation creation.location with
  | some location => exact ⟨_, .asked (Registry.asks_iff.2 hasked), rfl⟩
  | none =>
      have hunasked : ∀ location, ¬Registry.Asks creation.location location := by
        intro location h
        cases hasked.symm.trans (Registry.asks_iff.1 h)
      suffices ∃ place, Registry.Defaults c n (s.metastore.registry.get? n.space.text) place ∧
          (c.defaultLocation n).perform answer s = (some place, s) by
        obtain ⟨place, hplace, hperform⟩ := this
        exact ⟨place, .unasked hunasked hplace, hperform⟩
      unfold Catalog.defaultLocation
      rw [Memory.get?_registry]
      cases hd : s.metastore.databases.get? n.space.text with
      | none =>
          obtain ⟨f, hget, hf⟩ := getDatabase_error hd "get_database"
          refine ⟨_, .unknown, ?_⟩
          rw [← hf]
          exact Action.perform_bind_error answer (perform_loadNamespace_error hget)
      | some d =>
          have hload := perform_loadNamespace_ok (hs.getDatabase_ok hd)
          simp only [Action.perform_bind_ok answer hload]
          cases hlocation : (d.record.properties.get? locationKey).filter (· ≠ "") with
          | some location =>
              obtain ⟨hfound, hsome⟩ := Option.filter_eq_some_iff.1 hlocation
              have hproperty : d.shelf.properties.get? locationKey = some location := hfound
              exact ⟨_, .inNamespace hproperty (of_decide_eq_true hsome)
                (stripped_trimRight location), rfl⟩
          | none =>
              have hnone : ∀ location, d.shelf.properties.get? locationKey = some location →
                  location = "" := by
                intro location h
                simpa using Option.filter_eq_none_iff.1 hlocation location h
              cases hwarehouse : c.warehouse with
              | some warehouse =>
                  exact ⟨_, .inWarehouse hnone hwarehouse (stripped_trimRight warehouse), rfl⟩
              | none => exact ⟨_, .nowhere hnone hwarehouse, rfl⟩

/-- A new table is registered, and what is written is the metadata of the new table. -/
theorem createTable_matches (hs : s.Sound) (c : Catalog) (fresh : Fresh) (n : TableName)
    (creation : TableCreation) :
    ∃ expected, s.metastore.registry.Creates c fresh n creation expected ∧
      s.Shows (expected.map fun r => (r.1, .table n r.2))
        (s.step c (.createTable fresh n creation)) ∧
      ∀ g file, expected = .ok (g, file) → ∃ location,
        (s.step c (.createTable fresh n creation)).2.Holds file
          (creation.content fresh location) := by
  rw [step_createTable]
  obtain ⟨place, hplace, hlocation⟩ := perform_tableLocation hs c n creation
  cases place with
  | error e =>
      refine ⟨_, .unplaced hplace, ?_, nofun⟩
      rw [Catalog.createTable_eq, Action.perform_bind_error answer hlocation]
      exact .refused rfl
  | ok location =>
      have hfile := Registry.fileOf_fileLocation fresh.fileId location
      cases hpath : Objects.pathOf (Metadata.fileLocation fresh.fileId location) with
      | error e =>
          have hwrite :=
            Catalog.perform_writeMetadata_error answer fresh creation location hpath s
          refine ⟨_, .unaddressed hplace hfile (Registry.misses_iff.2 hpath), ?_, nofun⟩
          rw [Catalog.createTable_eq, Action.perform_bind_ok answer hlocation]
          unfold Catalog.createAt
          rw [Action.perform_bind_error answer hwrite]
          exact .refused rfl
      | ok path =>
          refine ⟨_, .placed hplace hfile (Registry.not_misses hpath), ?_⟩
          have hpointer := TableRecord.pointer_of_metadataLocation
            (Catalog.metadataLocation_ofMetadata n n.table
              (Metadata.fileLocation fresh.fileId location) creation.properties)
          have hagrees := Memory.createTable_agrees s.metastore (n := n)
            (r := .ofMetadata n.table (Metadata.fileLocation fresh.fileId location)
              creation.properties) rfl
          rw [hpointer] at hagrees
          cases hcreate : s.metastore.createTable n.space.text (.ofMetadata n.table
              (Metadata.fileLocation fresh.fileId location) creation.properties) with
          | error f =>
              rw [hagrees.of_error hcreate, perform_createTable_error hlocation hpath hcreate]
              exact ⟨.refused rfl, nofun⟩
          | ok m' =>
              -- The table is loaded at the site with its file and its record, which is sound since
              -- this is where the request ends.
              have hs' : Sound ⟨m', s.objects.insert path (creation.content fresh location)⟩ := by
                rw [← step_createTable_ok hlocation hpath hcreate]
                exact sound_step hs c _
              have hrecord := (Memory.gains_of_createTable rfl hcreate).record?_self
              obtain ⟨outcome, hload, hhands⟩ := perform_loadTable hs' c hrecord
              have hsame : TableRecord.pointer _ = Metadata.fileLocation fresh.fileId location :=
                hpointer
              rw [hagrees.of_ok hcreate, perform_createTable_ok hlocation hpath hcreate, hload]
              rw [← hsame]
              refine ⟨.done rfl hhands, ?_⟩
              rintro _ _ ⟨⟩
              exact ⟨location, path, hsame ▸ hpath, OrderedMap.get?_insert_self _ _ _⟩

/-! ### Dropping and renaming a table -/

theorem dropTable_matches (s : Site) (n : TableName) :
    s.Matches ((s.metastore.registry.dropTable n).map (·, ()))
      ((Catalog.dropTable n).perform answer s) := by
  rw [perform_dropTable]
  exact matches_settle (Memory.deleteTable_agrees s.metastore n)

/-- A table that is not there is not found, or its name is refused. -/
theorem getTable_error (hr : s.metastore.record? n = none) :
    ∃ f, s.metastore.getTable n.space.text n.table = .error f ∧
      Catalog.tableFailure n "get_table" f
        = if ¬Registry.Short n.table then
            .metastore "get_table" (Memory.invalidName "Table" n.table)
          else .noSuchTable n.space.text n.table := by
  unfold Memory.getTable
  by_cases hshort : Registry.Short n.table
  · rw [Memory.checkName_of_short n.isSegment hshort, if_neg (not_not_intro hshort)]
    unfold Memory.record? at hr
    simp only [bind, Except.bind]
    cases hd : s.metastore.databases.get? n.space.text with
    | none =>
        rw [Memory.database_of_get?_none hd]
        exact ⟨_, rfl, rfl⟩
    | some d =>
        rw [hd] at hr
        rw [Memory.database_of_get? hd]
        simp only [Option.bind_some] at hr
        simp only [hr]
        exact ⟨_, rfl, rfl⟩
  · rw [Memory.checkName_of_long n.isSegment hshort, if_pos hshort]
    exact ⟨_, rfl, rfl⟩

theorem renameTable_matches_none (hr : s.metastore.record? n = none) (target : TableName) :
    s.Shows ((s.metastore.registry.renameTable n target).map fun r => (r.1, .table target r.2))
      (received Table.receipt ((c.renameTable n target).perform answer s)) := by
  obtain ⟨f, hget, hf⟩ := getTable_error hr
  have hrecord : (Catalog.tableRecord n).perform answer s
      = (some (.error (Catalog.tableFailure n "get_table" f)), s) := by
    refine Action.perform_call_error ?_
    show (s.metastore.getTable n.space.text n.table, s) = _
    rw [hget]
  unfold Registry.renameTable Catalog.renameTable
  rw [Memory.find?_registry, hr, Action.perform_bind_error answer hrecord, hf]
  by_cases hshort : Registry.Short n.table
  · simp only [Option.map_none, if_neg (not_not_intro hshort)]
    exact .refused rfl
  · simp only [Option.map_none, if_pos hshort]
    exact .refused rfl

/-- The source of a rename is still there once the target is registered. -/
theorem not_drop_error {target : TableName} {r : TableRecord} {s₁ s₂ : Site} {f : Failure}
    (hr : s.metastore.record? n = some r)
    (hcreate : Handler.call answer (.createTable target.space.text (r.renamed target.table)) s
      = (.ok (), s₁)) :
    Handler.call answer (.deleteTable n.space.text n.table) s₁ ≠ (.error f, s₂) := by
  intro hdrop
  have hgains := (gains_of_call (n := target) rfl hcreate).1
  have hne : n ≠ target := by
    rintro rfl
    rw [hgains.absent] at hr
    cases hr
  obtain ⟨m', hdelete⟩ := Memory.exists_deleteTable ((hgains.record?_of_ne hne).trans hr)
  have hfailed := (Memory.eq_of_changed_error (respond_of_call hdrop).1).1
  rw [hdelete] at hfailed
  cases hfailed

theorem renameTable_matches_some (hs : s.Sound) {r : TableRecord}
    (hr : s.metastore.record? n = some r) (target : TableName) :
    s.Shows ((s.metastore.registry.renameTable n target).map fun r => (r.1, .table target r.2))
      (received Table.receipt ((c.renameTable n target).perform answer s)) := by
  obtain ⟨location, path, hlocation, -, -⟩ := (hs.table hr).stored
  have hagrees := Memory.createTable_agrees s.metastore (n := target)
    (r := r.renamed target.table) rfl
  have hpointer : (r.renamed target.table).pointer = r.pointer := rfl
  rw [hpointer] at hagrees
  have hfound : ∀ {r' : TableRecord} {s₁ : Site}, Handler.call answer
      (.getTable n.space.text n.table) s = (.ok r', s₁) → r = r' ∧ s = s₁ := by
    intro r' s₁ h
    obtain ⟨hr', hsame⟩ := found_of_call h
    rw [hr, Option.some.injEq] at hr'
    exact ⟨hr', hsame.symm⟩
  obtain ⟨outcome, s', hperform, hrun⟩ := Catalog.exists_renameRun answer c n target s
  have hs' := sound_of_renameRun hs hrun
  unfold Registry.renameTable
  rw [Memory.find?_registry, hr, hperform]
  simp only [Option.map_some]
  cases hrun with
  | unknown hget =>
      have hfailed : s.metastore.getTable n.space.text n.table = .error _ := congrArg Prod.fst hget
      rw [Memory.getTable_of_record? hr (hs.table hr).short] at hfailed
      cases hfailed
  | foreign hget hloc =>
      obtain ⟨rfl, rfl⟩ := hfound hget
      rw [hlocation n] at hloc
      cases hloc
  | refused hget hloc hcreate =>
      obtain ⟨rfl, rfl⟩ := hfound hget
      have hsame := eq_of_call_error hcreate
      have hrefused := (Memory.eq_of_changed_error (respond_of_call hcreate).1).1
      rw [hagrees.of_error hrefused, hsame]
      exact .refused rfl
  | moved hget hloc hcreate hdrop hload =>
      obtain ⟨rfl, rfl⟩ := hfound hget
      have hcreated := Memory.eq_of_changed_ok (respond_of_call hcreate).1
      obtain ⟨hgains, ho⟩ := gains_of_call (n := target) rfl hcreate
      obtain ⟨hloses, ho'⟩ := loses_of_call hdrop
      have hne : target ≠ n := by
        rintro rfl
        rw [hgains.absent] at hr
        cases hr
      -- Loading is the end of it, at the site at which the source is dropped.
      obtain ⟨_, hload', -⟩ := perform_of_conforms (Catalog.loadTable_conforms c target) _
      cases hload'.symm.trans hload
      obtain ⟨_, hloaded, hhands⟩ := perform_loadTable hs' c
        ((hloses.record?_of_ne hne).trans hgains.record?_self)
      cases hloaded.symm.trans hload
      rw [hagrees.of_ok hcreated]
      exact .done (Memory.registry_of_loses hloses) hhands
  -- Without faults the drop of the source cannot fail, so nothing is ever rolled back.
  | rolledBack hget hloc hcreate hdrop hback =>
      obtain ⟨rfl, rfl⟩ := hfound hget
      exact absurd hdrop (not_drop_error hr hcreate)
  | stranded hget hloc hcreate hdrop hback =>
      obtain ⟨rfl, rfl⟩ := hfound hget
      exact absurd hdrop (not_drop_error hr hcreate)

theorem renameTable_matches (hs : s.Sound) (source target : TableName) :
    s.Shows ((s.metastore.registry.renameTable source target).map
        fun r => (r.1, .table target r.2))
      (received Table.receipt ((c.renameTable source target).perform answer s)) := by
  cases hr : s.metastore.record? source with
  | none => exact renameTable_matches_none hr target
  | some r => exact renameTable_matches_some hs hr target

end Site

end LakeCatalog
