import LakeCatalog.Proofs.StoredMetadata
import LakeCatalog.Proofs.TableRefinement

/-!
# A catalog is a registry

Seen from outside, a catalog over a metastore and objects in memory is nothing but the registry in
its metastore: each request has the effect that the registry says, and the outcome.  There is one
exception.  A creation and a rename end with loading the table, and when its metadata file cannot be
read, they have done what was asked for and yet return the error of this load.  As long as no schema
is nested deeper than the reader of metadata files can take, this does not happen.

* `Site.Follows`, `exists_follows` — what one request does, next to what the registry says;
* `exists_runs` — a run of requests, next to a run of the registry;
* `Request.Shallow`, `Site.Legible`, `legible_step` — requests after which every file can be read;
* `run_refines` — a catalog is a registry;
* `error_registers` — a creation that returns an error and registers the table.
-/

namespace LakeCatalog

open Metastore (Call Failure Memory)

namespace Site

variable {s s' : Site} {c : Catalog}

/-! ### One request -/

/-- What a request does at a site, next to what the registry in its metastore says. -/
structure Follows (s : Site) (c : Catalog) (request : Request)
    (expected : Except CatalogError (Registry × Receipt)) : Prop where
  performs : s.metastore.registry.Performs c request expected
  shows : s.Shows expected (s.step c request)
  /-- A creation that the registry agrees to has its receipt exactly if its schema can be read
  back. -/
  creates : ∀ fresh n creation g receipt, request = .createTable fresh n creation →
    expected = .ok (g, receipt) →
      ((s.step c request).1 = some (.ok receipt) ↔ creation.schema.Shallow)

/-- A request that is no creation. -/
theorem Follows.of_shows {request : Request} {expected : Except CatalogError (Registry × Receipt)}
    (hperforms : s.metastore.registry.Performs c request expected)
    (hshows : s.Shows expected (s.step c request))
    (hother : ∀ fresh n creation, request ≠ .createTable fresh n creation) :
    s.Follows c request expected :=
  ⟨hperforms, hshows, fun fresh n creation _ _ h => absurd h (hother fresh n creation)⟩

theorem exists_follows_createTable (hs : s.Sound) (c : Catalog) (fresh : Fresh) (n : TableName)
    (creation : TableCreation) :
    ∃ expected, s.Follows c (.createTable fresh n creation) expected := by
  obtain ⟨o, hcreates, hshows, hholds⟩ := createTable_matches hs c fresh n creation
  refine ⟨_, .createTable hcreates, hshows, ?_⟩
  rintro _ _ _ g receipt ⟨⟩ hexpected
  cases o with
  | error e => cases hexpected
  | ok r =>
      cases hexpected
      obtain ⟨location, hholds⟩ := hholds _ _ rfl
      generalize s.step c (.createTable fresh n creation) = actual at hshows hholds ⊢
      cases hshows with
      | done _ hhands =>
          rw [Option.some.injEq, hhands.eq_ok_iff hholds, TableCreation.read?_content]
          by_cases hshallow : creation.schema.Shallow <;> simp [hshallow]

/-- **One request** does what the registry says. -/
theorem exists_follows (hs : s.Sound) (hbudget : 0 < c.pageBudget) (request : Request) :
    ∃ expected, s.Follows c request expected := by
  cases request with
  | createNamespace n properties =>
      refine ⟨_, .of_shows (.createNamespace n properties) ?_ nofun⟩
      rw [step_createNamespace]
      exact (createNamespace_matches s n properties).shows_done
  | updateNamespace n removals updates =>
      obtain ⟨o, hupdates, hmatches⟩ := updateNamespace_matches hs n removals updates
      refine ⟨_, .of_shows (.updateNamespace hupdates) ?_ nofun⟩
      rw [step_updateNamespace]
      exact hmatches.shows .updated
  | dropNamespace n =>
      refine ⟨_, .of_shows (.dropNamespace n) ?_ nofun⟩
      rw [step_dropNamespace]
      exact (dropNamespace_matches hs hbudget n).shows_done
  | createTable fresh n creation => exact exists_follows_createTable hs c fresh n creation
  | dropTable n =>
      refine ⟨_, .of_shows (.dropTable n) ?_ nofun⟩
      rw [step_dropTable]
      exact (dropTable_matches s n).shows_done
  | renameTable source target =>
      refine ⟨_, .of_shows (.renameTable source target) ?_ nofun⟩
      rw [step_renameTable]
      exact renameTable_matches hs source target

theorem Shows.registry {expected : Except CatalogError (Registry × Receipt)}
    {actual : Option (Except CatalogError Receipt) × Site} (h : s.Shows expected actual) :
    actual.2.metastore.registry = s.metastore.registry.left expected := by
  cases h with
  | refused hm => exact congrArg Memory.registry hm
  | done hregistry _ => exact hregistry

/-- **A run of requests** leaves the registry that a run of the registry leaves. -/
theorem exists_runs (hs : s.Sound) (hbudget : 0 < c.pageBudget) (requests : List Request) :
    ∃ answers, Registry.Runs c s.metastore.registry requests answers
      (s.after c requests).metastore.registry := by
  induction requests generalizing s with
  | nil => exact ⟨[], .nil _⟩
  | cons request requests ih =>
      obtain ⟨expected, hfollows⟩ := exists_follows hs hbudget request
      -- The rest of the run begins where the first request ends, which is as sound.
      obtain ⟨answers, hrest⟩ := ih (sound_step hs c request)
      rw [hfollows.shows.registry] at hrest
      exact ⟨_, .cons hfollows.performs hrest⟩

end Site

/-! ### Requests after which every file can be read -/

/-- A request whose schema, if it has one, the reader of metadata files can take. -/
def Request.Shallow : Request → Prop
  | .createTable _ _ creation => creation.schema.Shallow
  | _ => True

instance : DecidablePred Request.Shallow := fun request =>
  match request with
  | .createTable _ _ creation => inferInstanceAs (Decidable creation.schema.Shallow)
  | .createNamespace .. => instDecidableTrue
  | .updateNamespace .. => instDecidableTrue
  | .dropNamespace _ => instDecidableTrue
  | .dropTable _ => instDecidableTrue
  | .renameTable .. => instDecidableTrue

namespace Site

variable {s s' : Site} {c : Catalog}

/-- Every object is a metadata file that can be read. -/
def Legible (s : Site) : Prop :=
  ∀ path data, s.objects.get? path = some data → (Metadata.read? data).isSome = true

theorem legible_start (pageSize : Nat) : (start pageSize).Legible := by
  intro path data h
  cases h

theorem Legible.of_objects (hl : s.Legible) (h : s'.objects = s.objects) : s'.Legible := by
  intro path data hdata
  rw [h] at hdata
  exact hl path data hdata

theorem Legible.insertObject (hl : s.Legible) {data : ByteArray}
    (hdata : (Metadata.read? data).isSome = true) (path : String) :
    Legible ⟨s.metastore, s.objects.insert path data⟩ := by
  intro path' data' h
  rw [OrderedMap.get?_insert] at h
  by_cases hpath : path = path'
  · rw [if_pos hpath, Option.some.injEq] at h
    rw [← h]
    exact hdata
  · rw [if_neg hpath] at h
    exact hl path' data' h

theorem objects_settle (s : Site) (result : Metastore.Outcome Memory)
    (onError : Failure → CatalogError) : (s.settle result onError).2.objects = s.objects := by
  cases result with
  | ok m => rfl
  | error f => rfl

theorem objects_updateNamespace (s : Site) (n : NamespaceName) (removals : KeySet)
    (updates : Properties) :
    ((Catalog.updateNamespace n removals updates).perform answer s).2.objects = s.objects := by
  by_cases hoverlap : Catalog.overlap removals updates = []
  · cases hget : s.metastore.getDatabase n.text with
    | error f => rw [perform_updateNamespace_error hoverlap hget]
    | ok record =>
        rw [perform_updateNamespace_ok hoverlap hget]
        split <;> rfl
  · rw [perform_updateNamespace_overlap hoverlap]

theorem objects_dropNamespace (s : Site) (c : Catalog) (n : NamespaceName) :
    ((c.dropNamespace n).perform answer s).2.objects = s.objects := by
  obtain ⟨o, hwalk⟩ := run_walkTables c n Listing.firstConsumer () s
  rw [perform_dropNamespace hwalk]
  cases o with
  | none => rfl
  | some first =>
      cases first with
      | none => exact objects_settle s _ _
      | some result => cases result <;> rfl

theorem objects_of_renameRun {source target : TableName} {outcome : Except CatalogError Table}
    (h : Catalog.RenameRun answer c source target s outcome s') : s'.objects = s.objects := by
  have hcall : ∀ {call : Call} {reply : call.Reply} {s₁ s₂ : Site},
      Handler.call answer call s₁ = (reply, s₂) → s₂.objects = s₁.objects :=
    fun h => (respond_of_call h).2
  cases h with
  | unknown hget => exact hcall hget
  | foreign hget hloc => exact hcall hget
  | refused hget hloc hcreate => exact (hcall hcreate).trans (hcall hget)
  | moved hget hloc hcreate hdrop hload =>
      obtain ⟨_, hload', -⟩ := perform_of_conforms (Catalog.loadTable_conforms c target) _
      have hunchanged := hload'.symm.trans hload
      cases hunchanged
      exact (hcall hdrop).trans ((hcall hcreate).trans (hcall hget))
  | rolledBack hget hloc hcreate hdrop hback =>
      exact (hcall hback).trans ((hcall hdrop).trans ((hcall hcreate).trans (hcall hget)))
  | stranded hget hloc hcreate hdrop hback =>
      exact (hcall hback).trans ((hcall hdrop).trans ((hcall hcreate).trans (hcall hget)))

/-- One request keeps all objects legible. -/
theorem legible_step (hl : s.Legible) (c : Catalog) {request : Request}
    (hshallow : request.Shallow) : (s.step c request).2.Legible := by
  cases request with
  | createNamespace n properties =>
      rw [step_createNamespace, perform_createNamespace]
      exact hl.of_objects (objects_settle s _ _)
  | updateNamespace n removals updates =>
      rw [step_updateNamespace]
      exact hl.of_objects (objects_updateNamespace s n removals updates)
  | dropNamespace n =>
      rw [step_dropNamespace]
      exact hl.of_objects (objects_dropNamespace s c n)
  | createTable fresh n creation =>
      obtain ⟨outcome, s', hperform, hrun⟩ :=
        Catalog.exists_createRun answer c fresh n creation s
      rw [step_createTable, hperform]
      rcases effect_of_createRun hrun with ⟨-, rfl, -⟩ | ⟨location, path, -, -, hobjects, -⟩
      · exact hl
      · have hschema : creation.schema.Shallow := hshallow
        have hread : (Metadata.read? (creation.content fresh location)).isSome = true := by
          rw [TableCreation.read?_content, if_pos hschema]
          rfl
        exact (hl.insertObject hread path).of_objects hobjects
  | dropTable n =>
      rw [step_dropTable, perform_dropTable]
      exact hl.of_objects (objects_settle s _ _)
  | renameTable source target =>
      obtain ⟨outcome, s', hperform, hrun⟩ :=
        Catalog.exists_renameRun answer c source target s
      rw [step_renameTable, hperform]
      exact hl.of_objects (objects_of_renameRun hrun)

theorem legible_after (hl : s.Legible) (c : Catalog) {requests : List Request}
    (hshallow : ∀ r ∈ requests, r.Shallow) : (s.after c requests).Legible := by
  induction requests generalizing s with
  | nil => exact hl
  | cons request requests ih =>
      rw [List.forall_mem_cons] at hshallow
      exact ih (legible_step hl c hshallow.1) hshallow.2

/-- Where every file can be read, every receipt is handed out. -/
theorem Hands.eq_ok (hl : s.Legible) {receipt : Receipt} {outcome : Except CatalogError Receipt}
    (h : s.Hands receipt outcome) : outcome = .ok receipt := by
  cases h with
  | done => rfl
  | updated => rfl
  | opened => rfl
  | unread hdata hread =>
      obtain ⟨path, -, hdata⟩ := hdata
      have hreads := hl path _ hdata
      rw [hread] at hreads
      cases hreads

/-- There the outcome is the one that the registry says, -/
theorem Shows.outcome_eq {expected : Except CatalogError (Registry × Receipt)}
    {actual : Option (Except CatalogError Receipt) × Site} (h : s.Shows expected actual)
    (hl : actual.2.Legible) : actual.1 = some (expected.map (·.2)) := by
  cases h with
  | refused => rfl
  | done _ hhands =>
      rw [hhands.eq_ok hl]
      rfl

/-- and an error leaves the whole metastore as it was, and not only the registry in it. -/
theorem Shows.metastore_eq {expected : Except CatalogError (Registry × Receipt)}
    {actual : Option (Except CatalogError Receipt) × Site} (h : s.Shows expected actual)
    (hl : actual.2.Legible) {e : CatalogError} (he : actual.1 = some (.error e)) :
    actual.2.metastore = s.metastore := by
  cases h with
  | refused hm => exact hm
  | done _ hhands =>
      rw [hhands.eq_ok hl] at he
      cases he

/-- A run of requests with shallow schemas has the outcomes of every run of the registry. -/
theorem outcomes_eq (hs : s.Sound) (hl : s.Legible) (hbudget : 0 < c.pageBudget)
    {requests : List Request} (hshallow : ∀ r ∈ requests, r.Shallow)
    {answers : List (Except CatalogError Receipt)} {g : Registry}
    (hruns : Registry.Runs c s.metastore.registry requests answers g) :
    s.outcomes c requests = answers.map some := by
  induction requests generalizing s answers with
  | nil =>
      cases hruns
      rfl
  | cons request requests ih =>
      rw [List.forall_mem_cons] at hshallow
      obtain ⟨expected, hfollows⟩ := exists_follows hs hbudget request
      have hl' := legible_step hl c hshallow.1
      cases hruns with
      | cons hperforms hrest =>
          cases hperforms.unique hfollows.performs
          rw [← hfollows.shows.registry] at hrest
          have houtcomes := ih (sound_step hs c request) hl' hshallow.2 hrest
          unfold outcomes
          rw [hfollows.shows.outcome_eq hl', houtcomes]
          rfl

/-! ### A catalog is a registry -/

/-- **A catalog is a registry.**  Whatever is requested of a catalog over a new metastore and new
objects in memory, one request after the other, there is one run of the empty registry with these
requests, and it leads to the registry in the metastore.  At every point of the run a request does
what the registry says: an error changes nothing in the metastore, and an effect is the one that the
registry says, also when the metadata file of the table cannot be read and the request ends with
this error.  When no schema is nested deeper than the reader of metadata files can take, all
outcomes are those of the registry, and a request with an error leaves the whole metastore as it
was. -/
theorem run_refines (c : Catalog) (hbudget : 0 < c.pageBudget) (pageSize : Nat)
    (requests : List Request) :
    ∃ answers : List (Except CatalogError Receipt),
      (∀ answers' g, Registry.Runs c .empty requests answers' g ↔
        answers' = answers ∧ g = ((start pageSize).after c requests).metastore.registry) ∧
      (∀ done request rest, requests = done ++ request :: rest →
        ∃ expected, ((start pageSize).after c done).Follows c request expected) ∧
      ((∀ r ∈ requests, r.Shallow) →
        (start pageSize).outcomes c requests = answers.map some ∧
        ∀ done request rest e, requests = done ++ request :: rest →
          (((start pageSize).after c done).step c request).1 = some (.error e) →
          (((start pageSize).after c done).step c request).2.metastore
            = ((start pageSize).after c done).metastore) := by
  have hs := sound_start pageSize
  have hl := legible_start pageSize
  obtain ⟨answers, hruns⟩ := exists_runs hs hbudget requests
  refine ⟨answers, ?_, ?_, ?_⟩
  · intro answers' g
    constructor
    · exact fun hruns' => hruns'.unique hruns
    · rintro ⟨rfl, rfl⟩
      exact hruns
  · rintro done request rest -
    exact exists_follows (sound_after c done hs) hbudget request
  · intro hshallow
    refine ⟨outcomes_eq hs hl hbudget hshallow hruns, ?_⟩
    rintro done request rest e rfl he
    rw [List.forall_mem_append, List.forall_mem_cons] at hshallow
    obtain ⟨expected, hfollows⟩ := exists_follows (sound_after c done hs) hbudget request
    exact hfollows.shows.metastore_eq
      (legible_step (legible_after hl c hshallow.1) c hshallow.2.1) he

/-! A table in a namespace with a location, which is renamed to itself and to another name, and
then dropped, and its namespace after it. -/

section FullRun

open TableCreation (filedName filedTable)

/-- The other name of the table. -/
def movedName : TableName := ⟨filedName.space, "u", by decide⟩

/-- The properties of the namespace. -/
def placed : Properties := .ofList [(locationKey, "s3://w/x/")]

/-- Where the metadata file of the table lies. -/
def placedFile : String :=
  "s3://w/x/t/metadata/00000-11111111-1111-1111-1111-111111111111.metadata.json"

/-- The registry with the namespace and some tables. -/
def placedTables (properties : Properties) (tables : List (String × String)) : Registry :=
  OrderedMap.empty.insert "db" ⟨properties, tables.foldl (fun m t => m.insert t.1 t.2) .empty⟩

/-- The requests, of every kind. -/
def fullRun : List Request :=
  [.createNamespace filedName.space .empty, .updateNamespace filedName.space .empty placed,
    .createTable firstIds filedName filedTable, .renameTable filedName filedName,
    .renameTable filedName movedName, .dropNamespace filedName.space, .dropTable movedName,
    .dropNamespace filedName.space, .dropNamespace filedName.space]

/-- What they come to. -/
def fullAnswers : List (Except CatalogError Receipt) :=
  [.ok .done, .ok (.updated { updated := [locationKey] }), .ok (.table filedName placedFile),
    .error (.tableAlreadyExists "db" "t"), .ok (.table movedName placedFile),
    .error (.namespaceNotEmpty "db"), .ok .done, .ok .done, .error (.noSuchNamespace "db")]

/-- Below the location of the namespace, without the slash at its end. -/
theorem creates_placed : (placedTables placed []).Creates lake firstIds filedName filedTable
    (.ok (placedTables placed [("t", placedFile)], placedFile)) := by
  have hunasked : ∀ location, ¬Registry.Asks filedTable.location location := by
    rintro location ⟨text, htext, -⟩
    cases htext
  have hproperty : (Shelf.mk placed .empty).properties.get? locationKey = some "s3://w/x/" := rfl
  have hplace : (placedTables placed []).Places lake filedName filedTable.location
      (.ok ("s3://w/x" ++ "/" ++ "t")) :=
    .unasked hunasked (.inNamespace hproperty (by decide) (stripped_iff.2 rfl))
  have hpath : Objects.pathOf placedFile = .ok
      "x/t/metadata/00000-11111111-1111-1111-1111-111111111111.metadata.json" := by
    decide +kernel
  have hfile : Registry.FileOf firstIds.fileId ("s3://w/x" ++ "/" ++ "t") placedFile :=
    ⟨"s3://w/x/t", stripped_iff.2 rfl, by decide⟩
  exact .placed hplace hfile (Registry.not_misses hpath)

theorem runs_fullRun : Registry.Runs lake .empty fullRun fullAnswers .empty := by
  have hcreate : Registry.Performs lake .empty (.createNamespace filedName.space .empty)
      (.ok (placedTables .empty [], .done)) := .createNamespace _ _
  have hshelf : (placedTables .empty []).get? filedName.space.text = some ⟨.empty, .empty⟩ := rfl
  have hapart : ∀ k ∈ (SortedMap.empty : KeySet).keys, k ∉ placed.keys := by decide
  have hupdates : (placedTables .empty []).Updates filedName.space .empty placed
      (.ok (placedTables placed [], { updated := [locationKey] })) :=
    .updated hapart hshelf (Catalog.get?_applyUpdate .empty placed .empty)
      (Catalog.summarize_accounts .empty placed .empty)
  have hself : Registry.Performs lake (placedTables placed [("t", placedFile)])
      (.renameTable filedName filedName) (.error (.tableAlreadyExists "db" "t")) :=
    .renameTable filedName filedName
  have hrename : Registry.Performs lake (placedTables placed [("t", placedFile)])
      (.renameTable filedName movedName)
      (.ok (placedTables placed [("u", placedFile)], .table movedName placedFile)) :=
    .renameTable filedName movedName
  have hheld : Registry.Performs lake (placedTables placed [("u", placedFile)])
      (.dropNamespace filedName.space) (.error (.namespaceNotEmpty "db")) := .dropNamespace _
  have hdrop : Registry.Performs lake (placedTables placed [("u", placedFile)])
      (.dropTable movedName) (.ok (placedTables placed [], .done)) := .dropTable movedName
  have hempty : Registry.Performs lake (placedTables placed []) (.dropNamespace filedName.space)
      (.ok (.empty, .done)) := .dropNamespace _
  have hgone : Registry.Performs lake .empty (.dropNamespace filedName.space)
      (.error (.noSuchNamespace "db")) := .dropNamespace _
  exact .cons hcreate <| .cons (.updateNamespace hupdates) <| .cons (.createTable creates_placed) <|
    .cons hself <| .cons hrename <| .cons hheld <| .cons hdrop <| .cons hempty <| .cons hgone <|
    .nil _

theorem run_refines_lake :
    0 < lake.pageBudget ∧ (∀ r ∈ fullRun, r.Shallow) ∧
      (start 1).outcomes lake fullRun = fullAnswers.map some ∧
      ((start 1).after lake fullRun).metastore.registry = .empty := by
  have hbudget : 0 < lake.pageBudget := by decide
  have hshallow : ∀ r ∈ fullRun, r.Shallow := by decide
  obtain ⟨answers, hruns, -, houtcomes⟩ := run_refines lake hbudget 1 fullRun
  obtain ⟨rfl, hregistry⟩ := (hruns _ _).1 runs_fullRun
  exact ⟨hbudget, hshallow, (houtcomes hshallow).1, hregistry.symm⟩

end FullRun

/-! ### An error that comes too late -/

section Late

open TableCreation (filedName filedSite filedFile deepTable createTable_filedSite)

/-- A table whose schema is nested too deep for its metadata file to be read. -/
def deepRun : List Request :=
  [.createNamespace filedName.space .empty, .createTable firstIds filedName (deepTable 130)]

/-- **An error that changes something.**  The creation returns the error of loading the table, and
the table is registered. -/
theorem error_registers :
    (start 100).outcomes lake deepRun
        = [some (.ok .done), some (.error (.metadata filedFile))] ∧
      ((start 100).after lake (deepRun.take 1)).metastore.registry.find? filedName = none ∧
      ((start 100).after lake deepRun).metastore.registry.find? filedName = some filedFile := by
  have hspace : (start 100).step lake (.createNamespace filedName.space .empty)
      = (some (.ok .done), filedSite) := rfl
  have hdeep : ¬(deepTable 130).schema.Shallow := by
    rw [TableCreation.shallow_deepTable_iff]
    decide
  obtain ⟨objects, hcreate⟩ := (deepTable 130).createTable_filedSite rfl
  rw [if_neg hdeep] at hcreate
  have hstep := step_createTable filedSite lake firstIds filedName (deepTable 130)
  rw [hcreate] at hstep
  unfold deepRun
  refine ⟨?_, ?_, ?_⟩
  · unfold outcomes outcomes outcomes
    rw [hspace, hstep]
    rfl
  · rw [List.take_succ_cons, List.take_zero, after_cons, hspace]
    rfl
  · rw [after_cons, after_cons, hspace, hstep]
    rfl

end Late

end Site

end LakeCatalog
