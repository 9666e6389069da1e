import LakeCatalog.Proofs.OrderedMapLaws
import LakeCatalog.Proofs.Sites
import LakeCatalog.Proofs.Slashes
import LakeCatalog.Proofs.UpdateEffects

/-!
# Registries

What a catalog keeps, seen from outside: its namespaces in the order in which they were made, each
with its properties and its tables in the order in which they were registered, and for each table
the location of its metadata.  There are no calls, pages or objects here: each request is one
step, which either has its effect or one error.  What the properties of a namespace, the summary of
an update and the location of a new table have to be is only said, not computed; there is one
answer at most.

* `Shelf`, `Registry` — a namespace, and all namespaces;
* `addTable`, `removeTable` — a table at the end of its namespace, and a table taken out;
* `Updates`, `Places`, `Creates` — other properties, the place of a new table, and a new table;
* `Registry.Performs`, `Performs.unique` — what a request comes to;
* `Registry.Runs`, `Runs.unique` — what a run of requests comes to.
-/

namespace LakeCatalog

open Metastore (Memory)

/-- A namespace: its properties, and its tables with the locations of their metadata. -/
structure Shelf where
  properties : Properties
  tables : OrderedMap String := .empty
deriving DecidableEq

/-- The namespaces of a catalog. -/
abbrev Registry := OrderedMap Shelf

namespace Registry

/-- Whether a name is no longer than names may be. -/
def Short (name : String) : Prop := name.utf8ByteSize ≤ Memory.maxNameLength

instance (name : String) : Decidable (Short name) := inferInstanceAs (Decidable (_ ≤ _))

theorem isSegment_replicate : IsSegment (String.ofList (List.replicate 256 'x')) := by
  refine ⟨?_, ?_⟩
  · intro h
    have hnil := congrArg String.toList h
    rw [String.toList_ofList] at hnil
    cases hnil
  · rw [String.toList_ofList, List.mem_replicate]
    rintro ⟨-, hdot⟩
    exact absurd hdot (by decide)

/-- A name of one letter more than is taken. -/
def longName : TableName :=
  ⟨⟨"db", isSegment_db⟩, String.ofList (List.replicate 256 'x'), isSegment_replicate⟩

theorem not_short_longName : ¬Short longName.table := by decide +kernel

/-- The location of the metadata of a table. -/
def find? (g : Registry) (n : TableName) : Option String :=
  (g.get? n.space.text).bind fun shelf => shelf.tables.get? n.table

/-! ### Namespaces -/

/-- A new namespace, at the end. -/
def createNamespace (g : Registry) (n : NamespaceName) (properties : Properties) :
    Except CatalogError Registry :=
  if ¬Short n.text then .error (.metastore "create_database" (Memory.invalidName "Database" n.text))
  else if g.contains n.text then .error (.namespaceAlreadyExists n.text)
  else .ok (g.insert n.text { properties })

/-- Other properties for a namespace, which keeps its place and its tables: the updates, and else
the old properties that are not removed. -/
inductive Updates (g : Registry) (n : NamespaceName) (removals : KeySet) (updates : Properties) :
    Except CatalogError (Registry × UpdateSummary) → Prop
  /-- A key that is both removed and set is an error, which names all of them in order. -/
  | ambiguous {keys : List String} (hshared : ∃ k ∈ removals.keys, k ∈ updates.keys)
      (hsorted : keys.Pairwise (· < ·))
      (hkeys : ∀ k, k ∈ keys ↔ k ∈ removals.keys ∧ k ∈ updates.keys) :
      Updates g n removals updates (.error (.ambiguousUpdate n.text keys))
  | missing (hapart : ∀ k ∈ removals.keys, k ∉ updates.keys) (hnone : g.get? n.text = none) :
      Updates g n removals updates (.error (.noSuchNamespace n.text))
  | updated {shelf : Shelf} {properties : Properties} {summary : UpdateSummary}
      (hapart : ∀ k ∈ removals.keys, k ∉ updates.keys) (hshelf : g.get? n.text = some shelf)
      (hproperties : ∀ k, properties.get? k
        = (updates.get? k).or (if k ∈ removals.keys then none else shelf.properties.get? k))
      (hsummary : summary.Accounts removals updates shelf.properties) :
      Updates g n removals updates (.ok (g.insert n.text { shelf with properties }, summary))

/-- No namespace, where there was one without tables. -/
def dropNamespace (g : Registry) (n : NamespaceName) : Except CatalogError Registry :=
  match g.get? n.text with
  | none => .error (.noSuchNamespace n.text)
  | some shelf =>
    if shelf.tables.entries ≠ [] then .error (.namespaceNotEmpty n.text) else .ok (g.erase n.text)

/-! ### Tables -/

/-- A new table, at the end of its namespace. -/
def addTable (g : Registry) (n : TableName) (location : String) : Except CatalogError Registry :=
  if ¬Short n.table then .error (.metastore "create_table" (Memory.invalidName "Table" n.table))
  else match g.get? n.space.text with
    | none => .error (.noSuchNamespace n.space.text)
    | some shelf =>
      if shelf.tables.contains n.table then .error (.tableAlreadyExists n.space.text n.table)
      else .ok (g.insert n.space.text
        { shelf with tables := shelf.tables.insert n.table location })

/-- The namespaces without a table. -/
def removeTable (g : Registry) (n : TableName) : Registry :=
  match g.get? n.space.text with
  | none => g
  | some shelf => g.insert n.space.text { shelf with tables := shelf.tables.erase n.table }

/-- No table, where there was one. -/
def dropTable (g : Registry) (n : TableName) : Except CatalogError Registry :=
  match g.find? n with
  | none => .error (.noSuchTable n.space.text n.table)
  | some _ => .ok (g.removeTable n)

/-- A table under another name, at the end of the namespace of this name. -/
def renameTable (g : Registry) (source target : TableName) :
    Except CatalogError (Registry × String) :=
  match g.find? source with
  | none =>
    if ¬Short source.table then
      .error (.metastore "get_table" (Memory.invalidName "Table" source.table))
    else .error (.noSuchTable source.space.text source.table)
  | some location => do
    let g' ← g.addTable target location
    pure (g'.removeTable source, location)

/-! ### New tables -/

/-- A place that is asked for, without the slashes at its end.  Nothing but slashes is no place. -/
def Asks (asked : Option String) (location : String) : Prop :=
  ∃ text, asked = some text ∧ Stripped text location ∧ location ≠ ""

/-- Where a table goes that asks for no place: below the location of its namespace, or else below
the warehouse. -/
inductive Defaults (c : Catalog) (n : TableName) :
    Option Shelf → Except CatalogError String → Prop
  | unknown : Defaults c n none (.error (.noSuchNamespace n.space.text))
  | inNamespace {shelf : Shelf} {location base : String}
      (hlocation : shelf.properties.get? locationKey = some location) (hsome : location ≠ "")
      (hbase : Stripped location base) :
      Defaults c n (some shelf) (.ok (base ++ "/" ++ n.table))
  | inWarehouse {shelf : Shelf} {warehouse base : String}
      (hnone : ∀ location, shelf.properties.get? locationKey = some location → location = "")
      (hwarehouse : c.warehouse = some warehouse) (hbase : Stripped warehouse base) :
      Defaults c n (some shelf) (.ok (base ++ "/" ++ n.space.text ++ ".db/" ++ n.table))
  | nowhere {shelf : Shelf}
      (hnone : ∀ location, shelf.properties.get? locationKey = some location → location = "")
      (hwarehouse : c.warehouse = none) :
      Defaults c n (some shelf) (.error (.noDefaultLocation n.space.text n.table))

/-- Where a new table goes: to the place that it asks for, if it asks for one. -/
inductive Places (c : Catalog) (g : Registry) (n : TableName) (asked : Option String) :
    Except CatalogError String → Prop
  | asked {location : String} (h : Asks asked location) : Places c g n asked (.ok location)
  | unasked {place : Except CatalogError String} (hasked : ∀ location, ¬Asks asked location)
      (h : Defaults c n (g.get? n.space.text) place) : Places c g n asked place

/-- Where the metadata file of a table at a location lies. -/
def FileOf (fileId : Uuid) (location file : String) : Prop :=
  ∃ base, Stripped location base ∧
    file = base ++ "/metadata/00000-" ++ fileId.text ++ ".metadata.json"

/-- Why a location names no object: it is no URL, or the path of the URL has no parts. -/
inductive Misses (location : String) : CatalogError → Prop
  | notUrl {fault : Url.Fault} (h : Url.parse location = .error fault) :
      Misses location (.notUrl location fault)
  | noObject {url : Url} (h : Url.parse location = .ok url) (hempty : url.path.parts = []) :
      Misses location (.noObject location)

/-- A new table: it has a place, its metadata file names an object, and it goes to the end of its
namespace with the location of this file. -/
inductive Creates (c : Catalog) (g : Registry) (fresh : Fresh) (n : TableName)
    (creation : TableCreation) : Except CatalogError (Registry × String) → Prop
  | unplaced {e : CatalogError} (hplace : g.Places c n creation.location (.error e)) :
      Creates c g fresh n creation (.error e)
  | unaddressed {location file : String} {e : CatalogError}
      (hplace : g.Places c n creation.location (.ok location))
      (hfile : FileOf fresh.fileId location file) (hmisses : Misses file e) :
      Creates c g fresh n creation (.error e)
  | placed {location file : String} (hplace : g.Places c n creation.location (.ok location))
      (hfile : FileOf fresh.fileId location file) (hnames : ∀ e, ¬Misses file e) :
      Creates c g fresh n creation ((g.addTable n file).map (·, file))

/-! ### Requests -/

/-- What a request comes to: its effect and receipt, or its error. -/
inductive Performs (c : Catalog) (g : Registry) :
    Request → Except CatalogError (Registry × Receipt) → Prop
  | createNamespace (n : NamespaceName) (properties : Properties) :
      Performs c g (.createNamespace n properties)
        ((g.createNamespace n properties).map (·, .done))
  | updateNamespace {n : NamespaceName} {removals : KeySet} {updates : Properties}
      {o : Except CatalogError (Registry × UpdateSummary)} (h : g.Updates n removals updates o) :
      Performs c g (.updateNamespace n removals updates) (o.map fun r => (r.1, .updated r.2))
  | dropNamespace (n : NamespaceName) :
      Performs c g (.dropNamespace n) ((g.dropNamespace n).map (·, .done))
  | createTable {fresh : Fresh} {n : TableName} {creation : TableCreation}
      {o : Except CatalogError (Registry × String)} (h : g.Creates c fresh n creation o) :
      Performs c g (.createTable fresh n creation) (o.map fun r => (r.1, .table n r.2))
  | dropTable (n : TableName) : Performs c g (.dropTable n) ((g.dropTable n).map (·, .done))
  | renameTable (source target : TableName) :
      Performs c g (.renameTable source target)
        ((g.renameTable source target).map fun r => (r.1, .table target r.2))

/-- The registry that a request leaves.  An error changes nothing. -/
def left (g : Registry) : Except CatalogError (Registry × Receipt) → Registry
  | .ok r => r.1
  | .error _ => g

/-- What some requests come to, one after the other: the receipt or error of each, and the registry
after all of them. -/
inductive Runs (c : Catalog) :
    Registry → List Request → List (Except CatalogError Receipt) → Registry → Prop
  | nil (g : Registry) : Runs c g [] [] g
  | cons {g g' : Registry} {request : Request} {requests : List Request}
      {o : Except CatalogError (Registry × Receipt)} {answers : List (Except CatalogError Receipt)}
      (h : g.Performs c request o) (hrest : Runs c (g.left o) requests answers g') :
      Runs c g (request :: requests) (o.map (·.2) :: answers) g'

/-! ### There is one outcome only -/

section Unique

variable {c : Catalog} {g : Registry} {n : TableName} {fresh : Fresh} {creation : TableCreation}

theorem Updates.unique {n : NamespaceName} {removals : KeySet} {updates : Properties}
    {o o' : Except CatalogError (Registry × UpdateSummary)} (h : g.Updates n removals updates o)
    (h' : g.Updates n removals updates o') : o = o' := by
  have hneither : (∃ k ∈ removals.keys, k ∈ updates.keys) →
      ¬∀ k ∈ removals.keys, k ∉ updates.keys := by
    rintro ⟨k, hremoved, hset⟩ hapart
    exact hapart k hremoved hset
  cases h with
  | ambiguous hshared hsorted hkeys =>
      cases h' with
      | ambiguous _ hsorted' hkeys' =>
          rw [hsorted.eq_of_mem_iff hsorted' fun k => (hkeys k).trans (hkeys' k).symm]
      | missing hapart => exact absurd hapart (hneither hshared)
      | updated hapart => exact absurd hapart (hneither hshared)
  | missing hapart hnone =>
      cases h' with
      | ambiguous hshared => exact absurd hapart (hneither hshared)
      | missing => rfl
      | updated _ hshelf => exact absurd (hnone.symm.trans hshelf) (by simp)
  | updated hapart hshelf hproperties hsummary =>
      cases h' with
      | ambiguous hshared => exact absurd hapart (hneither hshared)
      | missing _ hnone => exact absurd (hnone.symm.trans hshelf) (by simp)
      | updated _ hshelf' hproperties' hsummary' =>
          cases hshelf.symm.trans hshelf'
          rw [SortedMap.ext fun k => (hproperties k).trans (hproperties' k).symm,
            hsummary.unique hsummary']

theorem Asks.unique {asked : Option String} {location location' : String} (h : Asks asked location)
    (h' : Asks asked location') : location = location' := by
  obtain ⟨text, rfl, hstripped, -⟩ := h
  obtain ⟨text', htext, hstripped', -⟩ := h'
  cases htext
  exact hstripped.unique hstripped'

theorem Defaults.unique {shelf : Option Shelf} {place place' : Except CatalogError String}
    (h : Defaults c n shelf place) (h' : Defaults c n shelf place') : place = place' := by
  cases h with
  | unknown =>
      cases h'
      rfl
  | inNamespace hlocation hsome hbase =>
      cases h' with
      | inNamespace hlocation' _ hbase' =>
          cases hlocation.symm.trans hlocation'
          rw [hbase.unique hbase']
      | inWarehouse hnone => exact absurd (hnone _ hlocation) hsome
      | nowhere hnone => exact absurd (hnone _ hlocation) hsome
  | inWarehouse hnone hwarehouse hbase =>
      cases h' with
      | inNamespace hlocation hsome => exact absurd (hnone _ hlocation) hsome
      | inWarehouse _ hwarehouse' hbase' =>
          cases hwarehouse.symm.trans hwarehouse'
          rw [hbase.unique hbase']
      | nowhere _ hwarehouse' => exact absurd (hwarehouse.symm.trans hwarehouse') (by simp)
  | nowhere hnone hwarehouse =>
      cases h' with
      | inNamespace hlocation hsome => exact absurd (hnone _ hlocation) hsome
      | inWarehouse _ hwarehouse' => exact absurd (hwarehouse.symm.trans hwarehouse') (by simp)
      | nowhere => rfl

theorem Places.unique {asked : Option String} {place place' : Except CatalogError String}
    (h : g.Places c n asked place) (h' : g.Places c n asked place') : place = place' := by
  cases h with
  | asked h =>
      cases h' with
      | asked h' => rw [h.unique h']
      | unasked hasked => exact absurd h (hasked _)
  | unasked hasked h =>
      cases h' with
      | asked h' => exact absurd h' (hasked _)
      | unasked _ h' => exact h.unique h'

theorem FileOf.unique {fileId : Uuid} {location file file' : String}
    (h : FileOf fileId location file) (h' : FileOf fileId location file') : file = file' := by
  obtain ⟨base, hbase, rfl⟩ := h
  obtain ⟨base', hbase', rfl⟩ := h'
  rw [hbase.unique hbase']

theorem Misses.unique {location : String} {e e' : CatalogError} (h : Misses location e)
    (h' : Misses location e') : e = e' := by
  cases h with
  | notUrl h =>
      cases h' with
      | notUrl h' =>
          cases h.symm.trans h'
          rfl
      | noObject h' => exact absurd (h.symm.trans h') (by simp)
  | noObject h =>
      cases h' with
      | notUrl h' => exact absurd (h.symm.trans h') (by simp)
      | noObject => rfl

theorem Creates.unique {o o' : Except CatalogError (Registry × String)}
    (h : g.Creates c fresh n creation o) (h' : g.Creates c fresh n creation o') : o = o' := by
  cases h with
  | unplaced hplace =>
      cases h' with
      | unplaced hplace' =>
          cases hplace.unique hplace'
          rfl
      | unaddressed hplace' => cases hplace.unique hplace'
      | placed hplace' => cases hplace.unique hplace'
  | unaddressed hplace hfile hmisses =>
      cases h' with
      | unplaced hplace' => cases hplace.unique hplace'
      | unaddressed hplace' hfile' hmisses' =>
          cases hplace.unique hplace'
          cases hfile.unique hfile'
          rw [hmisses.unique hmisses']
      | placed hplace' hfile' hnames =>
          cases hplace.unique hplace'
          cases hfile.unique hfile'
          exact absurd hmisses (hnames _)
  | placed hplace hfile hnames =>
      cases h' with
      | unplaced hplace' => cases hplace.unique hplace'
      | unaddressed hplace' hfile' hmisses =>
          cases hplace.unique hplace'
          cases hfile.unique hfile'
          exact absurd hmisses (hnames _)
      | placed hplace' hfile' =>
          cases hplace.unique hplace'
          rw [hfile.unique hfile']

/-- **A request** comes to one thing. -/
theorem Performs.unique {request : Request} {o o' : Except CatalogError (Registry × Receipt)}
    (h : g.Performs c request o) (h' : g.Performs c request o') : o = o' := by
  cases h with
  | createNamespace => cases h' with | createNamespace => rfl
  | updateNamespace h => cases h' with | updateNamespace h' => rw [h.unique h']
  | dropNamespace => cases h' with | dropNamespace => rfl
  | createTable h => cases h' with | createTable h' => rw [h.unique h']
  | dropTable => cases h' with | dropTable => rfl
  | renameTable => cases h' with | renameTable => rfl

/-- **A run of requests** comes to one thing. -/
theorem Runs.unique {g₁ g₂ : Registry} {requests : List Request}
    {answers answers' : List (Except CatalogError Receipt)} (h : Runs c g requests answers g₁)
    (h' : Runs c g requests answers' g₂) : answers = answers' ∧ g₁ = g₂ := by
  induction h generalizing answers' with
  | nil => cases h' with | nil => exact ⟨rfl, rfl⟩
  | cons hperforms _ ih =>
      cases h' with
      | cons hperforms' hrest' =>
          cases hperforms.unique hperforms'
          obtain ⟨rfl, rfl⟩ := ih hrest'
          exact ⟨rfl, rfl⟩

end Unique

end Registry

end LakeCatalog
