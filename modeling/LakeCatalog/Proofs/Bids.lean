import LakeCatalog.Proofs.Inventory
import LakeCatalog.Proofs.RenameRace

/-!
# Calls that want a free name

Creations and renames that all want to have their table under one name, which is free.  What each
of them has to register there depends only on the site at which they begin, and so does what
loading the table comes to once it is registered.

* `Bid`, `Offer` — a call, and the record that it has to register;
* `Bid.Offers`, `Bid.Writes` — what a call has to register, and the object that it writes before;
* `Contest` — calls that may run side by side, and the name that they want;
* `Loaded`, `Readable` — what loading the table may come to, and when it succeeds.
-/

namespace LakeCatalog

open Metastore (Call Failure Memory)

/-! ### Actions with one question -/

theorem Catalog.asksOnce_defaultLocation (c : Catalog) (n : TableName) :
    (c.defaultLocation n).AsksOnce (.metastore (.getDatabase n.space.text)) := by
  refine Action.AsksOnce.bind (Action.AsksOnce.bind (Action.asksOnce_ask _ _) ?_) ?_
  · intro record
    exact ⟨_, rfl⟩
  · intro properties
    split
    · exact ⟨_, rfl⟩
    · split
      · exact ⟨_, rfl⟩
      · exact ⟨_, rfl⟩

theorem Objects.asksOnce_write {location path : String} (data : ByteArray)
    (hpath : pathOf location = .ok path) : (write location data).AsksOnce (.put path data) := by
  unfold write
  rw [hpath]
  exact ⟨_, rfl⟩

theorem Objects.asksOnce_readMetadata {location path : String}
    (hpath : pathOf location = .ok path) : (readMetadata location).AsksOnce (.get path) := by
  have hread : (read location).AsksOnce (.get path) := by
    unfold read
    rw [hpath]
    exact ⟨_, rfl⟩
  exact hread.bind fun data => ⟨_, rfl⟩

/-- A new table that has no location of its own gets one with one question. -/
theorem Catalog.asksOnce_tableLocation {creation : TableCreation}
    (hnone : usableLocation creation.location = none) (c : Catalog) (n : TableName) :
    (c.tableLocation n creation).AsksOnce (.metastore (.getDatabase n.space.text)) := by
  unfold tableLocation
  rw [hnone]
  exact c.asksOnce_defaultLocation n

theorem TableCreation.asksOnce_writeMetadata {fresh : Fresh} {place path : String}
    (hpath : Objects.pathOf (Metadata.fileLocation fresh.fileId place) = .ok path)
    (creation : TableCreation) :
    (Objects.writeMetadata (creation.metadata fresh place)
      (Metadata.fileLocation fresh.fileId place)).AsksOnce
      (.put path (creation.content fresh place)) := by
  unfold Objects.writeMetadata
  rw [creation.write?_metadata fresh place]
  exact Objects.asksOnce_write _ hpath

/-! ### Bids and offers -/

/-- A call that wants to have a table under a name: a new one, or one that is moved there. -/
inductive Bid where
  | create (c : Catalog) (fresh : Fresh) (creation : TableCreation)
  | rename (c : Catalog) (source : TableName)

/-- A record that is to be registered, and where this says that the metadata file is. -/
structure Offer where
  record : TableRecord
  file : String

namespace Bid

variable (n : TableName) (s : Site)

/-- The catalog that is called. -/
def catalog : Bid → Catalog
  | create c _ _ => c
  | rename c _ => c

/-- The name that the table had before. -/
def source? : Bid → Option TableName
  | create .. => none
  | rename _ source => some source

/-- What a bid for a name does. -/
def program : Bid → Program Backend (Except CatalogError Table)
  | create c fresh creation => (c.createTable fresh n creation).run
  | rename c source => (c.renameTable source n).run

/-- What is left to do once the record is registered. -/
def finish : Bid → Action Table
  | create c _ _ => c.loadTable n
  | rename c source => (RenameCall.mk c source n).dropSource

/-- What is left to do once there is a record to register. -/
def register (x : Bid) (r : TableRecord) : Action Table := do
  Catalog.createTableRecord n (r.renamed n.table)
  x.finish n

/-- What is left to do once the record of the table under its new name is found. -/
def readBack (x : Bid) (file : String) : Action Table := do
  let metadata ← Objects.readMetadata file
  pure ⟨n, metadata, file, x.catalog⟩

theorem asksOnce_readBack (x : Bid) {file path : String} (hpath : Objects.pathOf file = .ok path) :
    (x.readBack n file).AsksOnce (.get path) :=
  (Objects.asksOnce_readMetadata hpath).bind fun _ => ⟨_, rfl⟩

/-- What a creation has to register when its table has a place. -/
def newTable (fresh : Fresh) (creation : TableCreation) (place : String) : Offer where
  record := .ofMetadata n.table (Metadata.fileLocation fresh.fileId place) creation.properties
  file := Metadata.fileLocation fresh.fileId place

/-- What a bid has to register when it begins at a site: a creation has a place for its table and
its metadata file, and the table that is to be moved is registered and is one of this format. -/
inductive Offers : Bid → Offer → Prop
  | create {c : Catalog} {fresh : Fresh} {creation : TableCreation} {place path : String}
      (hplace : (c.tableLocation n creation).perform Site.answer s = (some (.ok place), s))
      (hpath : Objects.pathOf (Metadata.fileLocation fresh.fileId place) = .ok path) :
      Offers (.create c fresh creation) (newTable n fresh creation place)
  | rename {c : Catalog} {source : TableName} {r : TableRecord} {file : String}
      (hrecord : s.metastore.record? source = some r)
      (hfile : r.metadataLocation source = .ok file) :
      Offers (.rename c source) ⟨r, file⟩

/-- The object that a bid writes before it asks to register anything. -/
inductive Writes : Bid → String → ByteArray → Prop
  | create {c : Catalog} {fresh : Fresh} {creation : TableCreation} {place path : String}
      (hplace : (c.tableLocation n creation).perform Site.answer s = (some (.ok place), s))
      (hpath : Objects.pathOf (Metadata.fileLocation fresh.fileId place) = .ok path) :
      Writes (.create c fresh creation) path (creation.content fresh place)

variable {n s} {x : Bid} {o : Offer}

/-- The record of an offer leads to the file, whatever its name is. -/
theorem Offers.metadataLocation (h : x.Offers n s o) (k : TableName) :
    (o.record.copiedTo n).metadataLocation k = .ok o.file := by
  cases h with
  | @create c fresh creation place path hplace hpath =>
      exact Catalog.metadataLocation_congr (Catalog.metadataLocation_ofMetadata k n.table
        (Metadata.fileLocation fresh.fileId place) creation.properties) rfl
  | rename hrecord hfile => exact Catalog.metadataLocation_congr hfile rfl

/-- A table that is to be moved is there. -/
theorem Offers.exists_record (h : x.Offers n s o) {source : TableName}
    (hsource : x.source? = some source) : ∃ r, s.metastore.record? source = some r := by
  cases h with
  | create hplace hpath => cases hsource
  | rename hrecord hfile =>
      cases hsource
      exact ⟨_, hrecord⟩

/-- A bid that has no source writes the file of its offer. -/
theorem Offers.exists_writes (h : x.Offers n s o) (hsource : x.source? = none) :
    ∃ path data, x.Writes n s path data ∧ Objects.pathOf o.file = .ok path := by
  cases h with
  | create hplace hpath => exact ⟨_, _, .create hplace hpath, hpath⟩
  | rename hrecord hfile => cases hsource

theorem Writes.source?_eq {path : String} {data : ByteArray} (h : x.Writes n s path data) :
    x.source? = none := by
  cases h
  rfl

/-- A bid writes one object only. -/
theorem Writes.unique {path path' : String} {data data' : ByteArray}
    (h : x.Writes n s path data) (h' : x.Writes n s path' data') : path = path' ∧ data = data' := by
  cases h with
  | create hplace hpath =>
      cases h' with
      | create hplace' hpath' =>
          cases hplace.symm.trans hplace'
          cases hpath.symm.trans hpath'
          exact ⟨rfl, rfl⟩

end Bid

/-! ### Contests -/

section Contest

variable {ι : Type}

/-- Calls that may run side by side at a site, and the name that they want: it is free and not too
long, its namespace is there, every call has something to register under it, and each table that
is to be moved there has one call only. -/
structure Contest (bids : ι → Bid) (n : TableName) (s : Site) : Prop where
  filed : s.metastore.Filed
  space : s.metastore.databases.contains n.space.text = true
  free : s.metastore.record? n = none
  short : Registry.Short n.table
  offers : ∀ i, ∃ o, (bids i).Offers n s o
  apart : ∀ i j source, (bids i).source? = some source → (bids j).source? = some source → i = j

variable (bids : ι → Bid) (n : TableName) (s₀ : Site)

/-- What loading the table may come to once a bid has registered its offer. -/
inductive Loaded (x : Bid) (o : Offer) : Except CatalogError Table → Prop
  /-- The metadata file is one that a creation has written. -/
  | written {i : ι} {path : String} {data : ByteArray} (hpath : Objects.pathOf o.file = .ok path)
      (hwrites : (bids i).Writes n s₀ path data) :
      Loaded x o (Site.reading x.catalog n o.file data)
  /-- The metadata file of a moved table is the one that was there. -/
  | found {source : TableName} {path : String} {data : ByteArray}
      (hsource : x.source? = some source) (hpath : Objects.pathOf o.file = .ok path)
      (hdata : s₀.objects.get? path = some data) :
      Loaded x o (Site.reading x.catalog n o.file data)
  /-- The metadata file of a moved table is not there. -/
  | missing {source : TableName} {path : String} (hsource : x.source? = some source)
      (hpath : Objects.pathOf o.file = .ok path) (hnone : s₀.objects.get? path = none) :
      Loaded x o (.error (.objectStore o.file (.notFound path)))
  /-- The location in the record of a moved table names no object. -/
  | pathless {source : TableName} {e : CatalogError} (hsource : x.source? = some source)
      (hpath : Objects.pathOf o.file = .error e) :
      Loaded x o (.error e)

/-- The metadata of all tables can be read: the schemas of new tables are not nested too deep, and
the metadata files of moved ones are there and hold metadata. -/
structure Readable : Prop where
  created : ∀ i c fresh creation, bids i = .create c fresh creation → creation.schema.Shallow
  moved : ∀ i o source, (bids i).source? = some source → (bids i).Offers n s₀ o →
    ∃ path data m, Objects.pathOf o.file = .ok path ∧ s₀.objects.get? path = some data ∧
      Metadata.read? data = some m

variable {bids n s₀} {x : Bid} {o : Offer} {outcome : Except CatalogError Table}

theorem Readable.exists_read (hr : Readable bids n s₀) {i : ι} {path : String} {data : ByteArray}
    (h : (bids i).Writes n s₀ path data) : ∃ m, Metadata.read? data = some m := by
  generalize hbid : bids i = b at h
  cases h with
  | @create c fresh creation place path hplace hpath =>
      have hshallow := hr.created i c fresh creation hbid
      refine ⟨.reread fresh place creation.schema creation.partitionSpec creation.sortOrder
        creation.properties, ?_⟩
      unfold TableCreation.content TableCreation.metadata
      rw [Metadata.read?_initial, if_pos hshallow]

theorem reading_of_read? {c : Catalog} {file : String} {data : ByteArray} {m : Metadata}
    (h : Metadata.read? data = some m) : Site.reading c n file data = .ok ⟨n, m, file, c⟩ := by
  unfold Site.reading
  rw [h]

/-- What can be read is loaded. -/
theorem Readable.exists_ok (hr : Readable bids n s₀) {i : ι} (ho : (bids i).Offers n s₀ o)
    (h : Loaded bids n s₀ (bids i) o outcome) :
    ∃ m, outcome = .ok ⟨n, m, o.file, (bids i).catalog⟩ := by
  have hmoved : ∀ {source}, (bids i).source? = some source → ∃ path data m,
      Objects.pathOf o.file = .ok path ∧ s₀.objects.get? path = some data ∧
        Metadata.read? data = some m := fun hsource => hr.moved i o _ hsource ho
  cases h with
  | written hpath hwrites =>
      obtain ⟨m, hm⟩ := hr.exists_read hwrites
      exact ⟨m, reading_of_read? hm⟩
  | found hsource hpath hdata =>
      obtain ⟨path, data, m, hpath', hdata', hm⟩ := hmoved hsource
      cases hpath.symm.trans hpath'
      cases hdata.symm.trans hdata'
      exact ⟨m, reading_of_read? hm⟩
  | missing hsource hpath hnone =>
      obtain ⟨path, data, m, hpath', hdata', -⟩ := hmoved hsource
      cases hpath.symm.trans hpath'
      cases hnone.symm.trans hdata'
  | pathless hsource hpath =>
      obtain ⟨path, data, m, hpath', -, -⟩ := hmoved hsource
      cases hpath.symm.trans hpath'

/-- A name that was taken by others is no outcome of loading. -/
theorem Loaded.ne_taken (h : Loaded bids n s₀ x o outcome) :
    outcome ≠ .error (.tableAlreadyExists n.space.text n.table) := by
  have hreading : ∀ data, Site.reading x.catalog n o.file data
      ≠ .error (.tableAlreadyExists n.space.text n.table) := by
    intro data
    unfold Site.reading
    cases Metadata.read? data with
    | some m => exact nofun
    | none => exact nofun
  cases h with
  | written hpath hwrites => exact hreading _
  | found hsource hpath hdata => exact hreading _
  | missing hsource hpath hnone => exact nofun
  | pathless hsource hpath =>
      unfold Objects.pathOf at hpath
      cases hlocation : ObjectPath.ofLocation o.file with
      | ok path =>
          rw [hlocation] at hpath
          cases hpath
      | error fault =>
          rw [hlocation] at hpath
          cases fault <;> cases hpath <;> exact nofun

end Contest

end LakeCatalog
