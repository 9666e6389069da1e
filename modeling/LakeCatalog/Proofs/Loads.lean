import LakeCatalog.Proofs.SoundSites

/-!
# Loading what is registered

At a sound site a registered table has a metadata file, and loading the table comes down to
reading this file.

* `Site.load`, `Site.reading` — a table as it is loaded, and what its file makes of it;
* `Site.LiesAt` — where the metadata file of a registered table is;
* `perform_readMetadata`, `perform_readMetadata_missing` — reading a metadata file;
* `perform_loadTable_of_liesAt`, `load_of_liesAt`, `load_insert` — loading a table, also after one
  more object was written.
-/

namespace LakeCatalog

open Metastore (Memory)

namespace Site

/-- A table as it is loaded. -/
def load (c : Catalog) (s : Site) (k : TableName) : Option (Except CatalogError Table) :=
  ((c.loadTable k).perform answer s).1

/-- A table whose metadata file has some content. -/
def reading (c : Catalog) (k : TableName) (location : String) (data : ByteArray) :
    Except CatalogError Table :=
  match Metadata.read? data with
  | some m => .ok ⟨k, m, location, c⟩
  | none => .error (.metadata location)

/-- The table is registered with a metadata file at a location, which is the object at a path. -/
def LiesAt (s : Site) (k : TableName) (location path : String) : Prop :=
  ∃ r, s.metastore.record? k = some r ∧ r.metadataLocation k = .ok location ∧
    Objects.pathOf location = .ok path

variable {s s' : Site} {c : Catalog} {k n : TableName} {location path : String} {data : ByteArray}

/-- Every registered table has a metadata file. -/
theorem Sound.exists_liesAt (hs : s.Sound) {r : TableRecord} (h : s.metastore.record? k = some r) :
    ∃ location path, s.LiesAt k location path ∧ s.objects.contains path = true := by
  obtain ⟨location, path, hlocation, hpath, hheld⟩ := (hs.table h).stored
  exact ⟨location, path, ⟨r, h, hlocation k, hpath⟩, hheld⟩

theorem Sound.contains_of_liesAt (hs : s.Sound) (h : s.LiesAt k location path) :
    s.objects.contains path = true := by
  obtain ⟨r, hr, hlocation, hpath⟩ := h
  obtain ⟨location', path', ⟨r', hr', hlocation', hpath'⟩, hheld⟩ := hs.exists_liesAt hr
  rw [hr, Option.some.injEq] at hr'
  subst hr'
  rw [hlocation, Except.ok.injEq] at hlocation'
  subst hlocation'
  rw [hpath, Except.ok.injEq] at hpath'
  rw [hpath']
  exact hheld

/-- Reading the metadata file of an object that is there. -/
theorem perform_readMetadata (hpath : Objects.pathOf location = .ok path)
    (hdata : s.objects.get? path = some data) :
    (Objects.readMetadata location).perform answer s
      = (some (match Metadata.read? data with
        | some m => .ok m
        | none => .error (.metadata location)), s) := by
  have hread : (Objects.read location).perform answer s = (some (.ok data), s) := by
    unfold Objects.read
    rw [hpath, Action.perform_bind_ok answer (Action.perform_ofExcept answer _ s)]
    show (some ((s.fetch path).mapError _), s) = _
    unfold fetch
    rw [hdata]
    rfl
  exact Action.perform_bind_ok answer hread

/-- Reading the metadata file of an object that is not there. -/
theorem perform_readMetadata_missing (hpath : Objects.pathOf location = .ok path)
    (hnone : s.objects.get? path = none) :
    (Objects.readMetadata location).perform answer s
      = (some (.error (.objectStore location (.notFound path))), s) := by
  have hread : (Objects.read location).perform answer s
      = (some (.error (.objectStore location (.notFound path))), s) := by
    unfold Objects.read
    rw [hpath, Action.perform_bind_ok answer (Action.perform_ofExcept answer _ s)]
    show (some ((s.fetch path).mapError _), s) = _
    unfold fetch
    rw [hnone]
    rfl
  exact Action.perform_bind_error answer hread

/-- **Loading** a registered table with a name that is not too long reads its metadata file. -/
theorem perform_loadTable_of_liesAt (hshort : k.table.utf8ByteSize ≤ Memory.maxNameLength)
    (h : s.LiesAt k location path) (hdata : s.objects.get? path = some data) :
    (c.loadTable k).perform answer s = (some (reading c k location data), s) := by
  obtain ⟨r, hr, hlocation, hpath⟩ := h
  have hget : s.metastore.getTable k.space.text k.table = .ok r :=
    Memory.getTable_of_record? hr hshort
  have hrecord : (Catalog.tableRecord k).perform answer s = (some (.ok r), s) := by
    refine Action.perform_call_ok ?_
    show (s.metastore.getTable k.space.text k.table, s) = _
    rw [hget]
  have hmetadata := perform_readMetadata hpath hdata
  unfold Catalog.loadTable reading
  rw [Action.perform_bind_ok answer hrecord, hlocation,
    Action.perform_bind_ok answer (Action.perform_ofExcept answer _ s)]
  cases hdecoded : Metadata.read? data with
  | some m =>
      rw [hdecoded] at hmetadata
      rw [Action.perform_bind_ok answer hmetadata]
      rfl
  | none =>
      rw [hdecoded] at hmetadata
      rw [Action.perform_bind_error answer hmetadata]

/-- At a sound site no registered name is too long. -/
theorem load_of_liesAt (hs : s.Sound) (h : s.LiesAt k location path)
    (hdata : s.objects.get? path = some data) :
    s.load c k = some (reading c k location data) := by
  obtain ⟨r, hr, -⟩ := id h
  exact congrArg Prod.fst (perform_loadTable_of_liesAt (hs.table hr).short h hdata)

/-- What one more object changes in a table that was there. -/
theorem load_insert (hs : s.Sound) (hs' : s'.Sound) {written own : String}
    (hobjects : s'.objects = s.objects.insert written data)
    (hrecords : ∀ r, s.metastore.record? k = some r → s'.metastore.record? k = some r)
    (h : s.LiesAt k location own) :
    s'.load c k = if own = written then some (reading c k location data) else s.load c k := by
  have h' : s'.LiesAt k location own := by
    obtain ⟨r, hr, hlies⟩ := h
    exact ⟨r, hrecords r hr, hlies⟩
  by_cases hown : own = written
  · subst hown
    rw [if_pos rfl]
    refine load_of_liesAt hs' h' ?_
    rw [hobjects, OrderedMap.get?_insert_self]
  · have hheld := hs.contains_of_liesAt h
    rw [OrderedMap.contains_eq] at hheld
    obtain ⟨old, hold⟩ := Option.isSome_iff_exists.1 hheld
    have hkept : s'.objects.get? own = some old := by
      rw [hobjects, OrderedMap.get?_insert_of_ne _ (Ne.symm hown), hold]
    rw [if_neg hown, load_of_liesAt hs h hold, load_of_liesAt hs' h' hkept]

end Site

end LakeCatalog
