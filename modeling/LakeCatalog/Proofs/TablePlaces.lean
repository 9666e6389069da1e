import LakeCatalog.Proofs.Slashes
import LakeCatalog.Proofs.StoredMetadata

/-!
# Where new tables are put

A table that asks for a place gets it.  Any other table is put below the location of its namespace,
or else below the warehouse.  Slashes at the end of a location do not count, and a place that has
nothing but slashes is none.  The locations of a namespace and of a catalog are not looked at in
this way: a table that would be put below nothing but slashes cannot be created at all, even where
there is another place for it.

* `Url.parse_slash` — a text that begins with a slash is no URL;
* `Catalog.place`, `Catalog.Rootless` — the place of a table by the rule, and the tables that the
  rule does not reach;
* `TableCreation.exists_returned` — a creation that nothing disturbs;
* `Catalog.createTable_placed` — where a new table is put;
* `Catalog.createTable_files` — where its metadata file lies, and what its record says.
-/

namespace LakeCatalog

open Metastore (Call Failure Memory)

/-! ### Texts that begin with a slash -/

/-- A text that begins with a slash is no URL. -/
theorem Url.parse_slash {rest : List Char} (hlast : ∀ c, rest.getLast? = some c → IsSolid c) :
    Url.parse (String.ofList ('/' :: rest)) = .error .relative := by
  have hslash : IsSolid '/' := (by decide : 0x20 < '/'.toNat)
  have hsolid : ∀ c, ('/' :: rest).getLast? = some c → IsSolid c := by
    intro c hc
    cases rest with
    | nil =>
        cases hc
        exact hslash
    | cons d ds => exact hlast c hc
  have htrim : trim ('/' :: rest) = '/' :: rest := trim_stop hslash [] hsolid
  unfold parse
  rw [String.toList_ofList]
  dsimp only
  rw [htrim, dropBreaks_cons (not_break_of_solid hslash)]
  rfl

namespace Metadata

/-- A metadata file lies below the location of the table, whatever this ends in. -/
theorem fileLocation_eq_iff (fileId : Uuid) (location : String) :
    fileLocation fileId location
        = location ++ "/metadata/00000-" ++ fileId.text ++ ".metadata.json" ↔
      ¬EndsInSlash location := by
  unfold fileLocation
  rw [String.append_left_inj, String.append_left_inj, String.append_left_inj]
  constructor
  · intro h
    rw [← h]
    exact not_endsInSlash_trimRight location
  · exact trimRight_of_not_endsInSlash

/-- Behind a slash, the location of a metadata file begins with a slash. -/
theorem exists_fileLocation_slash (fileId : Uuid) (below : String) :
    ∃ rest, fileLocation fileId ("/" ++ below) = String.ofList ('/' :: rest) ∧
      ∀ c, rest.getLast? = some c → Url.IsSolid c := by
  have hprefix : (Text.trimRight '/' ("/" ++ below)).toList <+: '/' :: below.toList := by
    unfold Text.trimRight
    rw [String.toList_ofList, String.toList_append]
    exact List.rdropWhile_prefix _ _
  have hsolid : ∀ (a : List Char) (c : Char),
      (a ++ '/' :: fileName fileId).getLast? = some c → Url.IsSolid c := by
    intro a c hc
    rw [List.append_cons] at hc
    exact solid_of_getLast? hc
  rw [fileLocation_eq]
  cases htrim : (Text.trimRight '/' ("/" ++ below)).toList with
  | nil => exact ⟨_, rfl, hsolid folder⟩
  | cons d ds =>
      rw [htrim] at hprefix
      obtain ⟨rfl, -⟩ := List.cons_prefix_cons.1 hprefix
      refine ⟨ds ++ '/' :: (folder ++ '/' :: fileName fileId), rfl, ?_⟩
      rw [← List.cons_append, ← List.append_assoc]
      exact hsolid (ds ++ '/' :: folder)

/-- Such a location is no URL, and so names no object. -/
theorem pathOf_fileLocation_slash (fileId : Uuid) (below : String) :
    Objects.pathOf (fileLocation fileId ("/" ++ below))
      = .error (.notUrl (fileLocation fileId ("/" ++ below)) .relative) := by
  obtain ⟨rest, hrest, hlast⟩ := exists_fileLocation_slash fileId below
  have hparse : Url.parse (fileLocation fileId ("/" ++ below)) = .error .relative := by
    rw [hrest, Url.parse_slash hlast]
  unfold Objects.pathOf ObjectPath.ofLocation ObjectPath.segments
  rw [hparse]
  rfl

end Metadata

namespace Catalog

variable {σ : Type} {h : Handler Backend σ} {c : Catalog} {fresh : Fresh} {n : TableName}
  {creation : TableCreation} {record : DatabaseRecord} {s s₁ : σ} {location : String}

/-- A place that is asked for does not end in a slash. -/
theorem not_endsInSlash_of_usableLocation {asked : Option String}
    (hasked : usableLocation asked = some location) : ¬EndsInSlash location := by
  cases asked with
  | none => cases hasked
  | some given =>
      rw [usableLocation_some] at hasked
      split at hasked
      · cases hasked
      · cases hasked
        exact not_endsInSlash_trimRight given

/-! ### The rule -/

/-- The place of a new table by the rule: the place that it asks for, or else one below the location
of its namespace, or else one below the warehouse.  Nothing but slashes is no location. -/
def place (c : Catalog) (n : TableName) (creation : TableCreation) (properties : Properties) :
    Option String :=
  match usableLocation creation.location with
  | some location => some location
  | none =>
    match usableLocation (properties.get? locationKey) with
    | some location => some (location ++ "/" ++ n.table)
    | none => (usableLocation c.warehouse).map (· ++ "/" ++ n.space.text ++ ".db/" ++ n.table)

/-- The location below which a table is put that asks for no place: that of its namespace if there
is one and it is not empty, or else the warehouse. -/
def baseLocation (c : Catalog) (properties : Properties) : Option String :=
  ((properties.get? locationKey).filter (· ≠ "")).or c.warehouse

/-- The table asks for no place, and would be put below nothing but slashes. -/
def Rootless (c : Catalog) (creation : TableCreation) (properties : Properties) : Prop :=
  usableLocation creation.location = none ∧
    ∃ base, c.baseLocation properties = some base ∧ usableLocation (some base) = none

/-! ### The code -/

/-- What the location of a table that asks for no place is made from. -/
theorem perform_defaultLocation (hspace : h.call (.getDatabase n.space.text) s = (.ok record, s₁)) :
    (c.defaultLocation n).perform h s
      = (some (match (record.properties.get? locationKey).filter (· ≠ "") with
        | some base => .ok (Text.trimRight '/' base ++ "/" ++ n.table)
        | none => match c.warehouse with
          | some base => .ok (Text.trimRight '/' base ++ "/" ++ n.space.text ++ ".db/" ++ n.table)
          | none => .error (.noDefaultLocation n.space.text n.table)), s₁) := by
  unfold defaultLocation
  rw [Action.perform_bind_ok h (perform_loadNamespace_ok hspace)]
  cases (record.properties.get? locationKey).filter (· ≠ "") with
  | some base => rfl
  | none => cases c.warehouse <;> rfl

theorem tableLocation_of_unasked (hnone : usableLocation creation.location = none) :
    c.tableLocation n creation = c.defaultLocation n := by
  unfold tableLocation
  rw [hnone]

/-- A location that is not asked for ends in the name of the table. -/
theorem exists_above (hlocation : (c.defaultLocation n).perform h s = (some (.ok location), s₁)) :
    ∃ above, location = above ++ n.table := by
  rcases hspace : h.call (.getDatabase n.space.text) s with ⟨reply, s₂⟩
  cases reply with
  | error f =>
      unfold defaultLocation at hlocation
      rw [Action.perform_bind_error h (perform_loadNamespace_error hspace)] at hlocation
      cases hlocation
  | ok record =>
      rw [perform_defaultLocation hspace, Prod.mk.injEq, Option.some.injEq] at hlocation
      replace hlocation := hlocation.1
      split at hlocation
      · exact ⟨_, (Except.ok.inj hlocation).symm⟩
      · split at hlocation
        · exact ⟨_, (Except.ok.inj hlocation).symm⟩
        · cases hlocation

/-- A location that is not there, or empty, is none. -/
theorem usableLocation_of_filter {given : Option String} (hgiven : given.filter (· ≠ "") = none) :
    usableLocation given = none := by
  cases given with
  | none => rfl
  | some base =>
      have hempty : base = "" := by simpa using hgiven
      rw [hempty]
      rfl

/-- A table that the rule does not reach is given a location that begins with a slash. -/
theorem tableLocation_of_rootless (hroot : c.Rootless creation record.properties)
    (hspace : h.call (.getDatabase n.space.text) s = (.ok record, s₁)) :
    ∃ folder ∈ [n.table, n.space.text ++ ".db/" ++ n.table],
      (c.tableLocation n creation).perform h s = (some (.ok ("/" ++ folder)), s₁) := by
  obtain ⟨hnone, base, hbase, hunusable⟩ := hroot
  have htrim := usableLocation_eq_none_iff.1 hunusable
  rw [tableLocation_of_unasked hnone, perform_defaultLocation hspace]
  unfold baseLocation at hbase
  cases hproperty : (record.properties.get? locationKey).filter (· ≠ "") with
  | some base' =>
      rw [hproperty, Option.some_or, Option.some.injEq] at hbase
      subst hbase
      refine ⟨n.table, by simp, ?_⟩
      simp only [htrim, String.empty_append]
  | none =>
      rw [hproperty, Option.none_or] at hbase
      refine ⟨n.space.text ++ ".db/" ++ n.table, by simp, ?_⟩
      simp only [hbase, htrim, String.empty_append, String.append_assoc]

/-- Every other table is given the place that the rule names. -/
theorem tableLocation_of_not_rootless (hroot : ¬c.Rootless creation record.properties)
    (hspace : h.call (.getDatabase n.space.text) s = (.ok record, s₁)) :
    (c.tableLocation n creation).perform h s
      = (some ((c.place n creation record.properties).elim
          (.error (.noDefaultLocation n.space.text n.table)) .ok),
        if (usableLocation creation.location).isSome then s else s₁) := by
  cases hasked : usableLocation creation.location with
  | some location =>
      unfold tableLocation place
      simp only [hasked]
      rfl
  | none =>
      have husable : ∀ base, c.baseLocation record.properties = some base →
          usableLocation (some base) = some (Text.trimRight '/' base) := by
        intro base hbase
        rw [usableLocation_some, if_neg]
        exact fun hnone => hroot ⟨hasked, base, hbase, usableLocation_eq_none_iff.2 hnone⟩
      rw [tableLocation_of_unasked hasked, perform_defaultLocation hspace]
      unfold baseLocation at husable
      unfold place
      simp only [hasked]
      cases hproperty : (record.properties.get? locationKey).filter (· ≠ "") with
      | some base =>
          rw [hproperty, Option.some_or] at husable
          simp only [(Option.filter_eq_some_iff.1 hproperty).1, husable base rfl]
          rfl
      | none =>
          rw [hproperty, Option.none_or] at husable
          simp only [usableLocation_of_filter hproperty]
          cases hwarehouse : c.warehouse with
          | none => rfl
          | some base =>
              rw [husable base hwarehouse]
              rfl

/-- The location of a table ends in a slash only if its name does, and it did not ask for a
place. -/
theorem endsInSlash_tableLocation_iff
    (hlocation : (c.tableLocation n creation).perform h s = (some (.ok location), s₁)) :
    EndsInSlash location ↔ usableLocation creation.location = none ∧ EndsInSlash n.table := by
  cases hasked : usableLocation creation.location with
  | some asked =>
      unfold tableLocation at hlocation
      rw [hasked] at hlocation
      cases hlocation
      exact iff_of_false (not_endsInSlash_of_usableLocation hasked) fun hboth => nomatch hboth.1
  | none =>
      rw [tableLocation_of_unasked hasked] at hlocation
      obtain ⟨above, rfl⟩ := exists_above hlocation
      rw [endsInSlash_append n.isSegment.1, and_iff_right rfl]

/-- A table that would be put behind nothing but a slash is not created. -/
theorem createTable_of_slash (fresh : Fresh) {below : String}
    (hlocation : (c.tableLocation n creation).perform h s = (some (.ok ("/" ++ below)), s₁)) :
    (c.createTable fresh n creation).perform h s
      = (some (.error (.notUrl (Metadata.fileLocation fresh.fileId ("/" ++ below)) .relative)),
        s₁) := by
  have hwrite := perform_writeMetadata_error h fresh creation ("/" ++ below)
    (Metadata.pathOf_fileLocation_slash fresh.fileId below) s₁
  rw [createTable_eq, Action.perform_bind_ok h hlocation]
  exact Action.perform_bind_error h hwrite

/-- A table that the rule does not reach is not created. -/
theorem createTable_of_rootless (fresh : Fresh)
    (hroot : c.Rootless creation record.properties)
    (hspace : h.call (.getDatabase n.space.text) s = (.ok record, s₁)) :
    ∃ below ∈ [n.table, n.space.text ++ ".db/" ++ n.table],
      (c.createTable fresh n creation).perform h s
        = (some (.error (.notUrl (Metadata.fileLocation fresh.fileId ("/" ++ below)) .relative)),
          s₁) := by
  obtain ⟨below, hbelow, hlocation⟩ := tableLocation_of_rootless hroot hspace
  exact ⟨below, hbelow, createTable_of_slash fresh hlocation⟩

/-- Every other table is created at the place that the rule names, or has none. -/
theorem createTable_of_not_rootless (hroot : ¬c.Rootless creation record.properties)
    (hspace : h.call (.getDatabase n.space.text) s = (.ok record, s₁)) :
    (c.createTable fresh n creation).perform h s
      = match c.place n creation record.properties with
        | some location => (c.createAt fresh n creation location).perform h
            (if (usableLocation creation.location).isSome then s else s₁)
        | none => (some (.error (.noDefaultLocation n.space.text n.table)), s₁) := by
  have hlocation := tableLocation_of_not_rootless hroot hspace
  rw [createTable_eq]
  cases hplace : c.place n creation record.properties with
  | some location =>
      rw [hplace] at hlocation
      exact Action.perform_bind_ok h hlocation
  | none =>
      have hasked : usableLocation creation.location = none := by
        unfold place at hplace
        split at hplace
        · cases hplace
        · assumption
      rw [hplace, hasked] at hlocation
      exact Action.perform_bind_error h hlocation

/-! ### Tables without a place -/

theorem isLoadError_of_loadTable {e : CatalogError} {s' : σ}
    (hload : (c.loadTable n).perform h s = (some (.error e), s')) : e.IsLoadError := by
  obtain ⟨outcome, s'', hrun, hkind, -⟩ := Program.run_of_conforms (h := h) (fun _ => True)
    (fun _ _ _ _ => trivial) (loadTable_errors c n) (s := s) trivial
  cases hrun.symm.trans hload
  exact hkind e rfl

/-- A creation that has a location does not complain that there is none. -/
theorem ne_noDefaultLocation_of_createRun {e : CatalogError} {s' : σ}
    (hrun : CreateRun h c fresh n creation s (.error e) s')
    (hlocation : (c.tableLocation n creation).perform h s = (some (.ok location), s₁))
    (space table : String) : e ≠ .noDefaultLocation space table := by
  cases hrun with
  | nowhere hnone => cases hnone.symm.trans hlocation
  | pathless _ hpath =>
      rintro rfl
      exact pathOf_isLoadError hpath
  | unwritten => exact nofun
  | @refused _ _ f _ _ _ _ _ _ hcreate =>
      unfold createTableFailure
      cases f.signal <;> exact nofun
  | created _ _ _ _ hload =>
      rintro rfl
      exact isLoadError_of_loadTable hload

/-- A creation complains that there is no place exactly when the rule names none, and the table is
not rootless. -/
theorem noDefaultLocation_iff
    (hspace : h.call (.getDatabase n.space.text) s = (.ok record, s₁)) :
    (∃ space table, ((c.createTable fresh n creation).perform h s).1
        = some (.error (.noDefaultLocation space table))) ↔
      c.place n creation record.properties = none ∧ ¬c.Rootless creation record.properties := by
  constructor
  · rintro ⟨space, table, hnone⟩
    have hroot : ¬c.Rootless creation record.properties := by
      intro hroot
      obtain ⟨below, -, hperform⟩ := createTable_of_rootless fresh hroot hspace
      rw [hperform] at hnone
      cases hnone
    refine ⟨?_, hroot⟩
    cases hplace : c.place n creation record.properties with
    | none => rfl
    | some location =>
        have hlocation := tableLocation_of_not_rootless hroot hspace
        rw [hplace] at hlocation
        obtain ⟨outcome, s', hperform, hrun⟩ := exists_createRun h c fresh n creation s
        rw [hperform] at hnone
        cases hnone
        exact absurd rfl (ne_noDefaultLocation_of_createRun hrun hlocation space table)
  · rintro ⟨hplace, hroot⟩
    rw [createTable_of_not_rootless hroot hspace, hplace]
    exact ⟨_, _, rfl⟩

end Catalog

/-! ### The table that is returned -/

namespace TableCreation

variable {creation : TableCreation} {fresh : Fresh} {location : String} {m : Metadata}
  {c : Catalog} {n : TableName} {plan : FaultPlan} {t t₁ t' : Trial} {table : Table}
  {record : DatabaseRecord}

/-- What is read of a new table says where the table is. -/
theorem location_of_read (hread : Metadata.read? (creation.content fresh location) = some m) :
    m.location = location := by
  rw [read?_content] at hread
  split at hread
  · cases hread
    rfl
  · cases hread

/-- A table that is returned is where it was put. -/
theorem tableLocation_of_created
    (h : (c.createTable fresh n creation).perform (Trial.answer plan) t = (some (.ok table), t')) :
    (∃ t₁, (c.tableLocation n creation).perform (Trial.answer plan) t
      = (some (.ok table.metadata.location), t₁)) ∧
      table.metadataLocation = Metadata.fileLocation fresh.fileId table.metadata.location := by
  obtain ⟨location, path, t₁, hlocation, hfile, -, -, hread⟩ := exists_created h
  rw [location_of_read hread]
  exact ⟨⟨t₁, hlocation⟩, hfile⟩

/-- A table that is returned is registered with its metadata file. -/
theorem record?_of_created
    (h : (c.createTable fresh n creation).perform (Trial.answer plan) t = (some (.ok table), t')) :
    t'.metastore.record? n = some ((TableRecord.ofMetadata n.table table.metadataLocation
      creation.properties).copiedTo n) := by
  obtain ⟨outcome, t'', hperform, hrun⟩ :=
    Catalog.exists_createRun (Trial.answer plan) c fresh n creation t
  cases hperform.symm.trans h
  cases hrun with
  | @created location path _ t₁ t₂ t₃ _ hlocation hpath hput hcreate hload =>
      obtain ⟨hgains, -⟩ := Catalog.gains_of_createTable_ok (n := n) rfl hcreate
      obtain ⟨-, -, r, hr, hfile, -⟩ := Trial.loadTable_ok_iff.1 (congrArg Prod.fst hload)
      rw [metadataLocation_of_registered hcreate hr, Except.ok.injEq] at hfile
      rw [(Catalog.onlyRead_of_loadTable hload).2.1, hgains.record?_self, ← hfile]
      rfl

/-- A table that is returned is at its place by the rule. -/
theorem place_of_created
    (hspace : (Trial.answer plan).call (.getDatabase n.space.text) t = (.ok record, t₁))
    (h : (c.createTable fresh n creation).perform (Trial.answer plan) t = (some (.ok table), t')) :
    c.place n creation record.properties = some table.metadata.location := by
  have hroot : ¬c.Rootless creation record.properties := by
    intro hroot
    obtain ⟨below, -, hperform⟩ := Catalog.createTable_of_rootless fresh hroot hspace
    cases hperform.symm.trans h
  obtain ⟨⟨t₂, hlocation⟩, -⟩ := tableLocation_of_created h
  rw [Catalog.tableLocation_of_not_rootless hroot hspace] at hlocation
  cases hplace : c.place n creation record.properties with
  | none =>
      rw [hplace] at hlocation
      cases hlocation
  | some location =>
      rw [hplace] at hlocation
      cases hlocation
      rfl

/-! ### A creation that nothing disturbs -/

/-- A table that is written, registered and not nested too deep is returned, if nothing is made to
fail. -/
theorem exists_returned {t₂ t₃ : Trial} {path : String}
    (hlocation : (c.tableLocation n creation).perform (Trial.answer calm) t
      = (some (.ok location), t₁))
    (hpath : Objects.pathOf (Metadata.fileLocation fresh.fileId location) = .ok path)
    (hput : Catalog.put (Trial.answer calm) path (creation.content fresh location) t₁
      = (.ok (), t₂))
    (hcreate : (Trial.answer calm).call (.createTable n.space.text (.ofMetadata n.table
      (Metadata.fileLocation fresh.fileId location) creation.properties)) t₂ = (.ok (), t₃))
    (hshallow : creation.schema.Shallow) :
    ∃ t', (c.createTable fresh n creation).perform (Trial.answer calm) t
      = (some (.ok ⟨n, creation.reread fresh location,
          Metadata.fileLocation fresh.fileId location, c⟩), t') := by
  obtain ⟨hgains, hshort⟩ := Catalog.gains_of_createTable_ok (n := n) rfl hcreate
  obtain ⟨-, -, hobjects, -⟩ := Trial.call_ok hcreate
  have hfound : ((Trial.answer calm).call (.getTable n.space.text n.table) t₃).1 = .ok _ :=
    Memory.getTable_of_record? hgains.record?_self hshort
  have hdata : (Trial.answer calm (.get path) t₃).1 = .ok (creation.content fresh location) := by
    rw [Trial.answer_get, hobjects]
    exact Trial.get_of_put hput
  have hread : Metadata.read? (creation.content fresh location)
      = some (creation.reread fresh location) := by
    rw [read?_content, if_pos hshallow]
  have hload : ((c.loadTable n).perform (Trial.answer calm) t₃).1
      = some (.ok ⟨n, creation.reread fresh location,
          Metadata.fileLocation fresh.fileId location, c⟩) :=
    Trial.loadTable_ok_iff.2 ⟨rfl, rfl, _, hfound, metadataLocation_of_registered hcreate hfound,
      Trial.readMetadata_ok_iff.2 ⟨path, _, hpath, hdata, hread⟩⟩
  have hwrite := Catalog.perform_writeMetadata (Trial.answer calm) fresh creation location hpath t₁
  rw [hput] at hwrite
  have hregister : (Catalog.createTableRecord n (.ofMetadata n.table
      (Metadata.fileLocation fresh.fileId location) creation.properties)).perform
      (Trial.answer calm) t₂ = (some (.ok ()), t₃) := Action.perform_call_ok hcreate
  rw [Catalog.createTable_eq, Action.perform_bind_ok _ hlocation]
  unfold Catalog.createAt
  rw [Action.perform_bind_ok _ hwrite, Action.perform_bind_ok _ hregister]
  exact ⟨_, Prod.ext hload rfl⟩

/-- The metastore with nothing but a namespace that has a location or none, and a store for
objects in memory. -/
def lone (location : Option String) : Trial :=
  .start (Memory.setDatabase (.withPageSize 100) "db"
    { record := { name := "db", locationUri := location }, tables := .empty }) (.memory .empty)

end TableCreation

namespace Catalog

/-- **Where a new table is put.**  Let its namespace be there.  A table that would be put below
nothing but slashes is not created, and the error speaks of a location that is no URL.  Every other
table is written to the place that the rule names, registered and loaded; if the rule names none,
then the error says so, and only then.  A table that is returned is at its place by the rule,
whatever else fails. -/
theorem createTable_placed (c : Catalog) (fresh : Fresh) (n : TableName)
    (creation : TableCreation) :
    (∀ {σ : Type} (h : Handler Backend σ) (s s₁ : σ) (record : DatabaseRecord),
      h.call (.getDatabase n.space.text) s = (.ok record, s₁) →
      (c.Rootless creation record.properties →
        ∃ below ∈ [n.table, n.space.text ++ ".db/" ++ n.table],
          (c.createTable fresh n creation).perform h s = (some (.error
            (.notUrl (Metadata.fileLocation fresh.fileId ("/" ++ below)) .relative)), s₁)) ∧
      (¬c.Rootless creation record.properties →
        (c.createTable fresh n creation).perform h s
          = match c.place n creation record.properties with
            | some location => (c.createAt fresh n creation location).perform h
                (if (usableLocation creation.location).isSome then s else s₁)
            | none => (some (.error (.noDefaultLocation n.space.text n.table)), s₁)) ∧
      ((∃ space table, ((c.createTable fresh n creation).perform h s).1
          = some (.error (.noDefaultLocation space table))) ↔
        c.place n creation record.properties = none ∧ ¬c.Rootless creation record.properties)) ∧
    ∀ (plan : FaultPlan) (t t₁ t' : Trial) (record : DatabaseRecord) (table : Table),
      (Trial.answer plan).call (.getDatabase n.space.text) t = (.ok record, t₁) →
      (c.createTable fresh n creation).perform (Trial.answer plan) t = (some (.ok table), t') →
        c.place n creation record.properties = some table.metadata.location := by
  refine ⟨fun h s s₁ record hspace => ⟨fun hroot => ?_, fun hroot => ?_, ?_⟩, ?_⟩
  · exact createTable_of_rootless fresh hroot hspace
  · exact createTable_of_not_rootless hroot hspace
  · exact noDefaultLocation_iff hspace
  · intro plan t t₁ t' record table hspace h
    exact TableCreation.place_of_created hspace h

/-- The table of a run that nothing disturbs, put below the warehouse. -/
theorem createTable_placed_lone :
    ∃ t₁ table t', (Trial.answer TableCreation.calm).call (.getDatabase "db")
        (TableCreation.lone none) = (.ok { name := "db" }, t₁) ∧
      ¬Site.lake.Rootless TableCreation.filedTable .empty ∧
      (Site.lake.createTable Site.firstIds TableCreation.filedName
          TableCreation.filedTable).perform (Trial.answer TableCreation.calm)
          (TableCreation.lone none) = (some (.ok table), t') ∧
      (Site.lake.createAt Site.firstIds TableCreation.filedName TableCreation.filedTable
        "s3://w/db.db/t").perform (Trial.answer TableCreation.calm) t₁ = (some (.ok table), t') ∧
      table.metadata.location = "s3://w/db.db/t" := by
  have hspace : (Trial.answer TableCreation.calm).call (.getDatabase "db")
      (TableCreation.lone none) = (.ok { name := "db" }, _) := rfl
  have hroot : ¬Site.lake.Rootless TableCreation.filedTable .empty := by
    rintro ⟨-, base, hbase, hunusable⟩
    cases hbase
    exact absurd hunusable (by decide)
  have hlocation : (Site.lake.tableLocation TableCreation.filedName
      TableCreation.filedTable).perform (Trial.answer TableCreation.calm)
      (TableCreation.lone none) = (some (.ok TableCreation.filedLocation), _) := rfl
  obtain ⟨t', hreturned⟩ :=
    TableCreation.exists_returned hlocation TableCreation.pathOf_filed rfl rfl (by decide)
  have hplaced := createTable_placed Site.lake Site.firstIds TableCreation.filedName
    TableCreation.filedTable
  have hperform := (hplaced.1 _ _ _ _ hspace).2.1 hroot
  have hplace := hplaced.2 _ _ _ _ _ _ hspace hreturned
  refine ⟨_, _, t', rfl, hroot, hreturned, ?_, ?_⟩
  · exact hperform.symm.trans hreturned
  · exact (Option.some.inj hplace).symm

/-- **Slashes that are no location** keep a table from its place.  Where the location of the
namespace is a slash, the table is not put below the warehouse; where the warehouse is a slash, the
error does not say that there is no place. -/
theorem slashes_hide_place :
    (Site.lake.place TableCreation.filedName TableCreation.filedTable
        { name := "db", locationUri := some "/" : DatabaseRecord }.properties
        = some "s3://w/db.db/t" ∧
      ((Site.lake.createTable Site.firstIds TableCreation.filedName
          TableCreation.filedTable).perform (Trial.answer TableCreation.calm)
          (TableCreation.lone (some "/"))).1
        = some (.error (.notUrl
          "/t/metadata/00000-11111111-1111-1111-1111-111111111111.metadata.json" .relative))) ∧
    (Catalog.mk "lake" (some "/") 1).place TableCreation.filedName TableCreation.filedTable
        { name := "db" : DatabaseRecord }.properties = none ∧
      (((Catalog.mk "lake" (some "/") 1).createTable Site.firstIds TableCreation.filedName
          TableCreation.filedTable).perform (Trial.answer TableCreation.calm)
          (TableCreation.lone none)).1
        = some (.error (.notUrl
          "/db.db/t/metadata/00000-11111111-1111-1111-1111-111111111111.metadata.json"
          .relative)) := by
  have hspace : (Site.lake.tableLocation TableCreation.filedName TableCreation.filedTable).perform
      (Trial.answer TableCreation.calm) (TableCreation.lone (some "/"))
      = (some (.ok ("/" ++ "t")), _) := rfl
  have hwarehouse : ((Catalog.mk "lake" (some "/") 1).tableLocation TableCreation.filedName
      TableCreation.filedTable).perform (Trial.answer TableCreation.calm) (TableCreation.lone none)
      = (some (.ok ("/" ++ "db.db/t")), _) := rfl
  refine ⟨⟨by decide, ?_⟩, by decide, ?_⟩
  · exact congrArg Prod.fst (createTable_of_slash Site.firstIds hspace)
  · exact congrArg Prod.fst (createTable_of_slash Site.firstIds hwarehouse)

/-- **Where the metadata file of a new table lies.**  Whatever fails, a table that is returned has
its metadata file below its location, and its record leads to this file.  The location is trimmed on
the way to the file, so it is a part of the location of the file as it stands, unless it ends in a
slash; and it does that exactly if the table asked for no place and its own name ends in a slash. -/
theorem createTable_files {c : Catalog} {fresh : Fresh} {n : TableName} {creation : TableCreation}
    {plan : FaultPlan} {t t' : Trial} {table : Table}
    (h : (c.createTable fresh n creation).perform (Trial.answer plan) t = (some (.ok table), t')) :
    table.metadataLocation = Metadata.fileLocation fresh.fileId table.metadata.location ∧
    t'.metastore.record? n = some ((TableRecord.ofMetadata n.table table.metadataLocation
      creation.properties).copiedTo n) ∧
    (EndsInSlash table.metadata.location ↔
      usableLocation creation.location = none ∧ EndsInSlash n.table) ∧
    (table.metadataLocation = table.metadata.location ++ "/metadata/00000-" ++ fresh.fileId.text
        ++ ".metadata.json" ↔
      ¬(usableLocation creation.location = none ∧ EndsInSlash n.table)) := by
  obtain ⟨⟨t₁, hlocation⟩, hfile⟩ := TableCreation.tableLocation_of_created h
  have hends := endsInSlash_tableLocation_iff hlocation
  refine ⟨hfile, TableCreation.record?_of_created h, hends, ?_⟩
  rw [hfile, Metadata.fileLocation_eq_iff, hends]

/-- A table with a slash at the end of its name. -/
def slashName : TableName := ⟨⟨"db", isSegment_db⟩, "t/", by decide⟩

/-- The table is created below the warehouse. -/
theorem exists_slashName :
    ∃ t', (Site.lake.createTable Site.firstIds slashName TableCreation.filedTable).perform
        (Trial.answer TableCreation.calm) (TableCreation.lone none)
      = (some (.ok ⟨slashName, TableCreation.filedTable.reread Site.firstIds "s3://w/db.db/t/",
          Metadata.fileLocation Site.firstIds.fileId "s3://w/db.db/t/", Site.lake⟩), t') := by
  have hlocation : (Site.lake.tableLocation slashName TableCreation.filedTable).perform
      (Trial.answer TableCreation.calm) (TableCreation.lone none)
      = (some (.ok "s3://w/db.db/t/"), _) := rfl
  -- The slash is taken off on the way to the file.
  have hfile : Metadata.fileLocation Site.firstIds.fileId "s3://w/db.db/t/"
      = Metadata.fileLocation Site.firstIds.fileId TableCreation.filedLocation := rfl
  have hpath := TableCreation.pathOf_filed
  rw [← hfile] at hpath
  exact TableCreation.exists_returned hlocation hpath rfl rfl (by decide)

theorem createTable_files_slashName :
    ∃ table t', (Site.lake.createTable Site.firstIds slashName TableCreation.filedTable).perform
        (Trial.answer TableCreation.calm) (TableCreation.lone none) = (some (.ok table), t') ∧
      EndsInSlash table.metadata.location ∧
      t'.metastore.record? slashName = some ((TableRecord.ofMetadata "t/" table.metadataLocation
        .empty).copiedTo slashName) := by
  obtain ⟨t', hcreated⟩ := exists_slashName
  obtain ⟨-, hrecord, hends, -⟩ := createTable_files hcreated
  exact ⟨_, t', hcreated, hends.2 ⟨rfl, by decide⟩, hrecord⟩

/-- **A slash at the end of a name** is kept in the location of the table, and not in that of its
metadata file, which is then no longer what stands behind the location of the table. -/
theorem slash_kept :
    ∃ table t', (Site.lake.createTable Site.firstIds slashName TableCreation.filedTable).perform
        (Trial.answer TableCreation.calm) (TableCreation.lone none) = (some (.ok table), t') ∧
      table.metadata.location = "s3://w/db.db/t/" ∧
      table.metadataLocation = "s3://w/db.db/t/metadata/00000-11111111-1111-1111-1111-111111111111"
        ++ ".metadata.json" ∧
      ∀ u : Uuid, table.metadataLocation
        ≠ table.metadata.location ++ "/metadata/00000-" ++ u.text ++ ".metadata.json" := by
  obtain ⟨t', hcreated⟩ := exists_slashName
  refine ⟨_, t', hcreated, rfl, rfl, ?_⟩
  intro u hu
  have hfile : "s3://w/db.db/t/"
      ++ "metadata/00000-11111111-1111-1111-1111-111111111111.metadata.json"
      = "s3://w/db.db/t/" ++ "/metadata/00000-" ++ u.text ++ ".metadata.json" := hu
  rw [String.append_assoc, String.append_assoc, String.append_right_inj] at hfile
  have hhead := congrArg (fun s => s.toList.head?) hfile
  simp [String.toList_append] at hhead

end Catalog

end LakeCatalog
