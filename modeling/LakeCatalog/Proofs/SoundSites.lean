import LakeCatalog.Proofs.Sites

/-!
# What holds of every site

Requests keep a site in order, whatever they are and whether they succeed.

* `TableSound`, `Site.Sound` — each record has the name it is filed under, this name is a good
  one, and it leads to an object that is there;
* one lemma for each way in which a request changes a site: a database set or taken out, a record
  gained or lost, an object written;
* `sound_step`, `sound_after` — one request, and a run of requests.
-/

namespace LakeCatalog

open Metastore (Call Failure Memory DatabaseState)

/-- What holds of a record that is filed under a name: the name is its own, it is a good name, and
the record leads to an object that is there. -/
structure TableSound (objects : OrderedMap ByteArray) (t : String) (r : TableRecord) : Prop where
  name_eq : r.name = t
  segment : IsSegment t
  short : t.utf8ByteSize ≤ Memory.maxNameLength
  stored : ∃ location path, (∀ n, r.metadataLocation n = .ok location) ∧
    Objects.pathOf location = .ok path ∧ objects.contains path = true

theorem TableSound.mono {objects objects' : OrderedMap ByteArray} {t : String} {r : TableRecord}
    (h : TableSound objects t r)
    (hobjects : ∀ path, objects.contains path = true → objects'.contains path = true) :
    TableSound objects' t r := by
  obtain ⟨location, path, hlocation, hpath, hheld⟩ := h.stored
  exact ⟨h.name_eq, h.segment, h.short, location, path, hlocation, hpath, hobjects path hheld⟩

namespace Site

/-- What holds of every site that requests have led to. -/
structure Sound (s : Site) : Prop where
  pages : 0 < s.metastore.pageSize
  spaces : ∀ name d, s.metastore.databases.get? name = some d →
    name.utf8ByteSize ≤ Memory.maxNameLength
  tables : ∀ name d t r, s.metastore.databases.get? name = some d → d.tables.get? t = some r →
    TableSound s.objects t r

variable {s s' : Site} {c : Catalog} {n source target : TableName} {r : TableRecord} {m' : Memory}
  {outcome : Except CatalogError Table}

theorem sound_start (pageSize : Nat) : (start pageSize).Sound where
  pages := by
    show 0 < max pageSize 1
    omega
  spaces := by
    intro name d h
    cases h
  tables := by
    intro name d t r h
    cases h

theorem Sound.table (hs : s.Sound) (h : s.metastore.record? n = some r) :
    TableSound s.objects n.table r := by
  obtain ⟨d, hd, ht⟩ := Memory.exists_of_record? h
  exact hs.tables _ _ _ _ hd ht

/-! ### Changes that keep a site sound -/

theorem Sound.setDatabase (hs : s.Sound) {name : String} {d : DatabaseState}
    (hshort : name.utf8ByteSize ≤ Memory.maxNameLength)
    (htables : ∀ t r, d.tables.get? t = some r → TableSound s.objects t r) :
    Sound ⟨s.metastore.setDatabase name d, s.objects⟩ where
  pages := hs.pages
  spaces := by
    intro a d' hd'
    rw [Memory.get?_setDatabase] at hd'
    by_cases ha : name = a
    · rw [← ha]
      exact hshort
    · rw [if_neg ha] at hd'
      exact hs.spaces a d' hd'
  tables := by
    intro a d' t r hd' ht
    rw [Memory.get?_setDatabase] at hd'
    by_cases ha : name = a
    · rw [if_pos ha, Option.some.injEq] at hd'
      rw [← hd'] at ht
      exact htables t r ht
    · rw [if_neg ha] at hd'
      exact hs.tables a d' t r hd' ht

theorem Sound.eraseDatabase (hs : s.Sound) (name : String) :
    Sound ⟨{ s.metastore with databases := s.metastore.databases.erase name }, s.objects⟩ := by
  have hkept : ∀ a d, (s.metastore.databases.erase name).get? a = some d →
      s.metastore.databases.get? a = some d := by
    intro a d h
    rw [OrderedMap.get?_erase] at h
    by_cases ha : name = a
    · rw [if_pos ha] at h
      cases h
    · rwa [if_neg ha] at h
  exact ⟨hs.pages, fun a d hd => hs.spaces a d (hkept a d hd),
    fun a d t r hd ht => hs.tables a d t r (hkept a d hd) ht⟩

theorem Sound.gains (hs : s.Sound) (h : s.metastore.Gains m' n r)
    (hr : TableSound s.objects n.table r) : Sound ⟨m', s.objects⟩ := by
  obtain ⟨d, tables, hd, ht, rfl⟩ := h
  refine hs.setDatabase (hs.spaces _ d hd) ?_
  intro t r' ht'
  rw [Memory.Gains.tables_eq ht, OrderedMap.get?_insert] at ht'
  by_cases hname : n.table = t
  · rw [if_pos hname, Option.some.injEq] at ht'
    rw [← hname, ← ht']
    exact hr
  · rw [if_neg hname] at ht'
    exact hs.tables _ d t r' hd ht'

theorem Sound.loses (hs : s.Sound) (h : s.metastore.Loses m' n) : Sound ⟨m', s.objects⟩ := by
  obtain ⟨d, tables, hd, -, ht, rfl⟩ := h
  refine hs.setDatabase (hs.spaces _ d hd) ?_
  intro t r' ht'
  rw [Memory.Loses.tables_eq ht, OrderedMap.get?_erase] at ht'
  by_cases hname : n.table = t
  · rw [if_pos hname] at ht'
    cases ht'
  · rw [if_neg hname] at ht'
    exact hs.tables _ d t r' hd ht'

theorem contains_insert_of_contains {objects : OrderedMap ByteArray} {path path' : String}
    {data : ByteArray} (h : objects.contains path' = true) :
    (objects.insert path data).contains path' = true := by
  rw [OrderedMap.contains_eq, OrderedMap.get?_insert]
  by_cases hpath : path = path'
  · rw [if_pos hpath]
    rfl
  · rw [if_neg hpath]
    exact h

theorem Sound.insertObject (hs : s.Sound) (path : String) (data : ByteArray) :
    Sound ⟨s.metastore, s.objects.insert path data⟩ where
  pages := hs.pages
  spaces := hs.spaces
  tables := fun name d t r hd ht =>
    (hs.tables name d t r hd ht).mono fun _ hheld => contains_insert_of_contains hheld

/-! ### Requests -/

theorem short_of_createTable {database : String}
    (h : s.metastore.createTable database r = .ok m') :
    r.name.utf8ByteSize ≤ Memory.maxNameLength := by
  unfold Memory.createTable Memory.checkName at h
  by_cases hname : r.name ≠ "" ∧ r.name.utf8ByteSize ≤ Memory.maxNameLength
  · exact hname.2
  · rw [if_neg hname] at h
    cases h

/-- A rename keeps a site sound. -/
theorem sound_of_renameRun (hs : s.Sound)
    (h : Catalog.RenameRun answer c source target s outcome s') : s'.Sound := by
  -- The copy is as good a record as the source was.
  have hcopied : ∀ {r : TableRecord} {s₁ s₂ : Site}, Handler.call answer
      (.getTable source.space.text source.table) s = (.ok r, s₁) →
      Handler.call answer (.createTable target.space.text (r.renamed target.table)) s₁
        = (.ok (), s₂) → s₂.Sound := by
    intro r s₁ s₂ hget hcreate
    obtain ⟨hr, rfl⟩ := found_of_call hget
    obtain ⟨hgains, ho⟩ := gains_of_call (n := target) rfl hcreate
    have hsource := hs.table hr
    have hshort := short_of_createTable (Memory.eq_of_changed_ok (respond_of_call hcreate).1)
    obtain ⟨location, path, hlocation, hpath, hheld⟩ := hsource.stored
    have hsound := hs.gains hgains ⟨rfl, target.isSegment, hshort, location, path,
      fun n => Catalog.metadataLocation_congr (hlocation n) rfl, hpath, hheld⟩
    rw [← ho] at hsound
    exact hsound
  have hdropped : ∀ {n : TableName} {s₁ s₂ : Site} {reply : Except Failure Unit}, s₁.Sound →
      Handler.call answer (.deleteTable n.space.text n.table) s₁ = (reply, s₂) → s₂.Sound := by
    intro n s₁ s₂ reply hs₁ hdrop
    cases reply with
    | error f =>
        rw [eq_of_call_error hdrop]
        exact hs₁
    | ok u =>
        obtain ⟨hloses, ho⟩ := loses_of_call hdrop
        have hsound := hs₁.loses hloses
        rw [← ho] at hsound
        exact hsound
  cases h with
  | unknown hget =>
      rw [eq_of_call_error hget]
      exact hs
  | foreign hget hloc =>
      rw [(found_of_call hget).2]
      exact hs
  | refused hget hloc hcreate =>
      rw [eq_of_call_error hcreate, (found_of_call hget).2]
      exact hs
  | moved hget hloc hcreate hdrop hload =>
      obtain ⟨outcome', hperform, -⟩ :=
        perform_of_conforms (Catalog.loadTable_conforms c target) _
      have hsame := hperform.symm.trans hload
      cases hsame
      exact hdropped (hcopied hget hcreate) hdrop
  | rolledBack hget hloc hcreate hdrop hback =>
      exact hdropped (hdropped (hcopied hget hcreate) hdrop) hback
  | stranded hget hloc hcreate hdrop hback =>
      exact hdropped (hdropped (hcopied hget hcreate) hdrop) hback

/-- What a creation does to a site: nothing, if it fails, or it writes a metadata file and then
registers the table or does not. -/
theorem effect_of_createRun {fresh : Fresh} {creation : TableCreation}
    (h : Catalog.CreateRun answer c fresh n creation s outcome s') :
    ((∃ e, outcome = .error e) ∧ s' = s ∧ ∀ location path,
        (c.tableLocation n creation).perform answer s = (some (.ok location), s) →
          Objects.pathOf (Metadata.fileLocation fresh.fileId location) ≠ .ok path) ∨
    ∃ location path,
      (c.tableLocation n creation).perform answer s = (some (.ok location), s) ∧
        Objects.pathOf (Metadata.fileLocation fresh.fileId location) = .ok path ∧
        s'.objects = s.objects.insert path (creation.content fresh location) ∧
        (s'.metastore = s.metastore ∨
          s.metastore.Gains s'.metastore n ((TableRecord.ofMetadata n.table
              (Metadata.fileLocation fresh.fileId location) creation.properties).copiedTo n) ∧
            n.table.utf8ByteSize ≤ Memory.maxNameLength) := by
  -- Finding the location leaves the site as it is.
  have hlocated : ∀ {result s₁}, (c.tableLocation n creation).perform answer s
      = (some result, s₁) → s₁ = s := by
    intro result s₁ hlocation
    obtain ⟨result', hperform, -⟩ :=
      perform_of_conforms (Catalog.tableLocation_conforms c n creation) s
    have hsame := hperform.symm.trans hlocation
    cases hsame
    rfl
  cases h with
  | nowhere hlocation =>
      refine Or.inl ⟨⟨_, rfl⟩, hlocated hlocation, ?_⟩
      intro location path hother
      cases hother.symm.trans hlocation
  | pathless hlocation hpath =>
      refine Or.inl ⟨⟨_, rfl⟩, hlocated hlocation, ?_⟩
      intro location path hother hok
      cases hother.symm.trans hlocation
      cases hpath.symm.trans hok
  | unwritten hlocation hpath hput => cases congrArg Prod.fst hput
  | refused hlocation hpath hput hcreate =>
      have hs₁ := hlocated hlocation
      subst hs₁
      cases hput
      rw [eq_of_call_error hcreate]
      exact Or.inr ⟨_, _, hlocation, hpath, rfl, Or.inl rfl⟩
  | created hlocation hpath hput hcreate hload =>
      have hs₁ := hlocated hlocation
      subst hs₁
      cases hput
      obtain ⟨outcome', hperform, -⟩ := perform_of_conforms (Catalog.loadTable_conforms c n) _
      have hsame := hperform.symm.trans hload
      cases hsame
      obtain ⟨hgains, ho⟩ := gains_of_call (n := n) rfl hcreate
      have hshort := short_of_createTable (Memory.eq_of_changed_ok (respond_of_call hcreate).1)
      exact Or.inr ⟨_, _, hlocation, hpath, ho, Or.inr ⟨hgains, hshort⟩⟩

/-- A creation keeps a site sound. -/
theorem sound_of_createRun {fresh : Fresh} {creation : TableCreation} (hs : s.Sound)
    (h : Catalog.CreateRun answer c fresh n creation s outcome s') : s'.Sound := by
  rcases effect_of_createRun h with ⟨-, rfl, -⟩ | ⟨location, path, -, hpath, hobjects, heffect⟩
  · exact hs
  · have hwritten := hs.insertObject path (creation.content fresh location)
    have hs' : s' = ⟨s'.metastore, s.objects.insert path (creation.content fresh location)⟩ := by
      rw [← hobjects]
    rcases heffect with hm | ⟨hgains, hshort⟩
    · rw [hs', hm]
      exact hwritten
    · rw [hs']
      refine hwritten.gains hgains ⟨rfl, n.isSegment, hshort, _, path, ?_, hpath, ?_⟩
      · intro k
        exact Catalog.metadataLocation_congr
          (Catalog.metadataLocation_ofMetadata n n.table _ creation.properties) rfl
      · rw [OrderedMap.contains_eq, OrderedMap.get?_insert_self]
        rfl

theorem Sound.settle (hs : s.Sound) {result : Metastore.Outcome Memory}
    (h : ∀ m, result = .ok m → Sound ⟨m, s.objects⟩) (onError : Failure → CatalogError) :
    (s.settle result onError).2.Sound := by
  unfold Site.settle
  cases result with
  | ok m => exact h m rfl
  | error f => exact hs

theorem sound_createNamespace (hs : s.Sound) (n : NamespaceName) (properties : Properties) :
    ((Catalog.createNamespace n properties).perform answer s).2.Sound := by
  rw [perform_createNamespace]
  refine hs.settle ?_ _
  intro m hcreate
  obtain ⟨hshort, rfl⟩ := Memory.createDatabase_ok hcreate
  refine hs.setDatabase hshort ?_
  intro t r ht
  cases ht

theorem sound_updateNamespace (hs : s.Sound) (n : NamespaceName) (removals : KeySet)
    (updates : Properties) :
    ((Catalog.updateNamespace n removals updates).perform answer s).2.Sound := by
  by_cases hoverlap : Catalog.overlap removals updates = []
  · cases hget : s.metastore.getDatabase n.text with
    | error f =>
        rw [perform_updateNamespace_error hoverlap hget]
        exact hs
    | ok record =>
        rw [perform_updateNamespace_ok hoverlap hget]
        split
        · rename_i m hupdate
          obtain ⟨d, hd, rfl⟩ := Memory.updateDatabase_ok hupdate
          exact hs.setDatabase (hs.spaces _ d hd) fun t r ht => hs.tables _ d t r hd ht
        · exact hs
  · rw [perform_updateNamespace_overlap hoverlap]
    exact hs

theorem sound_dropTable (hs : s.Sound) (n : TableName) :
    ((Catalog.dropTable n).perform answer s).2.Sound := by
  rw [perform_dropTable]
  exact hs.settle (fun m hdelete => hs.loses (Memory.loses_of_deleteTable hdelete)) _

theorem sound_dropNamespace (hs : s.Sound) (c : Catalog) (n : NamespaceName) :
    ((c.dropNamespace n).perform answer s).2.Sound := by
  obtain ⟨o, hwalk⟩ := run_walkTables c n Listing.firstConsumer () s
  rw [perform_dropNamespace hwalk]
  cases o with
  | none => exact hs
  | some first =>
      cases first with
      | none =>
          refine hs.settle ?_ _
          intro m hdeleted
          rw [Memory.deleteDatabase_ok hdeleted]
          exact hs.eraseDatabase n.text
      | some result =>
          cases result with
          | ok t => exact hs
          | error e => exact hs

/-- **One request** keeps a site sound. -/
theorem sound_step (hs : s.Sound) (c : Catalog) (request : Request) :
    (s.step c request).2.Sound := by
  cases request with
  | createNamespace n properties =>
      rw [step_createNamespace]
      exact sound_createNamespace hs n properties
  | updateNamespace n removals updates =>
      rw [step_updateNamespace]
      exact sound_updateNamespace hs n removals updates
  | dropNamespace n =>
      rw [step_dropNamespace]
      exact sound_dropNamespace hs c n
  | createTable fresh n creation =>
      obtain ⟨outcome, s', hperform, hrun⟩ :=
        Catalog.exists_createRun answer c fresh n creation s
      rw [step_createTable, hperform]
      exact sound_of_createRun hs hrun
  | dropTable n =>
      rw [step_dropTable]
      exact sound_dropTable hs n
  | renameTable source target =>
      obtain ⟨outcome, s', hperform, hrun⟩ :=
        Catalog.exists_renameRun answer c source target s
      rw [step_renameTable, hperform]
      exact sound_of_renameRun hs hrun

/-- **A run of requests** keeps a site sound. -/
theorem sound_after (c : Catalog) (requests : List Request) (hs : s.Sound) :
    (s.after c requests).Sound := by
  induction requests generalizing s with
  | nil => exact hs
  | cons request requests ih => exact ih (sound_step hs c request)

end Site

end LakeCatalog
