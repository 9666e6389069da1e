import LakeCatalog.Proofs.PropertyUpdates

/-!
# Namespaces and their records

The properties of a namespace are a bag without an order, and whoever makes a record of them goes
through the bag in some order: two of the properties go to places of their own, all others among
the parameters.  A record that was written by someone else may have these two among its parameters
as well, so that there are more records than bags of properties.

* `kept` — what a record keeps of a property, wherever it keeps it;
* `file`, `ofEntries` — a record with one more property, and the record of a list of properties;
* `Tidy` — the records whose parameters leave out the two properties with places of their own;
* `translates_both_ways` — the properties of a namespace always come back from its record, and a
  record comes back from its properties if and only if it is tidy.
-/

namespace LakeCatalog

theorem locationKey_ne_descriptionKey : locationKey ≠ descriptionKey := by decide

namespace DatabaseRecord

/-- What the record keeps of a property: the two that have places of their own are looked for
there, and nowhere else. -/
def kept (r : DatabaseRecord) (k : String) : Option String :=
  if k = descriptionKey then r.description
  else if k = locationKey then r.locationUri
  else r.parameters.get? k

/-- The record with one more property. -/
def file (r : DatabaseRecord) (property : String × String) : DatabaseRecord :=
  if property.1 = descriptionKey then { r with description := some property.2 }
  else if property.1 = locationKey then { r with locationUri := some property.2 }
  else { r with parameters := r.parameters.insert property.1 property.2 }

/-- The record of a namespace with some properties, which are filed one after another. -/
def ofEntries (name : String) (properties : List (String × String)) : DatabaseRecord :=
  properties.foldl file { name }

/-- No property that has a place of its own stands among the parameters. -/
structure Tidy (r : DatabaseRecord) : Prop where
  description : descriptionKey ∉ r.parameters.keys
  location : locationKey ∉ r.parameters.keys

variable {r r' : DatabaseRecord}

/-! ### Tidy records -/

theorem tidy_iff : r.Tidy ↔
    r.parameters.get? descriptionKey = none ∧ r.parameters.get? locationKey = none := by
  have habsent : ∀ k, k ∉ r.parameters.keys ↔ r.parameters.get? k = none := by
    intro k
    rw [← SortedMap.contains_iff]
    simp [SortedMap.contains]
  constructor
  · intro h
    exact ⟨(habsent _).1 h.description, (habsent _).1 h.location⟩
  · intro h
    exact ⟨(habsent _).2 h.1, (habsent _).2 h.2⟩

/-- A tidy record is told by its name and by what it keeps. -/
theorem Tidy.eq_of_kept (h : r.Tidy) (h' : r'.Tidy) (hname : r.name = r'.name)
    (hkept : ∀ k, r.kept k = r'.kept k) : r = r' := by
  obtain ⟨hdescription, hlocation⟩ := tidy_iff.1 h
  obtain ⟨hdescription', hlocation'⟩ := tidy_iff.1 h'
  have hparameters : r.parameters = r'.parameters := by
    apply SortedMap.ext
    intro k
    by_cases hd : k = descriptionKey
    · rw [hd, hdescription, hdescription']
    · by_cases hl : k = locationKey
      · rw [hl, hlocation, hlocation']
      · simpa [kept, hd, hl] using hkept k
  have hdescriptions : r.description = r'.description := hkept descriptionKey
  have hlocations : r.locationUri = r'.locationUri := hkept locationKey
  cases r
  cases r'
  simp_all

/-! ### Filing properties -/

@[simp] theorem name_file (r : DatabaseRecord) (e : String × String) : (r.file e).name = r.name := by
  simp only [file]
  split
  · rfl
  · split <;> rfl

theorem kept_file (r : DatabaseRecord) (e : String × String) (k : String) :
    (r.file e).kept k = if e.1 = k then some e.2 else r.kept k := by
  have hapart := locationKey_ne_descriptionKey
  by_cases hd : e.1 = descriptionKey
  · by_cases hk : k = descriptionKey <;> simp [file, kept, hd, hk, eq_comm]
  · by_cases hl : e.1 = locationKey
    · by_cases hk : k = locationKey
      · simp [file, kept, hl, hk, hapart]
      · simp [file, kept, hl, hk, hapart, eq_comm]
    · by_cases hk : e.1 = k
      · simp [file, kept, hd, hl, ← hk, SortedMap.get?_insert]
      · simp [file, kept, hd, hl, hk, SortedMap.get?_insert]

theorem Tidy.file (h : r.Tidy) (e : String × String) : (r.file e).Tidy := by
  obtain ⟨hdescription, hlocation⟩ := tidy_iff.1 h
  apply tidy_iff.2
  by_cases hd : e.1 = descriptionKey
  · simp [DatabaseRecord.file, hd, hdescription, hlocation]
  · by_cases hl : e.1 = locationKey
    · simp [DatabaseRecord.file, hl, locationKey_ne_descriptionKey, hdescription, hlocation]
    · simp [DatabaseRecord.file, hd, hl, hdescription, hlocation, SortedMap.get?_insert]

/-- What is kept after some properties were filed, none of them twice: these, and else what was
kept before. -/
theorem foldl_file {es : List (String × String)} (hes : (es.map (·.1)).Nodup) (hr : r.Tidy) :
    (es.foldl file r).name = r.name ∧ (es.foldl file r).Tidy ∧
      ∀ k, (es.foldl file r).kept k = (Entries.lookup k es).or (r.kept k) := by
  induction es generalizing r with
  | nil => exact ⟨rfl, hr, fun k => rfl⟩
  | cons e es ih =>
      rw [List.map_cons, List.nodup_cons] at hes
      obtain ⟨hname, htidy, hkept⟩ := ih hes.2 (hr.file e)
      refine ⟨by simpa using hname, htidy, ?_⟩
      intro k
      show (es.foldl file (r.file e)).kept k = _
      rw [hkept, kept_file]
      by_cases hk : e.1 = k
      · have hlater : Entries.lookup k es = none := by
          apply Entries.lookup_eq_none_iff.2
          intro e' he' hkey
          exact hes.1 (List.mem_map.2 ⟨e', he', hkey.trans hk.symm⟩)
        simp [Entries.lookup, hk, hlater]
      · simp [Entries.lookup, hk]

/-! ### The record of a bag of properties -/

theorem kept_ofProperties (name : String) (p : Properties) (k : String) :
    (ofProperties name p).kept k = p.get? k := by
  by_cases hd : k = descriptionKey
  · simp [kept, ofProperties, hd]
  · by_cases hl : k = locationKey
    · simp [kept, ofProperties, hl, locationKey_ne_descriptionKey]
    · simp [kept, ofProperties, hd, hl, SortedMap.get?_erase, eq_comm]

theorem tidy_ofProperties (name : String) (p : Properties) : (ofProperties name p).Tidy := by
  apply tidy_iff.2
  simp [ofProperties, SortedMap.get?_erase]

/-- **The order does not matter** in which the properties are filed. -/
theorem ofEntries_of_perm (name : String) {p : Properties} {es : List (String × String)}
    (hes : es.Perm p.entries) : ofEntries name es = ofProperties name p := by
  have hempty : ({ name } : DatabaseRecord).Tidy := tidy_iff.2 ⟨rfl, rfl⟩
  obtain ⟨hname, htidy, hkept⟩ := foldl_file (p.nodup_of_perm hes) hempty
  apply htidy.eq_of_kept (tidy_ofProperties name p) hname
  intro k
  have hnothing : ({ name } : DatabaseRecord).kept k = none := by simp [kept]
  rw [hkept, kept_ofProperties, p.lookup_of_perm hes, hnothing, Option.or_none]

/-! ### The properties in a record -/

/-- The properties in a record are what it keeps, and what its parameters say beside that. -/
theorem get?_properties (r : DatabaseRecord) (k : String) :
    r.properties.get? k = (r.kept k).or (r.parameters.get? k) := by
  have hapart := locationKey_ne_descriptionKey
  rw [properties_eq, Properties.get?_set?, Properties.get?_set?]
  by_cases hd : k = descriptionKey
  · simp [kept, hd, hapart]
  · by_cases hl : k = locationKey
    · simp [kept, hl, hapart, hapart.symm]
    · simp [kept, hd, hl, eq_comm]

/-- **A record comes back from its properties** if and only if it is tidy. -/
theorem ofProperties_properties_iff (r : DatabaseRecord) :
    ofProperties r.name r.properties = r ↔ r.Tidy := by
  constructor
  · intro h
    rw [← h]
    exact tidy_ofProperties r.name r.properties
  · intro h
    obtain ⟨hdescription, hlocation⟩ := tidy_iff.1 h
    apply (tidy_ofProperties r.name r.properties).eq_of_kept h rfl
    intro k
    rw [kept_ofProperties, get?_properties]
    by_cases hd : k = descriptionKey
    · rw [hd, hdescription, Option.or_none]
    · by_cases hl : k = locationKey
      · rw [hl, hlocation, Option.or_none]
      · simp [kept, hd, hl]

/-- **Properties and records translate into each other.**  Whatever order the properties are filed
in, the record is the same and gives them back.  The record made from the properties of a record has
the same properties again, and is that record if and only if its parameters name neither of the
properties that have places of their own. -/
theorem translates_both_ways :
    (∀ (name : String) (p : Properties) (es : List (String × String)), es.Perm p.entries →
      ofEntries name es = ofProperties name p ∧ (ofEntries name es).properties = p) ∧
    ∀ (r : DatabaseRecord) (es : List (String × String)), es.Perm r.properties.entries →
      (ofEntries r.name es).properties = r.properties ∧
        (ofEntries r.name es = r ↔
          descriptionKey ∉ r.parameters.keys ∧ locationKey ∉ r.parameters.keys) := by
  constructor
  · intro name p es hes
    rw [ofEntries_of_perm name hes]
    exact ⟨rfl, properties_ofProperties name p⟩
  · intro r es hes
    rw [ofEntries_of_perm r.name hes]
    refine ⟨properties_ofProperties r.name r.properties, ?_⟩
    rw [ofProperties_properties_iff]
    exact ⟨fun h => ⟨h.description, h.location⟩, fun h => ⟨h.1, h.2⟩⟩

/-- A record with both places in use and both properties among its parameters as well. -/
def untidy : DatabaseRecord where
  name := "db"
  description := some "sales"
  locationUri := some "s3://w/db"
  parameters := .ofList [(descriptionKey, "old"), (locationKey, "s3://old"), ("team", "a")]

/-- Its properties, in an order that is not that of the bag. -/
def untidyEntries : List (String × String) :=
  [(locationKey, "s3://w/db"), ("team", "a"), (descriptionKey, "sales")]

/-- The untidy record loses what its parameters say of the two properties, and nothing else. -/
theorem translates_both_ways_untidy : untidyEntries.Perm untidy.properties.entries ∧
    (ofEntries untidy.name untidyEntries).properties = untidy.properties ∧
    ofEntries untidy.name untidyEntries ≠ untidy := by
  have hperm : untidyEntries.Perm untidy.properties.entries := by decide
  obtain ⟨hproperties, hiff⟩ := translates_both_ways.2 untidy untidyEntries hperm
  refine ⟨hperm, hproperties, ?_⟩
  intro hsame
  exact absurd (hiff.1 hsame).1 (by decide)

end DatabaseRecord

end LakeCatalog
