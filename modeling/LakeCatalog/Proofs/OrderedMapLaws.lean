import LakeCatalog.OrderedMap

/-!
# Laws of ordered maps

What one operation on an ordered map does to the effect of another.  Everything here is about
the map as a whole, its order included, and not only about `get?`:

* `ext` — maps with the same entries are equal;
* `erase_insert_of_get?_none` — a new entry that is taken out again leaves no trace;
* `insert_eq_self`, `insert_insert` — a value that is written again, and one that is overwritten;
* `mem_entries_iff`, `entries_insert_of_get?_some` — what the entries say of a known key;
* `mapValues` — the map with every value replaced, which keeps keys and order and so commutes
  with `get?`, `insert` and `erase`.
-/

namespace LakeCatalog

open Entries (lookup erase)

variable {ν μ : Type}

namespace OrderedEntries

theorem erase_of_not_mem {k : String} {es : List (String × ν)} (h : k ∉ es.map (·.1)) :
    erase k es = es := by
  unfold erase
  rw [List.filter_eq_self]
  intro e he
  have hk : e.1 ≠ k := by
    rintro rfl
    exact h (List.mem_map_of_mem he)
  simpa using hk

theorem insert_of_lookup {k : String} {v : ν} {es : List (String × ν)}
    (h : lookup k es = some v) : insert k v es = es := by
  induction es with
  | nil => simp [lookup] at h
  | cons e es ih =>
      obtain ⟨a, w⟩ := e
      by_cases ha : a = k
      · simp only [lookup, ha, if_true, Option.some.injEq] at h
        simp only [insert, ha, if_true, h]
      · simp only [lookup, ha, if_false] at h
        simp only [insert, ha, if_false, ih h]

theorem lookup_of_mem {k : String} {v : ν} {es : List (String × ν)} (hes : Distinct es)
    (h : (k, v) ∈ es) : lookup k es = some v := by
  unfold Distinct at hes
  induction es with
  | nil => cases h
  | cons e es ih =>
      obtain ⟨a, w⟩ := e
      rw [List.map_cons, List.nodup_cons] at hes
      rcases List.mem_cons.1 h with hfirst | hlater
      · cases hfirst
        exact if_pos rfl
      · have ha : a ≠ k := by
          rintro rfl
          exact hes.1 (List.mem_map.2 ⟨_, hlater, rfl⟩)
        exact (if_neg ha).trans (ih hes.2 hlater)

theorem insert_of_mem {k : String} (v : ν) {es : List (String × ν)} (hes : Distinct es)
    (hk : k ∈ es.map (·.1)) : insert k v es = es.map fun e => if e.1 = k then (k, v) else e := by
  unfold Distinct at hes
  induction es with
  | nil => cases hk
  | cons e es ih =>
      obtain ⟨a, w⟩ := e
      rw [List.map_cons, List.nodup_cons] at hes
      by_cases ha : a = k
      · subst ha
        have hrest : es.map (fun e => if e.1 = a then (a, v) else e) = es := by
          refine (List.map_congr_left (g := id) ?_).trans (List.map_id es)
          intro e he
          refine if_neg ?_
          intro hkey
          exact hes.1 (List.mem_map.2 ⟨e, he, hkey⟩)
        rw [List.map_cons, hrest, if_pos rfl]
        exact if_pos rfl
      · have hk' : k ∈ es.map (·.1) := by
          rw [List.map_cons, List.mem_cons] at hk
          exact hk.resolve_left (Ne.symm ha)
        rw [List.map_cons, ← ih hes.2 hk', if_neg ha]
        exact if_neg ha

theorem insert_insert (k : String) (v w : ν) (es : List (String × ν)) :
    insert k w (insert k v es) = insert k w es := by
  induction es with
  | nil => simp [insert]
  | cons e es ih =>
      obtain ⟨a, u⟩ := e
      by_cases ha : a = k
      · simp [insert, ha]
      · simp [insert, ha, ih]

theorem lookup_map (f : ν → μ) (k : String) (es : List (String × ν)) :
    lookup k (es.map fun e => (e.1, f e.2)) = (lookup k es).map f := by
  induction es with
  | nil => rfl
  | cons e es ih =>
      obtain ⟨a, w⟩ := e
      by_cases ha : a = k
      · simp [lookup, ha]
      · simp only [List.map_cons, lookup, ha, if_false, ih]

theorem insert_map (f : ν → μ) (k : String) (v : ν) (es : List (String × ν)) :
    insert k (f v) (es.map fun e => (e.1, f e.2))
      = (insert k v es).map fun e => (e.1, f e.2) := by
  induction es with
  | nil => rfl
  | cons e es ih =>
      obtain ⟨a, w⟩ := e
      by_cases ha : a = k
      · simp [insert, ha]
      · simp only [List.map_cons, insert, ha, if_false, ih]

end OrderedEntries

namespace OrderedMap

variable {m : OrderedMap ν} {k a : String} {v : ν}

/-- Maps with the same entries in the same order are equal. -/
theorem ext {m m' : OrderedMap ν} (h : m.entries = m'.entries) : m = m' := by
  cases m
  cases m'
  cases h
  rfl

theorem contains_eq (m : OrderedMap ν) (k : String) : m.contains k = (m.get? k).isSome := rfl

theorem contains_of_get? (h : m.get? k = some v) : m.contains k = true := by
  rw [contains_eq, h]
  rfl

theorem get?_eq_none_of_contains (h : m.contains k = false) : m.get? k = none := by
  rw [contains_eq] at h
  exact Option.isNone_iff_eq_none.1 (by simpa using h)

theorem not_mem_keys (h : m.get? k = none) : k ∉ m.entries.map (·.1) := by
  intro hk
  have hc := (contains_iff m k).2 hk
  rw [contains_eq, h] at hc
  cases hc

@[simp] theorem get?_insert_self (m : OrderedMap ν) (k : String) (v : ν) :
    (m.insert k v).get? k = some v := by
  rw [get?_insert, if_pos rfl]

theorem get?_insert_of_ne (v : ν) (h : k ≠ a) : (m.insert k v).get? a = m.get? a := by
  rw [get?_insert, if_neg h]

@[simp] theorem get?_erase_self (m : OrderedMap ν) (k : String) : (m.erase k).get? k = none := by
  rw [get?_erase, if_pos rfl]

theorem get?_erase_of_ne (h : k ≠ a) : (m.erase k).get? a = m.get? a := by
  rw [get?_erase, if_neg h]

/-- **A new entry leaves no trace** once it is taken out again. -/
theorem erase_insert_of_get?_none (v : ν) (h : m.get? k = none) :
    (m.insert k v).erase k = m := by
  apply ext
  show Entries.erase k (OrderedEntries.insert k v m.entries) = m.entries
  have hk := not_mem_keys h
  rw [OrderedEntries.insert_of_not_mem v hk]
  show (m.entries ++ [(k, v)]).filter _ = m.entries
  rw [List.filter_append]
  have hrest : Entries.erase k m.entries = m.entries := OrderedEntries.erase_of_not_mem hk
  unfold Entries.erase at hrest
  rw [hrest]
  simp

/-- Writing the value that is there changes nothing. -/
theorem insert_eq_self (h : m.get? k = some v) : m.insert k v = m :=
  ext (OrderedEntries.insert_of_lookup h)

/-- The last value written to a key counts. -/
@[simp] theorem insert_insert (m : OrderedMap ν) (k : String) (v w : ν) :
    (m.insert k v).insert k w = m.insert k w :=
  ext (OrderedEntries.insert_insert k v w m.entries)

/-- The entries of a map that gained a key: the new one stands at the end. -/
theorem entries_insert_of_get?_none (v : ν) (h : m.get? k = none) :
    (m.insert k v).entries = m.entries ++ [(k, v)] :=
  OrderedEntries.insert_of_not_mem v (not_mem_keys h)

/-- The entries of a map are its keys, each with its value. -/
theorem mem_entries_iff : (k, v) ∈ m.entries ↔ m.get? k = some v :=
  ⟨OrderedEntries.lookup_of_mem m.distinct, Entries.mem_of_lookup_eq_some⟩

/-- The entries of a map with another value for a known key, which keeps its place. -/
theorem entries_insert_of_get?_some {w : ν} (v : ν) (h : m.get? k = some w) :
    (m.insert k v).entries = m.entries.map fun e => if e.1 = k then (k, v) else e :=
  OrderedEntries.insert_of_mem v m.distinct (List.mem_map_of_mem (mem_entries_iff.2 h))

theorem entries_erase (m : OrderedMap ν) (k : String) :
    (m.erase k).entries = m.entries.filter fun e => e.1 ≠ k := rfl

/-! ### Every value replaced -/

/-- The map with every value replaced; keys and their order stay. -/
def mapValues (f : ν → μ) (m : OrderedMap ν) : OrderedMap μ where
  entries := m.entries.map fun e => (e.1, f e.2)
  distinct := by
    unfold OrderedEntries.Distinct
    rw [List.map_map]
    exact m.distinct

variable (f : ν → μ)

theorem get?_mapValues (m : OrderedMap ν) (k : String) :
    (m.mapValues f).get? k = (m.get? k).map f :=
  OrderedEntries.lookup_map f k m.entries

theorem contains_mapValues (m : OrderedMap ν) (k : String) :
    (m.mapValues f).contains k = m.contains k := by
  rw [contains_eq, contains_eq, get?_mapValues, Option.isSome_map]

theorem mapValues_insert (m : OrderedMap ν) (k : String) (v : ν) :
    (m.insert k v).mapValues f = (m.mapValues f).insert k (f v) :=
  ext (OrderedEntries.insert_map f k v m.entries).symm

theorem mapValues_erase (m : OrderedMap ν) (k : String) :
    (m.erase k).mapValues f = (m.mapValues f).erase k := by
  apply ext
  show (m.entries.filter fun e => e.1 ≠ k).map _ = (m.entries.map _).filter _
  rw [List.filter_map]
  rfl

end OrderedMap

end LakeCatalog
