import LakeCatalog.Entries

/-!
# Maps in the order of insertion

A metastore lists what it holds in the order in which it was registered.  `OrderedMap ν` is a
list of entries whose keys are pairwise distinct, in that order:

* `insert` — a new key goes to the end, a known key keeps its place and takes the new value;
* `erase` — the entry goes, the others keep their order.

Each operation has a law on `get?` (`get?_insert`, `get?_erase`) and one on the order of the
keys (`keys_insert_of_contains`,
`entries_insert_of_not_contains`, `keys_erase`).
-/

namespace LakeCatalog

variable {ν : Type}

namespace OrderedEntries

open Entries (lookup erase)

/-- The entries with `k` bound to `v`: in its old place, or at the end when it is new. -/
def insert (k : String) (v : ν) : List (String × ν) → List (String × ν)
  | [] => [(k, v)]
  | (a, w) :: es => if a = k then (k, v) :: es else (a, w) :: insert k v es

/-- No key stands twice. -/
def Distinct (es : List (String × ν)) : Prop := (es.map (·.1)).Nodup

theorem keys_insert_of_mem {k : String} (v : ν) {es : List (String × ν)}
    (h : k ∈ es.map (·.1)) : (insert k v es).map (·.1) = es.map (·.1) := by
  induction es with
  | nil => simp at h
  | cons b es ih =>
    obtain ⟨a, w⟩ := b
    by_cases ha : a = k
    · simp [insert, ha]
    · have hk : ¬k = a := fun e => ha e.symm
      have : k ∈ es.map (·.1) := by simpa [hk] using h
      simp [insert, ha, ih this]

theorem insert_of_not_mem {k : String} (v : ν) {es : List (String × ν)}
    (h : k ∉ es.map (·.1)) : insert k v es = es ++ [(k, v)] := by
  induction es with
  | nil => rfl
  | cons b es ih =>
    obtain ⟨a, w⟩ := b
    have ha : ¬a = k := fun e => h (by simp [e])
    simp [insert, ha, ih fun m => h (by simp only [List.map_cons, List.mem_cons]; exact .inr m)]

theorem distinct_insert (k : String) (v : ν) {es : List (String × ν)} (h : Distinct es) :
    Distinct (insert k v es) := by
  unfold Distinct at h ⊢
  by_cases hk : k ∈ es.map (·.1)
  · rw [keys_insert_of_mem v hk]
    exact h
  · rw [insert_of_not_mem v hk, List.map_append]
    refine List.nodup_append.2 ⟨h, by simp, fun a ha b hb => ?_⟩
    have : b = k := by simpa using hb
    rintro rfl
    exact hk (this ▸ ha)

theorem distinct_erase (k : String) {es : List (String × ν)} (h : Distinct es) :
    Distinct (erase k es) :=
  h.sublist (List.filter_sublist.map _)

theorem lookup_insert (k a : String) (v : ν) (es : List (String × ν)) :
    lookup a (insert k v es) = if k = a then some v else lookup a es := by
  induction es with
  | nil => rfl
  | cons b es ih =>
    obtain ⟨c, w⟩ := b
    by_cases hc : c = k
    · subst hc
      by_cases h : c = a <;> simp [insert, lookup, h]
    · by_cases h : c = a
      · subst h
        have : ¬k = c := fun e => hc e.symm
        simp [insert, lookup, hc, this]
      · simp [insert, lookup, hc, h, ih]

end OrderedEntries

/-- A finite map from texts that remembers the order in which its keys were added. -/
structure OrderedMap (ν : Type) where
  entries : List (String × ν)
  distinct : OrderedEntries.Distinct entries

namespace OrderedMap

instance [DecidableEq ν] : DecidableEq (OrderedMap ν) :=
  fun a b => decidable_of_iff (a.entries = b.entries) <| by
    cases a; cases b; simp

/-- The map without entries. -/
def empty : OrderedMap ν := ⟨[], List.nodup_nil⟩

instance : Inhabited (OrderedMap ν) := ⟨empty⟩

/-- The value of a key, if the map has one. -/
def get? (m : OrderedMap ν) (k : String) : Option ν := Entries.lookup k m.entries

/-- Whether the map has a value for the key. -/
def contains (m : OrderedMap ν) (k : String) : Bool := (m.get? k).isSome

/-- The map with `k` bound to `v`: in its old place, or at the end when it is new. -/
def insert (m : OrderedMap ν) (k : String) (v : ν) : OrderedMap ν :=
  ⟨OrderedEntries.insert k v m.entries, OrderedEntries.distinct_insert k v m.distinct⟩

/-- The map without the key `k`; the other entries keep their order. -/
def erase (m : OrderedMap ν) (k : String) : OrderedMap ν :=
  ⟨Entries.erase k m.entries, OrderedEntries.distinct_erase k m.distinct⟩

/-- The keys, in the order in which they were added. -/
def keys (m : OrderedMap ν) : List String := m.entries.map (·.1)

/-- The values, in the order in which their keys were added. -/
def values (m : OrderedMap ν) : List ν := m.entries.map (·.2)

@[simp] theorem get?_empty (k : String) : (empty : OrderedMap ν).get? k = none := rfl

theorem get?_insert (m : OrderedMap ν) (k a : String) (v : ν) :
    (m.insert k v).get? a = if k = a then some v else m.get? a :=
  OrderedEntries.lookup_insert k a v m.entries

theorem get?_erase (m : OrderedMap ν) (k a : String) :
    (m.erase k).get? a = if k = a then none else m.get? a :=
  Entries.lookup_erase k a m.entries

theorem contains_iff (m : OrderedMap ν) (k : String) : m.contains k ↔ k ∈ m.keys :=
  Entries.lookup_isSome_iff

/-- A known key keeps its place. -/
theorem keys_insert_of_contains {m : OrderedMap ν} {k : String} (v : ν) (h : m.contains k) :
    (m.insert k v).keys = m.keys :=
  OrderedEntries.keys_insert_of_mem v ((contains_iff m k).1 h)

/-- A new key goes to the end, and the older entries stay as they are. -/
theorem entries_insert_of_not_contains {m : OrderedMap ν} {k : String} (v : ν)
    (h : ¬m.contains k) : (m.insert k v).entries = m.entries ++ [(k, v)] :=
  OrderedEntries.insert_of_not_mem v fun hk => h ((contains_iff m k).2 hk)

theorem keys_erase (m : OrderedMap ν) (k : String) :
    (m.erase k).keys = m.keys.filter (· ≠ k) :=
  Entries.keys_erase k m.entries

theorem keys_nodup (m : OrderedMap ν) : m.keys.Nodup := m.distinct

end OrderedMap

end LakeCatalog
