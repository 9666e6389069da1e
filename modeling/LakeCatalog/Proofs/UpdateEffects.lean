import LakeCatalog.Catalog.Namespaces
import Mathlib.Data.List.Sort

/-!
# What an update does to properties

An update of properties takes some keys out and sets others, one after another.

* `get?_eraseAll`, `get?_insertAll`, `get?_applyUpdate` — the properties after an update, by key;
* `applyUpdate_of_perm` — the order in which keys are taken out and set does not matter;
* `mem_overlap_iff`, `overlap_sorted` — the keys that are both taken out and set;
* `UpdateSummary.Accounts` — what the lists of a summary have to be; there is one such summary.
-/

namespace LakeCatalog

/-! ### Keys -/

namespace SortedMap

variable {κ ν : Type} [LT κ] [DecidableEq κ]

theorem contains_iff (m : SortedMap κ ν) (k : κ) : m.contains k ↔ k ∈ m.keys :=
  Entries.lookup_isSome_iff

/-- A key is out of the map when it is taken out among others, and is as it was when it is not. -/
theorem get?_eraseAll (m : SortedMap κ ν) (ks : List κ) (k : κ) :
    (ks.foldl (fun m k => m.erase k) m).get? k = if k ∈ ks then none else m.get? k := by
  induction ks generalizing m with
  | nil => rfl
  | cons a ks ih =>
      rw [List.foldl_cons, ih, get?_erase]
      by_cases hlater : k ∈ ks
      · rw [if_pos hlater, if_pos (List.mem_cons_of_mem a hlater)]
      · rw [if_neg hlater]
        by_cases hnow : a = k
        · rw [if_pos hnow, if_pos (hnow ▸ List.mem_cons_self)]
        · have hother : k ∉ a :: ks := by
            simp only [List.mem_cons, not_or]
            exact ⟨Ne.symm hnow, hlater⟩
          rw [if_neg hnow, if_neg hother]

/-- A key that is set once has the value that it is set to, and one that is not set has its old
value. -/
theorem get?_insertAll [DecidableLT κ] [KeyOrder κ] {es : List (κ × ν)}
    (hes : (es.map (·.1)).Nodup) (m : SortedMap κ ν) (k : κ) :
    (es.foldl (fun m e => m.insert e.1 e.2) m).get? k = (Entries.lookup k es).or (m.get? k) := by
  induction es generalizing m with
  | nil => rfl
  | cons e es ih =>
      obtain ⟨a, v⟩ := e
      rw [List.map_cons, List.nodup_cons] at hes
      have hhead : Entries.lookup k ((a, v) :: es)
          = if a = k then some v else Entries.lookup k es := rfl
      rw [List.foldl_cons, ih hes.2, get?_insert, hhead]
      by_cases hnow : a = k
      · subst hnow
        have hlater : Entries.lookup a es = none := by
          refine Entries.lookup_eq_none_iff.2 ?_
          intro e he hkey
          exact hes.1 (List.mem_map.2 ⟨e, he, hkey⟩)
        rw [if_pos rfl, if_pos rfl, hlater]
        rfl
      · rw [if_neg hnow, if_neg hnow]

omit [DecidableEq κ] in
theorem nodup_keys [KeyOrder κ] (m : SortedMap κ ν) : m.keys.Nodup := by
  refine m.keys_sorted.imp ?_
  rintro a b hlt rfl
  exact KeyOrder.irrefl a hlt

omit [DecidableEq κ] in
/-- A listing of the entries in any order names no key twice, -/
theorem nodup_of_perm [KeyOrder κ] (m : SortedMap κ ν) {es : List (κ × ν)}
    (hes : es.Perm m.entries) : (es.map (·.1)).Nodup :=
  (hes.map _).nodup_iff.2 m.nodup_keys

/-- and answers as the map does. -/
theorem lookup_of_perm [DecidableLT κ] [KeyOrder κ] (m : SortedMap κ ν) {es : List (κ × ν)}
    (hes : es.Perm m.entries) (k : κ) : Entries.lookup k es = m.get? k := by
  cases hv : Entries.lookup k es with
  | some v =>
      have hmem : (k, v) ∈ m.entries := hes.mem_iff.1 (Entries.mem_of_lookup_eq_some hv)
      exact (SortedEntries.lookup_eq_some_of_mem m.sorted hmem).symm
  | none =>
      refine (Entries.lookup_eq_none_iff.2 ?_).symm
      intro e he
      exact Entries.lookup_eq_none_iff.1 hv e (hes.mem_iff.2 he)

end SortedMap

/-! ### The properties after an update -/

namespace Catalog

variable {removals : KeySet} {updates properties : Properties}

/-- **The properties after an update**: the updates, and else the old ones that are not removed. -/
theorem get?_applyUpdate (removals : KeySet) (updates properties : Properties) (k : String) :
    (applyUpdate removals updates properties).get? k
      = (updates.get? k).or (if k ∈ removals.keys then none else properties.get? k) := by
  unfold applyUpdate
  rw [SortedMap.get?_insertAll updates.nodup_keys, SortedMap.get?_eraseAll]
  rfl

/-- A property that a record has in its own place and among its parameters is gone from both. -/
example : applyUpdate (.ofList [descriptionKey]) .empty
    { name := "db", description := some "sales",
      parameters := .ofList [(descriptionKey, "old")] : DatabaseRecord }.properties = .empty := by
  decide

/-- **The order does not matter** in which keys are taken out and set. -/
theorem applyUpdate_of_perm {ks : List String} {es : List (String × String)}
    (hks : ks.Perm removals.keys) (hes : es.Perm updates.entries) :
    es.foldl (fun p e => p.insert e.1 e.2) (ks.foldl (fun p k => p.erase k) properties)
      = applyUpdate removals updates properties := by
  apply SortedMap.ext
  intro k
  rw [SortedMap.get?_insertAll (updates.nodup_of_perm hes), SortedMap.get?_eraseAll,
    get?_applyUpdate, updates.lookup_of_perm hes]
  simp only [hks.mem_iff]

/-! ### Keys that are both removed and set -/

theorem mem_overlap_iff (k : String) :
    k ∈ overlap removals updates ↔ k ∈ removals.keys ∧ k ∈ updates.keys := by
  unfold overlap
  rw [List.mem_filter, SortedMap.contains_iff]

theorem overlap_sorted (removals : KeySet) (updates : Properties) :
    (overlap removals updates).Pairwise (· < ·) :=
  removals.keys_sorted.filter _

theorem overlap_eq_nil_iff :
    overlap removals updates = [] ↔ ∀ k ∈ removals.keys, k ∉ updates.keys := by
  simp only [List.eq_nil_iff_forall_not_mem, mem_overlap_iff, not_and]

end Catalog

/-! ### The summary -/

/-- What a summary has to say of an update of some properties: the removals fall into those that
were set before and those that were not, and all keys that are set are listed.  The lists are
sorted, and name no key twice. -/
structure UpdateSummary.Accounts (summary : UpdateSummary) (removals : KeySet)
    (updates properties : Properties) : Prop where
  removed : ∀ k, k ∈ summary.removed ↔ k ∈ removals.keys ∧ k ∈ properties.keys
  missing : ∀ k, k ∈ summary.missing ↔ k ∈ removals.keys ∧ k ∉ properties.keys
  updated : ∀ k, k ∈ summary.updated ↔ k ∈ updates.keys
  disjoint : ∀ k ∈ summary.removed, k ∉ summary.missing
  together : (summary.removed ++ summary.missing).Perm removals.keys
  removed_sorted : summary.removed.Pairwise (· < ·)
  missing_sorted : summary.missing.Pairwise (· < ·)
  updated_sorted : summary.updated.Pairwise (· < ·)

theorem Catalog.summarize_accounts (removals : KeySet) (updates properties : Properties) :
    (summarize removals updates properties).Accounts removals updates properties where
  removed := by
    intro k
    exact List.mem_filter.trans (and_congr_right fun _ => SortedMap.contains_iff properties k)
  missing := by
    intro k
    refine List.mem_filter.trans (and_congr_right fun _ => ?_)
    rw [← SortedMap.contains_iff, Bool.not_eq_true, Bool.not_eq_true']
  updated := fun _ => Iff.rfl
  disjoint := by
    intro k hremoved hmissing
    have hset := (List.mem_filter.1 hremoved).2
    have hunset := (List.mem_filter.1 hmissing).2
    rw [hset] at hunset
    cases hunset
  together := List.filter_append_perm properties.contains removals.keys
  removed_sorted := removals.keys_sorted.filter _
  missing_sorted := removals.keys_sorted.filter _
  updated_sorted := updates.keys_sorted

/-- There is one such summary only. -/
theorem UpdateSummary.Accounts.unique {summary summary' : UpdateSummary} {removals : KeySet}
    {updates properties : Properties} (h : summary.Accounts removals updates properties)
    (h' : summary'.Accounts removals updates properties) : summary = summary' := by
  have hremoved : summary.removed = summary'.removed :=
    h.removed_sorted.eq_of_mem_iff h'.removed_sorted
      fun k => (h.removed k).trans (h'.removed k).symm
  have hmissing : summary.missing = summary'.missing :=
    h.missing_sorted.eq_of_mem_iff h'.missing_sorted
      fun k => (h.missing k).trans (h'.missing k).symm
  have hupdated : summary.updated = summary'.updated :=
    h.updated_sorted.eq_of_mem_iff h'.updated_sorted
      fun k => (h.updated k).trans (h'.updated k).symm
  cases summary
  cases summary'
  cases hremoved
  cases hmissing
  cases hupdated
  rfl

end LakeCatalog
