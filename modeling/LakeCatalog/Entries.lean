/-!
# Entries: lists of keys with values

Both kinds of map in this library, the one in key order and the one in order of insertion, hold
a list of entries.  This file has what does not depend on the order: looking a key up and
taking it out.

* `lookup` — the value of the first entry with the key;
* `erase` — all entries but those with the key, in their old order (`lookup_erase`,
  `keys_erase`).
-/

namespace LakeCatalog.Entries

variable {κ ν : Type} [DecidableEq κ]

/-- The value of the first entry with the key. -/
def lookup (k : κ) : List (κ × ν) → Option ν
  | [] => none
  | (a, v) :: es => if a = k then some v else lookup k es

/-- The entries without the key `k`. -/
def erase (k : κ) (es : List (κ × ν)) : List (κ × ν) :=
  es.filter fun e => e.1 ≠ k

theorem lookup_erase (k a : κ) (es : List (κ × ν)) :
    lookup a (erase k es) = if k = a then none else lookup a es := by
  induction es with
  | nil => simp [erase, lookup]
  | cons b es ih =>
    obtain ⟨c, w⟩ := b
    unfold erase at ih ⊢
    by_cases hc : c = k
    · subst hc
      by_cases ha : c = a <;> simp_all [lookup]
    · by_cases ha : c = a
      · have : ¬k = a := fun e => hc (ha.trans e.symm)
        simp_all [lookup]
      · simp_all [lookup]

theorem keys_erase (k : κ) (es : List (κ × ν)) :
    (erase k es).map (·.1) = (es.map (·.1)).filter (· ≠ k) := by
  induction es with
  | nil => rfl
  | cons b es ih =>
    unfold erase at ih ⊢
    by_cases h : b.1 = k <;> simp_all

theorem lookup_eq_none_iff {k : κ} {es : List (κ × ν)} :
    lookup k es = none ↔ ∀ e ∈ es, e.1 ≠ k := by
  induction es with
  | nil => simp [lookup]
  | cons b es ih => by_cases h : b.1 = k <;> simp [lookup, h, ih]

theorem lookup_isSome_iff {k : κ} {es : List (κ × ν)} :
    (lookup k es).isSome ↔ k ∈ es.map (·.1) := by
  induction es with
  | nil => simp [lookup]
  | cons b es ih =>
    by_cases h : b.1 = k
    · simp [lookup, h]
    · have : ¬k = b.1 := fun e => h e.symm
      simpa [lookup, h, this] using ih

theorem mem_of_lookup_eq_some {k : κ} {v : ν} {es : List (κ × ν)}
    (h : lookup k es = some v) : (k, v) ∈ es := by
  induction es with
  | nil => simp [lookup] at h
  | cons b es ih =>
    obtain ⟨c, w⟩ := b
    by_cases hc : c = k
    · simp [lookup, hc] at h
      simp [hc, h]
    · simp [lookup, hc] at h
      simp [ih h]

end LakeCatalog.Entries
