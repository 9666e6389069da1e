import LakeCatalog.Entries

/-!
# Maps in key order

A property bag has no order of its own: two bags are the same when they answer the same to
every key.  `SortedMap κ ν` is a list of entries in strictly increasing key order, so each
finite map has exactly one representation and equality of maps is equality of values.

* `get?`, `insert`, `erase`, `ofList` — the operations, each with its law on `get?`
  (`get?_insert`, `get?_erase`, `get?_empty`);
* `ext` — maps that answer alike are equal;
* `keys` — the keys, increasing and hence without repetition (`keys_sorted`).

The order of the keys is asked for through `KeyOrder`, of which texts (by code point) and
whole numbers of fixed width are instances.
-/

namespace LakeCatalog

/-- The keys stand in a strict total order. -/
class KeyOrder (κ : Type) [LT κ] : Prop where
  irrefl (a : κ) : ¬a < a
  trans {a b c : κ} : a < b → b < c → a < c
  connected (a b : κ) : a < b ∨ a = b ∨ b < a

instance : KeyOrder String where
  irrefl := String.lt_irrefl
  trans := String.lt_trans
  connected a b := by
    by_cases h₁ : a < b
    · exact .inl h₁
    · by_cases h₂ : b < a
      · exact .inr (.inr h₂)
      · exact .inr (.inl (String.le_antisymm (String.not_lt.1 h₂) (String.not_lt.1 h₁)))

instance : KeyOrder Int32 where
  irrefl _ := Int32.lt_irrefl
  trans := Int32.lt_trans
  connected a b := by
    simp only [Int32.lt_iff_toInt_lt, ← Int32.toInt_inj]
    omega

instance : KeyOrder Int64 where
  irrefl _ := Int64.lt_irrefl
  trans := Int64.lt_trans
  connected a b := by
    simp only [Int64.lt_iff_toInt_lt, ← Int64.toInt_inj]
    omega

variable {κ ν : Type} [LT κ] [DecidableEq κ] [DecidableLT κ]

namespace SortedEntries

open Entries (lookup erase lookup_eq_none_iff mem_of_lookup_eq_some)

/-- The entries with `k` bound to `v`, put in the place that the key order asks for. -/
def insert (k : κ) (v : ν) : List (κ × ν) → List (κ × ν)
  | [] => [(k, v)]
  | (a, w) :: es =>
    if k < a then (k, v) :: (a, w) :: es
    else if a = k then (k, v) :: es
    else (a, w) :: insert k v es

/-- Keys stand in strictly increasing order. -/
def Sorted (es : List (κ × ν)) : Prop :=
  es.Pairwise fun a b => a.1 < b.1

theorem mem_insert {k : κ} {v : ν} {es : List (κ × ν)} {e : κ × ν}
    (h : e ∈ insert k v es) : e = (k, v) ∨ e ∈ es := by
  induction es with
  | nil => simpa [insert] using h
  | cons b es ih =>
    obtain ⟨a, w⟩ := b
    simp only [insert] at h
    split at h
    · simpa using h
    · split at h
      · rcases List.mem_cons.1 h with h | h
        · exact .inl h
        · exact .inr (by simp [h])
      · rcases List.mem_cons.1 h with h | h
        · exact .inr (by simp [h])
        · rcases ih h with h | h
          · exact .inl h
          · exact .inr (by simp [h])

theorem sorted_insert [KeyOrder κ] (k : κ) (v : ν) {es : List (κ × ν)} (h : Sorted es) :
    Sorted (insert k v es) := by
  induction es with
  | nil => simp [insert, Sorted]
  | cons b es ih =>
    obtain ⟨a, w⟩ := b
    have hb := List.pairwise_cons.1 h
    simp only [insert]
    split
    next hlt =>
      refine List.pairwise_cons.2 ⟨fun e he => ?_, h⟩
      rcases List.mem_cons.1 he with rfl | he
      · exact hlt
      · exact KeyOrder.trans hlt (hb.1 e he)
    next hlt =>
      split
      next heq =>
        subst heq
        exact List.pairwise_cons.2 ⟨hb.1, hb.2⟩
      next hne =>
        refine List.pairwise_cons.2 ⟨fun e he => ?_, ih hb.2⟩
        rcases mem_insert he with rfl | he
        · rcases KeyOrder.connected a k with h | h | h
          · exact h
          · exact absurd h hne
          · exact absurd h hlt
        · exact hb.1 e he

omit [DecidableLT κ] in
theorem sorted_erase (k : κ) {es : List (κ × ν)} (h : Sorted es) : Sorted (erase k es) :=
  h.sublist List.filter_sublist

theorem lookup_insert (k a : κ) (v : ν) (es : List (κ × ν)) :
    lookup a (insert k v es) = if k = a then some v else lookup a es := by
  induction es with
  | nil => rfl
  | cons b es ih =>
    obtain ⟨c, w⟩ := b
    simp only [insert]
    split
    · rfl
    · split
      next hc => subst hc; by_cases h : c = a <;> simp [lookup, h]
      next hc =>
        by_cases h : c = a
        · have : ¬k = a := fun e => hc (h.trans e.symm)
          simp [lookup, h, this]
        · simp [lookup, h, ih]

omit [DecidableLT κ] in
/-- In a sorted list every entry is found under its key. -/
theorem lookup_eq_some_of_mem [KeyOrder κ] {k : κ} {v : ν} {es : List (κ × ν)}
    (hs : Sorted es) (h : (k, v) ∈ es) : lookup k es = some v := by
  induction es with
  | nil => simp at h
  | cons b es ih =>
    have hb := List.pairwise_cons.1 hs
    rcases List.mem_cons.1 h with rfl | h
    · simp [lookup]
    · have hlt := hb.1 _ h
      have : ¬b.1 = k := fun e => KeyOrder.irrefl k (by simpa [e] using hlt)
      simp [lookup, this, ih hb.2 h]

omit [DecidableLT κ] in
/-- Sorted lists that answer alike are equal. -/
theorem eq_of_lookup_eq [KeyOrder κ] {es fs : List (κ × ν)} (he : Sorted es) (hf : Sorted fs)
    (h : ∀ k, lookup k es = lookup k fs) : es = fs := by
  induction es generalizing fs with
  | nil =>
    cases fs with
    | nil => rfl
    | cons f fs => simpa [lookup] using h f.1
  | cons e es ih =>
    obtain ⟨a, v⟩ := e
    have hes := List.pairwise_cons.1 he
    cases fs with
    | nil => simpa [lookup] using h a
    | cons f fs =>
      obtain ⟨b, w⟩ := f
      have hfs := List.pairwise_cons.1 hf
      have key : a = b := by
        rcases KeyOrder.connected a b with hab | hab | hab
        · have hne : ¬b = a := fun e => KeyOrder.irrefl a (by simpa [e] using hab)
          have := h a
          simp only [lookup, if_true, if_neg hne] at this
          exact absurd (hfs.1 _ (mem_of_lookup_eq_some this.symm))
            fun hba => KeyOrder.irrefl a (KeyOrder.trans hab hba)
        · exact hab
        · have hne : ¬a = b := fun e => KeyOrder.irrefl b (by simpa [e] using hab)
          have := h b
          simp only [lookup, if_true, if_neg hne] at this
          exact absurd (hes.1 _ (mem_of_lookup_eq_some this))
            fun hba => KeyOrder.irrefl b (KeyOrder.trans hab hba)
      subst key
      have hv : v = w := by simpa [lookup] using h a
      subst hv
      refine congrArg _ (ih hes.2 hfs.2 fun k => ?_)
      by_cases hk : a = k
      · subst hk
        rw [lookup_eq_none_iff.2, lookup_eq_none_iff.2]
        · exact fun e he e' => KeyOrder.irrefl a (by simpa [e'] using hfs.1 e he)
        · exact fun e he e' => KeyOrder.irrefl a (by simpa [e'] using hes.1 e he)
      · simpa [lookup, hk] using h k

end SortedEntries

/-- A finite map, held as its entries in strictly increasing key order. -/
structure SortedMap (κ ν : Type) [LT κ] where
  entries : List (κ × ν)
  sorted : SortedEntries.Sorted entries

namespace SortedMap

instance {κ ν : Type} [LT κ] [DecidableEq κ] [DecidableEq ν] : DecidableEq (SortedMap κ ν) :=
  fun a b => decidable_of_iff (a.entries = b.entries) <| by
    cases a; cases b; simp

/-- The map without entries. -/
def empty : SortedMap κ ν := ⟨[], List.Pairwise.nil⟩

instance : Inhabited (SortedMap κ ν) := ⟨empty⟩

/-- The value of a key, if the map has one. -/
def get? (m : SortedMap κ ν) (k : κ) : Option ν := Entries.lookup k m.entries

/-- Whether the map has a value for the key. -/
def contains (m : SortedMap κ ν) (k : κ) : Bool := (m.get? k).isSome

/-- The map with `k` bound to `v`; an older value of the key gives way. -/
def insert [KeyOrder κ] (m : SortedMap κ ν) (k : κ) (v : ν) : SortedMap κ ν :=
  ⟨SortedEntries.insert k v m.entries, SortedEntries.sorted_insert k v m.sorted⟩

/-- The map without the key `k`. -/
def erase (m : SortedMap κ ν) (k : κ) : SortedMap κ ν :=
  ⟨Entries.erase k m.entries, SortedEntries.sorted_erase k m.sorted⟩

/-- The map of a list of entries; of two entries with one key the later counts. -/
def ofList [KeyOrder κ] (es : List (κ × ν)) : SortedMap κ ν :=
  es.foldl (fun m e => m.insert e.1 e.2) empty

/-- The keys, in increasing order. -/
def keys (m : SortedMap κ ν) : List κ := m.entries.map (·.1)

/-- The values, in the order of their keys. -/
def values (m : SortedMap κ ν) : List ν := m.entries.map (·.2)

/-- Whether the map has no entry. -/
def isEmpty (m : SortedMap κ ν) : Bool := m.entries.isEmpty

omit [DecidableLT κ] in
@[simp] theorem get?_empty (k : κ) : (empty : SortedMap κ ν).get? k = none := rfl

theorem get?_insert [KeyOrder κ] (m : SortedMap κ ν) (k a : κ) (v : ν) :
    (m.insert k v).get? a = if k = a then some v else m.get? a :=
  SortedEntries.lookup_insert k a v m.entries

omit [DecidableLT κ] in
theorem get?_erase (m : SortedMap κ ν) (k a : κ) :
    (m.erase k).get? a = if k = a then none else m.get? a :=
  Entries.lookup_erase k a m.entries

omit [DecidableLT κ] in
/-- Maps that answer alike are equal. -/
theorem ext [KeyOrder κ] {m n : SortedMap κ ν} (h : ∀ k, m.get? k = n.get? k) : m = n := by
  have := SortedEntries.eq_of_lookup_eq m.sorted n.sorted h
  cases m; cases n; simp_all

omit [DecidableEq κ] [DecidableLT κ] in
theorem eq_empty_of_isEmpty {m : SortedMap κ ν} (h : m.isEmpty = true) : m = empty := by
  obtain ⟨entries, hsorted⟩ := m
  cases List.isEmpty_iff.1 h
  rfl

omit [DecidableEq κ] [DecidableLT κ] in
/-- The keys increase, so none stands twice. -/
theorem keys_sorted (m : SortedMap κ ν) : m.keys.Pairwise (· < ·) :=
  List.pairwise_map.2 m.sorted

end SortedMap

end LakeCatalog
