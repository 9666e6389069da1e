import LakeCatalog.Proofs.Paging
import Mathlib.Data.List.Basic

/-!
# Pages of a list that changes between fetches

A listing is read page by page, and the token of a page is the number of entries before it.  While
it is read the list changes: entries go, others are added at the end, and those that stay keep
their order.  So an entry that stays can only move towards the front, and what is read of it
depends on whether it moves over the border of the next page.

* `Shifts` — a change of the list, in which some entries are known to stay;
* `idxOf_le`, `filter_take_sublist` — where these are after the change;
* `Shifting`, `seen` — a list that changes between the fetches, and what is read of it;
* `Shifting.seen_in_order` — what stays is read at most once, and in order;
* `Shifting.mem_seen_iff` — and it is read at all unless it slips under the border of a page;
* `Shifting.not_slips_of_front` — which it does not do when nothing before it goes.
-/

namespace LakeCatalog.Listing

section Change

variable {α : Type} {stays : α → Prop} {xs ys zs kept : List α} {a : α}

/-! ### One change -/

/-- Some entries of a list go, the others keep their order, and new ones are added at the end.
What stays is not among those that go. -/
def Shifts (stays : α → Prop) (xs ys : List α) : Prop :=
  ∃ kept added, kept.Sublist xs ∧ ys = kept ++ added ∧ ∀ a, stays a → a ∈ kept

theorem Shifts.of_sublist (h : ys.Sublist xs) (hys : ∀ a, stays a → a ∈ ys) : Shifts stays xs ys :=
  ⟨ys, [], h, (List.append_nil ys).symm, hys⟩

theorem Shifts.of_append (added : List α) (hxs : ∀ a, stays a → a ∈ xs) :
    Shifts stays xs (xs ++ added) :=
  ⟨xs, added, List.Sublist.refl xs, rfl, hxs⟩

theorem Shifts.refl (hxs : ∀ a, stays a → a ∈ xs) : Shifts stays xs xs :=
  .of_sublist (List.Sublist.refl xs) hxs

theorem Shifts.mem (h : Shifts stays xs ys) (ha : stays a) : a ∈ ys := by
  obtain ⟨kept, added, -, rfl, hkept⟩ := h
  exact List.mem_append_left added (hkept a ha)

/-- One change after another is a change. -/
theorem Shifts.trans (h : Shifts stays xs ys) (h' : Shifts stays ys zs) (hys : ys.Nodup) :
    Shifts stays xs zs := by
  obtain ⟨kept, added, hsub, rfl, hkept⟩ := h
  obtain ⟨kept', added', hsub', rfl, hkept'⟩ := h'
  obtain ⟨early, late, rfl, hearly, hlate⟩ := List.sublist_append_iff.1 hsub'
  refine ⟨early, late ++ added', hearly.trans hsub, List.append_assoc early late added', ?_⟩
  intro a ha
  rcases List.mem_append.1 (hkept' a ha) with hmem | hmem
  · exact hmem
  · -- It was there before, so it is not one of those that were added.
    exact absurd (hlate.subset hmem)
      fun hadded => (List.nodup_append.1 hys).2.2 a (hkept a ha) a hadded rfl

/-! ### Positions and order -/

/-- As long as nothing goes of the front of a list, it is the front of what is kept. -/
theorem take_eq_of_sublist (h : kept.Sublist xs) (hxs : xs.Nodup) {n : Nat}
    (hfront : ∀ b ∈ xs.take n, b ∈ kept) : kept.take n = xs.take n := by
  induction h generalizing n with
  | slnil => rfl
  | @cons kept xs b hsub ih =>
      rw [List.nodup_cons] at hxs
      cases n with
      | zero => rfl
      | succ n => exact absurd (hsub.subset (hfront b List.mem_cons_self)) hxs.1
  | @cons_cons kept xs b hsub ih =>
      rw [List.nodup_cons] at hxs
      cases n with
      | zero => rfl
      | succ n =>
          rw [List.take_succ_cons, List.take_succ_cons]
          congr 1
          refine ih hxs.2 fun d hd => ?_
          refine (List.mem_cons.1 (hfront d (List.mem_cons_of_mem b hd))).resolve_left ?_
          rintro rfl
          exact hxs.1 (List.mem_of_mem_take hd)

/-- The front of a list is as it was when all of it stays. -/
theorem Shifts.take_eq (h : Shifts stays xs ys) (hxs : xs.Nodup) {n : Nat} (hn : n ≤ xs.length)
    (hfront : ∀ b ∈ xs.take n, stays b) : ys.take n = xs.take n := by
  obtain ⟨kept, added, hsub, rfl, hkept⟩ := h
  have hsame : kept.take n = xs.take n :=
    take_eq_of_sublist hsub hxs fun b hb => hkept b (hfront b hb)
  have hlength : n ≤ kept.length := by
    have hlengths := congrArg List.length hsame
    rw [List.length_take, List.length_take] at hlengths
    omega
  rw [List.take_append_of_le_length hlength, hsame]

section Position

variable [DecidableEq α]

theorem idxOf_le_of_sublist (h : kept.Sublist xs) (hxs : xs.Nodup) (ha : a ∈ kept) :
    kept.idxOf a ≤ xs.idxOf a := by
  induction h with
  | slnil => exact Nat.le_refl _
  | @cons kept xs b hsub ih =>
      rw [List.nodup_cons] at hxs
      have hne : b ≠ a := by
        rintro rfl
        exact hxs.1 (hsub.subset ha)
      rw [List.idxOf_cons_ne _ hne]
      exact Nat.le_succ_of_le (ih hxs.2 ha)
  | @cons_cons kept xs b hsub ih =>
      rw [List.nodup_cons] at hxs
      by_cases hb : b = a
      · rw [hb, List.idxOf_cons_self]
        exact Nat.zero_le _
      · rw [List.idxOf_cons_ne _ hb, List.idxOf_cons_ne _ hb]
        refine Nat.succ_le_succ (ih hxs.2 ?_)
        exact (List.mem_cons.1 ha).resolve_left (Ne.symm hb)

/-- **What stays only moves towards the front.** -/
theorem Shifts.idxOf_le (h : Shifts stays xs ys) (hxs : xs.Nodup) (ha : stays a) :
    ys.idxOf a ≤ xs.idxOf a := by
  obtain ⟨kept, added, hsub, rfl, hkept⟩ := h
  rw [List.idxOf_append_of_mem (hkept a ha)]
  exact idxOf_le_of_sublist hsub hxs (hkept a ha)

end Position

section Filter

variable [DecidablePred stays]

theorem filter_take_sublist_of_sublist (h : kept.Sublist xs) (hxs : xs.Nodup)
    (hkept : ∀ b ∈ xs, stays b → b ∈ kept) (n : Nat) :
    ((xs.take n).filter stays).Sublist ((kept.take n).filter stays) := by
  induction h generalizing n with
  | slnil => exact List.Sublist.refl _
  | @cons kept xs b hsub ih =>
      rw [List.nodup_cons] at hxs
      cases n with
      | zero => exact List.Sublist.refl _
      | succ n =>
          have hgoes : ¬stays b := fun hb =>
            hxs.1 (hsub.subset (hkept b List.mem_cons_self hb))
          rw [List.take_succ_cons, List.filter_cons_of_neg (by simpa using hgoes)]
          have hrest := ih hxs.2 (fun d hd => hkept d (List.mem_cons_of_mem b hd)) n
          exact hrest.trans ((List.take_sublist_take_left (Nat.le_succ n)).filter _)
  | @cons_cons kept xs b hsub ih =>
      rw [List.nodup_cons] at hxs
      cases n with
      | zero => exact List.Sublist.refl _
      | succ n =>
          have hrest : ∀ d ∈ xs, stays d → d ∈ kept := by
            intro d hd hstays
            refine (List.mem_cons.1 (hkept d (List.mem_cons_of_mem b hd) hstays)).resolve_left ?_
            rintro rfl
            exact hxs.1 hd
          rw [List.take_succ_cons, List.take_succ_cons, List.filter_cons, List.filter_cons]
          split
          · exact (ih hxs.2 hrest n).cons_cons b
          · exact ih hxs.2 hrest n

/-- What stays of the front of a list is in the front afterwards, in the same order. -/
theorem Shifts.filter_take_sublist (h : Shifts stays xs ys) (hxs : xs.Nodup) (n : Nat) :
    ((xs.take n).filter stays).Sublist ((ys.take n).filter stays) := by
  obtain ⟨kept, added, hsub, rfl, hkept⟩ := h
  refine (filter_take_sublist_of_sublist hsub hxs (fun b _ hb => hkept b hb) n).trans ?_
  refine List.Sublist.filter _ ?_
  rw [List.take_append]
  exact List.sublist_append_left _ _

/-- What stays is in the order in which it was. -/
theorem Shifts.filter_sublist (h : Shifts stays xs ys) (hys : ys.Nodup) :
    (ys.filter stays).Sublist (xs.filter stays) := by
  obtain ⟨kept, added, hsub, rfl, hkept⟩ := h
  have hadded : added.filter stays = [] := by
    refine List.filter_eq_nil_iff.2 fun a ha hstays => ?_
    exact (List.nodup_append.1 hys).2.2 a (hkept a (of_decide_eq_true hstays)) a ha rfl
  rw [List.filter_append, hadded, List.append_nil]
  exact hsub.filter _

end Filter

end Change

/-! ### A list between fetches -/

section Walk

variable {α : Type} (names : Nat → List α) (size : Nat)

/-- The page that is fetched at a time: as many entries are passed over as were fetched before. -/
def pageOf (k : Nat) : List α := ((names k).drop (k * size)).take size

/-- What comes of the first fetches. -/
def seen : Nat → List α
  | 0 => []
  | k + 1 => seen k ++ pageOf names size k

/-- Between a fetch and the next one an entry slips from behind the page that is fetched next to
the entries before it. -/
def Slips [DecidableEq α] (k : Nat) (a : α) : Prop :=
  (k + 1) * size ≤ (names k).idxOf a ∧ (names (k + 1)).idxOf a < (k + 1) * size

/-- A list of which some entries stay from the first fetch to the last, which reaches its end. -/
structure Shifting (stays : α → Prop) (last : Nat) : Prop where
  nodup : ∀ k ≤ last, (names k).Nodup
  held : ∀ a, stays a → a ∈ names 0
  shifts : ∀ k < last, Shifts stays (names k) (names (k + 1))
  whole : (names last).length ≤ (last + 1) * size

namespace Shifting

variable {names size} {stays : α → Prop} {last j k : Nat} {a : α}
  (h : Shifting names size stays last)

include h

theorem mem (hk : k ≤ last) (ha : stays a) : a ∈ names k := by
  cases k with
  | zero => exact h.held a ha
  | succ k => exact (h.shifts k hk).mem ha

omit h in
/-- The pages up to one end where this one ends. -/
theorem take_append_pageOf (k : Nat) :
    (names k).take (k * size) ++ pageOf names size k = (names k).take ((k + 1) * size) := by
  rw [Nat.succ_mul, List.take_add]
  rfl

section Filter

variable [DecidablePred stays]

/-- What was read of the entries that stay is among the first entries, in the same order. -/
theorem seen_sublist_take (hk : k ≤ last) :
    ((seen names size (k + 1)).filter stays).Sublist
      (((names k).take ((k + 1) * size)).filter stays) := by
  induction k with
  | zero =>
      rw [← take_append_pageOf 0, Nat.zero_mul, List.take_zero]
      exact List.Sublist.refl _
  | succ k ih =>
      have hbefore := (ih (by omega)).trans
        ((h.shifts k hk).filter_take_sublist (h.nodup k (by omega)) _)
      rw [← take_append_pageOf (k + 1), List.filter_append]
      show ((seen names size (k + 1) ++ pageOf names size (k + 1)).filter stays).Sublist _
      rw [List.filter_append]
      exact hbefore.append (List.Sublist.refl _)

theorem filter_sublist (hk : k ≤ last) :
    ((names k).filter stays).Sublist ((names 0).filter stays) := by
  induction k with
  | zero => exact List.Sublist.refl _
  | succ k ih => exact ((h.shifts k hk).filter_sublist (h.nodup _ hk)).trans (ih (by omega))

/-- **What stays is read at most once, and in order.** -/
theorem seen_in_order :
    ((seen names size (last + 1)).filter stays).Sublist ((names 0).filter stays) := by
  have hall := h.seen_sublist_take (Nat.le_refl last)
  rw [List.take_of_length_le h.whole] at hall
  exact hall.trans (h.filter_sublist (Nat.le_refl last))

end Filter

omit h in
theorem mem_seen_iff_exists {m : Nat} :
    a ∈ seen names size m ↔ ∃ k < m, a ∈ pageOf names size k := by
  induction m with
  | zero =>
      refine iff_of_false List.not_mem_nil ?_
      rintro ⟨k, hk, -⟩
      omega
  | succ m ih =>
      show a ∈ seen names size m ++ pageOf names size m ↔ _
      rw [List.mem_append, ih]
      constructor
      · rintro (⟨k, hk, hmem⟩ | hmem)
        · exact ⟨k, by omega, hmem⟩
        · exact ⟨m, by omega, hmem⟩
      · rintro ⟨k, hk, hmem⟩
        rcases Nat.lt_succ_iff_lt_or_eq.1 hk with hlt | rfl
        · exact Or.inl ⟨k, hlt, hmem⟩
        · exact Or.inr hmem

section Position

variable [DecidableEq α]

theorem idxOf_mono (ha : stays a) (hj : j ≤ k) (hk : k ≤ last) :
    (names k).idxOf a ≤ (names j).idxOf a := by
  induction k with
  | zero => exact Nat.le_of_eq (by rw [Nat.le_zero.1 hj])
  | succ k ih =>
      rcases Nat.lt_or_eq_of_le hj with hlt | rfl
      · exact Nat.le_trans ((h.shifts k hk).idxOf_le (h.nodup k (by omega)) ha)
          (ih (Nat.le_of_lt_succ hlt) (by omega))
      · exact Nat.le_refl _

/-- An entry stands on a page when its position is one of the page. -/
theorem mem_pageOf_iff (hk : k ≤ last) (ha : stays a) : a ∈ pageOf names size k ↔
    k * size ≤ (names k).idxOf a ∧ (names k).idxOf a < (k + 1) * size := by
  have hmem := h.mem hk ha
  have hdistinct : ((names k).take (k * size) ++ pageOf names size k).Nodup := by
    rw [take_append_pageOf]
    exact (List.take_sublist _ _).nodup (h.nodup k hk)
  have hdisjoint := (List.nodup_append.1 hdistinct).2.2
  have hfront := List.mem_take_iff_idxOf_lt (n := (k + 1) * size) hmem
  rw [← take_append_pageOf, List.mem_append, List.mem_take_iff_idxOf_lt hmem] at hfront
  constructor
  · intro hpage
    refine ⟨?_, hfront.1 (Or.inr hpage)⟩
    by_contra hbefore
    have hearly := (List.mem_take_iff_idxOf_lt hmem).2 (Nat.lt_of_not_le hbefore)
    exact hdisjoint a hearly a hpage rfl
  · rintro ⟨hfrom, hto⟩
    exact (hfront.2 hto).resolve_left (Nat.not_lt_of_le hfrom)

/-- An entry that is not before a page and not on it is behind it. -/
theorem behind_of_not_mem (ha : stays a) (hk : k ≤ last) (hnot : a ∉ pageOf names size k)
    (hfrom : k * size ≤ (names k).idxOf a) : (k + 1) * size ≤ (names k).idxOf a := by
  by_contra hlt
  exact hnot ((h.mem_pageOf_iff hk ha).2 ⟨hfrom, Nat.lt_of_not_le hlt⟩)

/-- An entry that is on no page up to one is behind it, unless it slips. -/
theorem behind_of_not_seen (ha : stays a) (hk : k ≤ last)
    (hnot : ∀ j ≤ k, a ∉ pageOf names size j) (hslips : ∀ j < k, ¬Slips names size j a) :
    (k + 1) * size ≤ (names k).idxOf a := by
  induction k with
  | zero => exact h.behind_of_not_mem ha hk (hnot 0 (Nat.le_refl 0)) (by omega)
  | succ k ih =>
      have hbefore := ih (by omega) (fun j hj => hnot j (by omega)) fun j hj =>
        hslips j (by omega)
      refine h.behind_of_not_mem ha hk (hnot (k + 1) (Nat.le_refl _)) ?_
      by_contra hlt
      exact hslips k (by omega) ⟨hbefore, Nat.lt_of_not_le hlt⟩

/-- **What stays is read exactly when it never slips.** -/
theorem mem_seen_iff (ha : stays a) :
    a ∈ seen names size (last + 1) ↔ ∀ k < last, ¬Slips names size k a := by
  rw [mem_seen_iff_exists]
  constructor
  · rintro ⟨j, hj, hpage⟩ k hk ⟨hbehind, hbefore⟩
    obtain ⟨hfrom, hto⟩ := (h.mem_pageOf_iff (by omega) ha).1 hpage
    by_cases hjk : j ≤ k
    · -- The page was fetched before, so the entry was behind it then.
      have hmono := h.idxOf_mono ha hjk (by omega)
      have hsizes : (j + 1) * size ≤ (k + 1) * size := Nat.mul_le_mul_right size (by omega)
      omega
    · have hmono := h.idxOf_mono ha (j := k + 1) (k := j) (by omega) (by omega)
      have hsizes : (k + 1) * size ≤ j * size := Nat.mul_le_mul_right size (by omega)
      omega
  · intro hslips
    by_contra hnot
    have hbehind := h.behind_of_not_seen ha (Nat.le_refl last)
      (fun j hj hpage => hnot ⟨j, by omega, hpage⟩) hslips
    have hinside := List.idxOf_lt_length_iff.2 (h.mem (Nat.le_refl last) ha)
    have hwhole := h.whole
    omega

/-- **An entry does not slip** when all that stood before it stays. -/
theorem not_slips_of_front (ha : stays a)
    (hfront : ∀ b ∈ (names 0).take ((names 0).idxOf a), stays b) (hk : k < last) :
    ¬Slips names size k a := by
  -- All up to the entry is where it was, at any time.
  have hinside := List.idxOf_lt_length_iff.2 (h.held a ha)
  have hupto : ∀ b ∈ (names 0).take ((names 0).idxOf a + 1), stays b := by
    intro b hb
    rw [List.take_succ_eq_append_getElem hinside, List.mem_append, List.mem_singleton] at hb
    rcases hb with hb | rfl
    · exact hfront b hb
    · rwa [List.getElem_idxOf]
  have hsame : ∀ j ≤ last, (names j).take ((names 0).idxOf a + 1)
      = (names 0).take ((names 0).idxOf a + 1) := by
    intro j hj
    induction j with
    | zero => rfl
    | succ j ih =>
        have hbefore := ih (by omega)
        have hlength : (names 0).idxOf a + 1 ≤ (names j).length := by
          have hlengths := congrArg List.length hbefore
          rw [List.length_take, List.length_take] at hlengths
          omega
        rw [(h.shifts j hj).take_eq (h.nodup j (by omega)) hlength (by rwa [hbefore]), hbefore]
  have hposition : ∀ j ≤ last, (names j).idxOf a = (names 0).idxOf a := by
    intro j hj
    have hmem : a ∈ (names 0).take ((names 0).idxOf a + 1) :=
      (List.mem_take_iff_idxOf_lt (h.held a ha)).2 (Nat.lt_succ_self _)
    have hfirst := (List.take_prefix ((names 0).idxOf a + 1) (names 0)).idxOf_eq_of_mem hmem
    have hnow := (List.take_prefix ((names 0).idxOf a + 1) (names j)).idxOf_eq_of_mem
      (by rwa [hsame j hj])
    rw [hsame j hj] at hnow
    exact hnow.symm.trans hfirst
  rintro ⟨hbehind, hbefore⟩
  rw [hposition k (by omega)] at hbehind
  rw [hposition (k + 1) hk] at hbefore
  omega

end Position

end Shifting

end Walk

end LakeCatalog.Listing
