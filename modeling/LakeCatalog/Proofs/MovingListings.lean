import LakeCatalog.Proofs.Filing
import LakeCatalog.Proofs.Removals
import LakeCatalog.Proofs.ShiftingPages
import LakeCatalog.Proofs.TableListing
import Mathlib.Data.List.Nodup

/-!
# Listings while others make calls

A listing asks for one page after the other, and in between other clients may make any calls to the
metastore.  The token of a page is the number of records before it, so a table that is dropped moves
those behind it towards pages that were fetched already.

* `Memory.tableNames`, `Memory.spaceNames` — what is listed, and that every call shifts it;
* `Traffic` — what other clients do before each question, and `Site.busy`, which answers in between;
* `run_walk_shifting` — what comes of a listing whose records change;
* `YieldsOnce` — that what stays is yielded in order, at most once, and exactly once unless it
  slips;
* `Site.listings_in_motion` — so it is with the tables of a namespace and with the namespaces;
* `MovingListing.listing_misses_table` — a table that stays and is not yielded.
-/

namespace LakeCatalog

open Listing (Shifts Shifting Slips pageOf seen)
open Metastore (Call DatabaseState Failure Inventory Memory)

/-! ### What is listed -/

namespace Metastore.Memory

variable {m m' : Memory} {space name : String} {stays : String → Prop}

/-- The names of the tables of a database, in the order in which they were added. -/
def tableNames (m : Memory) (space : String) : List String :=
  match m.databases.get? space with
  | some d => d.tables.keys
  | none => []

/-- The names of the databases, in the order in which they were created. -/
def spaceNames (m : Memory) : List String := m.databases.keys

theorem tableNames_of_get? {d : DatabaseState} (hd : m.databases.get? space = some d) :
    m.tableNames space = d.tables.keys := by
  unfold tableNames
  rw [hd]

theorem tableNames_of_get?_none (hd : m.databases.get? space = none) :
    m.tableNames space = [] := by
  unfold tableNames
  rw [hd]

theorem tableNames_congr (h : m'.databases.get? space = m.databases.get? space) :
    m'.tableNames space = m.tableNames space := by
  unfold tableNames
  rw [h]

theorem nodup_tableNames (m : Memory) (space : String) : (m.tableNames space).Nodup := by
  unfold tableNames
  cases m.databases.get? space with
  | some d => exact d.tables.keys_nodup
  | none => exact List.nodup_nil

theorem tableNames_setDatabase (d : DatabaseState) :
    (m.setDatabase name d).tableNames space
      = if name = space then d.tables.keys else m.tableNames space := by
  by_cases hname : name = space
  · have hd : (m.setDatabase name d).databases.get? space = some d := by
      rw [get?_setDatabase, if_pos hname]
    rw [if_pos hname, tableNames_of_get? hd]
  · rw [if_neg hname]
    refine tableNames_congr ?_
    rw [get?_setDatabase, if_neg hname]

/-- A call shifts what it changes if it succeeds, and nothing if it fails. -/
theorem shifts_changed (view : Memory → List String) {result : Outcome Memory}
    (hbefore : ∀ t, stays t → t ∈ view m)
    (hafter : ∀ t, stays t → t ∈ view (m.changed result).2)
    (hok : ∀ m', result = .ok m' → (∀ t, stays t → t ∈ view m') →
      Shifts stays (view m) (view m')) :
    Shifts stays (view m) (view (m.changed result).2) := by
  cases result with
  | error f => exact .refl hbefore
  | ok m' => exact hok m' rfl hafter

/-- A database that is set with other tables changes the names in it. -/
theorem shifts_setDatabase {d' : DatabaseState}
    (hstays : ∀ t, stays t → t ∈ m.tableNames space)
    (hkeys : name = space → Shifts stays (m.tableNames space) d'.tables.keys) :
    Shifts stays (m.tableNames space) ((m.setDatabase name d').tableNames space) := by
  rw [tableNames_setDatabase]
  by_cases hname : name = space
  · rw [if_pos hname]
    exact hkeys hname
  · rw [if_neg hname]
    exact .refl hstays

/-- **Every call shifts the tables of a database**: those that are there before and after it keep
their order. -/
theorem shifts_tableNames (c : Call) (hbefore : ∀ t, stays t → t ∈ m.tableNames space)
    (hafter : ∀ t, stays t → t ∈ (m.respond c).2.tableNames space) :
    Shifts stays (m.tableNames space) ((m.respond c).2.tableNames space) := by
  cases c with
  | getTable database t => exact .refl hbefore
  | getTables database token => exact .refl hbefore
  | getDatabase name => exact .refl hbefore
  | getDatabases token => exact .refl hbefore
  | createTable database r =>
      refine shifts_changed (·.tableNames space) hbefore hafter fun m' h _ => ?_
      obtain ⟨d, hd, rfl⟩ := createTable_ok h
      refine shifts_setDatabase hbefore ?_
      rintro rfl
      have hkeys : (d.tables.insert r.name { r with databaseName := some database }).keys
          = m.tableNames database ++ [r.name] := by
        unfold OrderedMap.keys
        rw [OrderedMap.entries_insert_of_get?_none _ (free_of_createTable h hd), List.map_append,
          tableNames_of_get? hd]
        rfl
      show Shifts stays _ (d.tables.insert r.name { r with databaseName := some database }).keys
      rw [hkeys]
      exact .of_append _ hbefore
  | deleteTable database t =>
      refine shifts_changed (·.tableNames space) hbefore hafter fun m' h hlater => ?_
      obtain ⟨d, hd, rfl⟩ := deleteTable_ok h
      refine shifts_setDatabase hbefore ?_
      rintro rfl
      rw [tableNames_setDatabase, if_pos rfl] at hlater
      refine .of_sublist ?_ hlater
      rw [tableNames_of_get? hd]
      show (d.tables.erase t).keys.Sublist _
      rw [OrderedMap.keys_erase]
      exact List.filter_sublist
  | createDatabase record =>
      refine shifts_changed (·.tableNames space) hbefore hafter fun m' h hlater => ?_
      obtain ⟨-, rfl⟩ := createDatabase_ok h
      refine shifts_setDatabase hbefore ?_
      rintro rfl
      rw [tableNames_setDatabase, if_pos rfl] at hlater
      exact .of_sublist (List.nil_sublist _) hlater
  | updateDatabase name record =>
      refine shifts_changed (·.tableNames space) hbefore hafter fun m' h _ => ?_
      obtain ⟨d, hd, rfl⟩ := updateDatabase_ok h
      refine shifts_setDatabase hbefore ?_
      rintro rfl
      rw [tableNames_of_get? hd] at hbefore ⊢
      exact .refl hbefore
  | deleteDatabase name =>
      refine shifts_changed (·.tableNames space) hbefore hafter fun m' h hlater => ?_
      refine .of_sublist ?_ hlater
      rw [deleteDatabase_ok h]
      by_cases hname : name = space
      · rw [tableNames_of_get?_none (by rw [OrderedMap.get?_erase, if_pos hname])]
        exact List.nil_sublist _
      · rw [tableNames_congr (m := m) (by rw [OrderedMap.get?_erase, if_neg hname])]

/-- A database that was there keeps its place when it is set. -/
theorem spaceNames_setDatabase {d d' : DatabaseState} (hd : m.databases.get? name = some d) :
    (m.setDatabase name d').spaceNames = m.spaceNames :=
  OrderedMap.keys_insert_of_contains _ (OrderedMap.contains_of_get? hd)

/-- **Every call shifts the databases**: those that are there before and after it keep their
order. -/
theorem shifts_spaceNames (c : Call) (hbefore : ∀ t, stays t → t ∈ m.spaceNames)
    (hafter : ∀ t, stays t → t ∈ (m.respond c).2.spaceNames) :
    Shifts stays m.spaceNames (m.respond c).2.spaceNames := by
  cases c with
  | getTable database t => exact .refl hbefore
  | getTables database token => exact .refl hbefore
  | getDatabase name => exact .refl hbefore
  | getDatabases token => exact .refl hbefore
  | createTable database r =>
      refine shifts_changed spaceNames hbefore hafter fun m' h _ => ?_
      obtain ⟨d, hd, rfl⟩ := createTable_ok h
      rw [spaceNames_setDatabase hd]
      exact .refl hbefore
  | deleteTable database t =>
      refine shifts_changed spaceNames hbefore hafter fun m' h _ => ?_
      obtain ⟨d, hd, rfl⟩ := deleteTable_ok h
      rw [spaceNames_setDatabase hd]
      exact .refl hbefore
  | updateDatabase name record =>
      refine shifts_changed spaceNames hbefore hafter fun m' h _ => ?_
      obtain ⟨d, hd, rfl⟩ := updateDatabase_ok h
      rw [spaceNames_setDatabase hd]
      exact .refl hbefore
  | createDatabase record =>
      refine shifts_changed spaceNames hbefore hafter fun m' h _ => ?_
      obtain ⟨-, rfl⟩ := createDatabase_ok h
      have hkeys : (m.setDatabase record.name { record }).spaceNames
          = m.spaceNames ++ [record.name] := by
        show (m.databases.insert record.name { record }).entries.map (·.1) = _
        rw [OrderedMap.entries_insert_of_get?_none _ (absent_of_createDatabase h), List.map_append]
        rfl
      rw [hkeys]
      exact .of_append _ hbefore
  | deleteDatabase name =>
      refine shifts_changed spaceNames hbefore hafter fun m' h hlater => ?_
      refine .of_sublist ?_ hlater
      rw [deleteDatabase_ok h]
      show (m.databases.erase name).keys.Sublist _
      rw [OrderedMap.keys_erase]
      exact List.filter_sublist

/-! ### Runs of calls -/

/-- Something holds before a run of calls and after each of them. -/
def Throughout (P : Memory → Prop) : Memory → List Call → Prop
  | m, [] => P m
  | m, c :: cs => P m ∧ Throughout P (m.respond c).2 cs

theorem Throughout.first {P : Memory → Prop} {calls : List Call} (h : Throughout P m calls) :
    P m := by
  cases calls with
  | nil => exact h
  | cons c calls => exact h.1

/-- What every call shifts, a run of calls shifts. -/
theorem shifts_afterCalls {view : Memory → List String} (hnodup : ∀ m, (view m).Nodup)
    (hstep : ∀ {m} c, (∀ t, stays t → t ∈ view m) → (∀ t, stays t → t ∈ view (m.respond c).2) →
      Shifts stays (view m) (view (m.respond c).2))
    {calls : List Call} (h : ∀ t, stays t → Throughout (t ∈ view ·) m calls) :
    Shifts stays (view m) (view (m.afterCalls calls)) := by
  induction calls generalizing m with
  | nil => exact .refl h
  | cons c calls ih =>
      have hrest := ih fun t ht => (h t ht).2
      have hfirst := hstep c (fun t ht => (h t ht).1) fun t ht => (h t ht).2.first
      exact hfirst.trans hrest (hnodup _)

end Metastore.Memory

/-! ### Other clients -/

namespace Metastore

/-- What happens to a metastore with pages of a size while somebody asks it questions: before each
of the questions other clients make some calls. -/
structure Traffic where
  pageSize : Nat
  others : Nat → List Call

namespace Traffic

variable (x : Traffic)

/-- The metastore before what other clients do ahead of a question. -/
def before : Nat → Memory
  | 0 => .withPageSize x.pageSize
  | k + 1 => (before k).afterCalls (x.others k)

/-- The metastore that answers a question. -/
def asked (k : Nat) : Memory := x.before (k + 1)

/-- The number of records on a page. -/
def size : Nat := max x.pageSize 1

/-- Something holds from the first question to a later one, also between any two calls. -/
def Always (last : Nat) (P : Memory → Prop) : Prop :=
  P (x.asked 0) ∧ ∀ k < last, Memory.Throughout P (x.asked k) (x.others (k + 1))

variable {x} {k last : Nat}

theorem filed_before : (x.before k).Filed := by
  induction k with
  | zero => exact Memory.filed_withPageSize x.pageSize
  | succ k ih => exact (Memory.inventory_afterCalls ih (x.others k)).2

theorem pageSize_before : (x.before k).pageSize = x.size := by
  induction k with
  | zero => rfl
  | succ k ih => exact (Memory.pageSize_afterCalls _ _).trans ih

/-- The names that a question may be about shift from one question to the next. -/
theorem shifting (view : Memory → List String) (hnodup : ∀ m, (view m).Nodup)
    (hstep : ∀ {stays : String → Prop} {m : Memory} c, (∀ t, stays t → t ∈ view m) →
      (∀ t, stays t → t ∈ view (m.respond c).2) →
        Shifts stays (view m) (view (m.respond c).2))
    (hwhole : (view (x.asked last)).length ≤ (last + 1) * x.size) :
    Shifting (fun k => view (x.asked k)) x.size (fun t => x.Always last (t ∈ view ·)) last where
  nodup := fun _ _ => hnodup _
  held := fun _ ht => ht.1
  shifts := fun k hk => Memory.shifts_afterCalls hnodup hstep fun _ ht => ht.2 k hk
  whole := hwhole

/-- No other client gives a database the record of another. -/
def KeepsNames (last : Nat) : Prop :=
  ∀ k ≤ last, ∀ name record, .updateDatabase name record ∈ x.others k → record.name = name

theorem named_asked (hkeeps : x.KeepsNames last) (hk : k ≤ last) :
    (x.asked k).inventory.Named := by
  have hstep : ∀ j ≤ last, (x.before j).inventory.Named → (x.asked j).inventory.Named := by
    intro j hj hnamed h hh
    have hafter := (Memory.inventory_afterCalls (filed_before (x := x) (k := j)) (x.others j)).1
    unfold asked before at hh
    rw [hafter] at hh
    rcases Inventory.mem_after hh with ⟨h', hh', hname, hrecord⟩ | ⟨-, hown⟩ | hupdate
    · rw [← hname, ← hrecord]
      exact hnamed h' hh'
    · exact hown
    · exact hkeeps j hj _ _ hupdate
  induction k with
  | zero =>
      refine hstep 0 hk ?_
      intro h hh
      cases hh
  | succ k ih => exact hstep (k + 1) hk (ih (by omega))

end Traffic

end Metastore

/-- A site that answers questions while other clients make calls, with the number of questions that
it has answered. -/
def Site.busy (x : Metastore.Traffic) : Handler Backend (Site × Nat)
  | q, (s, k) =>
    let s' : Site := { s with metastore := s.metastore.afterCalls (x.others k) }
    ((answer q s').1, ((answer q s').2, k + 1))

/-- The site before a question, when only questions are asked of it that change nothing. -/
def Metastore.Traffic.site (x : Metastore.Traffic) (objects : OrderedMap ByteArray) (k : Nat) :
    Site × Nat :=
  (⟨x.before k, objects⟩, k)

/-! ### What comes of a listing -/

namespace Listing

section Consume

variable {ε ε' α β σ ρ : Type}

/-- Who takes all results never has enough. -/
theorem feed_takeAll (f : Except ε' β → Option (Except ε α)) (s : List (Except ε α))
    (items : List β) : ∃ s', feed (takeAllConsumer.comap f) s items = .more s' := by
  induction items generalizing s with
  | nil => exact ⟨s, rfl⟩
  | cons b items ih =>
      unfold feed
      cases hb : f (.ok b) with
      | none =>
          rw [comap_step_none hb]
          exact ih s
      | some r =>
          rw [comap_step_some hb]
          exact ih (r :: s)

theorem consume_takeAll (s rs : List (Except ε α)) :
    (takeAllConsumer : Consumer ε α _ _).consume s rs = .more (rs.reverse ++ s) := by
  induction rs generalizing s with
  | nil => rfl
  | cons r rs ih =>
      rw [consume_cons]
      show (takeAllConsumer : Consumer ε α _ _).consume (r :: s) rs = _
      rw [ih, List.reverse_cons, List.append_assoc]
      rfl

theorem answer_takeAll (rs : List (Except ε α)) :
    (takeAllConsumer : Consumer ε α _ _).answer [] rs = rs := by
  unfold Consumer.answer
  rw [consume_takeAll, List.append_nil]
  exact List.reverse_reverse rs

end Consume

/-- What is read of a list with something made of each entry. -/
theorem map_seen {α β : Type} (f : α → β) (records : Nat → List α) (size m : Nat) :
    (seen records size m).map f = seen (fun k => (records k).map f) size m := by
  induction m with
  | zero => rfl
  | succ m ih =>
      unfold seen
      rw [List.map_append, ih]
      unfold pageOf
      rw [List.map_take, List.map_drop]

theorem seen_congr {α : Type} {names names' : Nat → List α} {size m : Nat}
    (h : ∀ k < m, names k = names' k) : seen names size m = seen names' size m := by
  induction m with
  | zero => rfl
  | succ m ih =>
      unfold seen pageOf
      rw [ih fun k hk => h k (by omega), h m (by omega)]

section Walk

variable {I : Interface} {ε α σ ρ τ : Type} {h : Handler I τ}
  {fetch : Option String → Program I (Except ε (Page α))} {c : Consumer ε α σ ρ}
  {records : Nat → List α} {size last : Nat} {states : Nat → τ}

/-- A walk goes on behind a page after which its consumer wants more. -/
theorem run_walk_page {page : Page α} {s s' : σ} {token : Option String} {t t' : τ}
    (hpage : (fetch token).run h t = (some (.ok page), t'))
    (hfeed : feed c s page.items = .more s') (budget : Nat) :
    (walk fetch c (budget + 1) s (.before token)).run h t
      = (walk fetch c budget s' (Cursor.after page.next)).run h t' := by
  show ((fetch token).bind _).run h t = _
  rw [Program.run_bind, hpage]
  simp only [hfeed]

/-- **A listing whose records change between the fetches** comes to what is read of them. -/
theorem run_walk_shifting (hgreedy : ∀ s items, ∃ s', feed c s items = .more s')
    (hfetch : ∀ k ≤ last, ∀ token, Memory.pageStart token = .ok (k * size) →
      (fetch token).run h (states k)
        = (some (.ok (Memory.pageAt (records k) size (k * size))), states (k + 1)))
    (hmore : ∀ k < last, (k + 1) * size < (records k).length)
    (hwhole : (records last).length ≤ (last + 1) * size)
    (hbound : ∀ k < last, (k + 1) * size < Memory.tokenBound)
    {k : Nat} (hk : k ≤ last) {token : Option String}
    (htoken : Memory.pageStart token = .ok (k * size)) (s : σ) {budget : Nat}
    (hbudget : last - k < budget) :
    ∃ rest, seen records size (last + 1) = seen records size k ++ rest ∧
      (walk fetch c budget s (.before token)).run h (states k)
        = (some (c.answer s (rest.map .ok)), states (last + 1)) := by
  -- The induction is on the number of pages that are still to be fetched.
  induction hleft : last - k generalizing k token s budget with
  | zero =>
      obtain rfl : k = last := by omega
      obtain ⟨budget, rfl⟩ : ∃ b, budget = b + 1 := Nat.exists_eq_succ_of_ne_zero (by omega)
      obtain ⟨s', hfeed⟩ := hgreedy s (Memory.pageAt (records k) size (k * size)).items
      have hnext : (Memory.pageAt (records k) size (k * size)).next = none := by
        have hsize : (k + 1) * size = k * size + size := Nat.succ_mul k size
        exact if_neg (by omega)
      refine ⟨pageOf records size k, rfl, ?_⟩
      have hanswer := answer_page (c := c) s (Memory.pageAt (records k) size (k * size)) []
      rw [hfeed, List.append_nil] at hanswer
      have hpage := hfetch k hk token htoken
      rw [run_walk_page hpage hfeed, hnext]
      show (walk fetch c budget s' .finished).run h _ = (some (c.answer s ((Memory.pageAt
        (records k) size (k * size)).items.map .ok)), _)
      rw [hanswer]
      cases budget <;> rfl
  | succ left ih =>
      obtain ⟨budget, rfl⟩ : ∃ b, budget = b + 1 := Nat.exists_eq_succ_of_ne_zero (by omega)
      obtain ⟨s', hfeed⟩ := hgreedy s (Memory.pageAt (records k) size (k * size)).items
      have hsize : (k + 1) * size = k * size + size := Nat.succ_mul k size
      have hnext : (Memory.pageAt (records k) size (k * size)).next
          = some (Text.Numeral.text ((k + 1) * size)) := by
        have hlength := hmore k (by omega)
        rw [hsize]
        exact if_pos (by omega)
      have hstart : Memory.pageStart (some (Text.Numeral.text ((k + 1) * size)))
          = .ok ((k + 1) * size) := Memory.pageStart_text (hbound k (by omega))
      have hleft' : last - (k + 1) < budget := by omega
      obtain ⟨rest, hrest, hrun⟩ := ih (by omega) hstart s' hleft' (by omega)
      refine ⟨pageOf records size k ++ rest, ?_, ?_⟩
      · rw [hrest, ← List.append_assoc]
        rfl
      · have hcursor : Cursor.after (some (Text.Numeral.text ((k + 1) * size)))
            = .before (some (Text.Numeral.text ((k + 1) * size))) :=
          if_neg (Memory.text_ne_empty _)
        have hpage := hfetch k hk token htoken
        have hanswer := answer_page (c := c) s (Memory.pageAt (records k) size (k * size))
          (rest.map .ok)
        rw [hfeed] at hanswer
        rw [run_walk_page hpage hfeed, hnext, hcursor, hrun, List.map_append]
        show _ = (some (c.answer s ((Memory.pageAt (records k) size (k * size)).items.map .ok
          ++ rest.map .ok)), _)
        rw [hanswer]

end Walk

end Listing

/-- A listing of a list that changes comes to its end with a fetch. -/
structure Listing.EndsWith (names : Nat → List String) (size last : Nat) : Prop where
  more : ∀ k < last, (k + 1) * size < (names k).length
  whole : (names last).length ≤ (last + 1) * size
  bound : ∀ k ≤ last, (names k).length < Memory.tokenBound

/-- Who takes all results of a listing whose records change gets what becomes of those that are
read. -/
theorem Listing.run_walk_names {I : Interface} {ε ε' α β τ : Type} {h : Handler I τ}
    {fetch : Option String → Program I (Except ε (Page α))} {records : Nat → List α}
    {names : Nat → List String} {nameOf : α → String} {size last : Nat} {states : Nat → τ}
    {f : Except ε α → Option (Except ε' β)}
    (hnames : ∀ k ≤ last, (records k).map nameOf = names k)
    (hfetch : ∀ k ≤ last, ∀ token, Memory.pageStart token = .ok (k * size) →
      (fetch token).run h (states k)
        = (some (.ok (Memory.pageAt (records k) size (k * size))), states (k + 1)))
    (hends : EndsWith names size last) {budget : Nat} (hbudget : last < budget) :
    ∃ read : List α, seen names size (last + 1) = read.map nameOf ∧
      (walk fetch (takeAllConsumer.comap f) budget [] (.before none)).run h (states 0)
        = (some ((read.map .ok).filterMap f), states (last + 1)) := by
  have hlength : ∀ k ≤ last, (records k).length = (names k).length := by
    intro k hk
    rw [← hnames k hk, List.length_map]
  have hstart : Memory.pageStart none = .ok (0 * size) := by
    rw [Nat.zero_mul]
    rfl
  obtain ⟨read, hread, hrun⟩ := run_walk_shifting (c := takeAllConsumer.comap f)
    (feed_takeAll f) hfetch
    (fun k hk => by rw [hlength k (by omega)]; exact hends.more k hk)
    (by rw [hlength last (by omega)]; exact hends.whole)
    (fun k hk => (hends.more k hk).trans (hends.bound k (by omega))) (Nat.zero_le last) hstart []
    (by omega)
  refine ⟨read, ?_, ?_⟩
  · have hall := map_seen nameOf records size (last + 1)
    rw [hread, seen_congr fun k hk => hnames k (by omega)] at hall
    exact hall.symm
  · rw [answer_comap, answer_takeAll] at hrun
    exact hrun

/-! ### What is yielded of what stays -/

section Yields

variable {β : Type} {name? : String → Option β} {key : β → String}
  {names : Nat → List String} {size last : Nat} {stays : String → Prop}

theorem mem_filterMap_key (hkey : ∀ s b, name? s = some b → key b = s) {b : β}
    (hb : name? (key b) = some b) (xs : List String) :
    b ∈ xs.filterMap name? ↔ key b ∈ xs := by
  rw [List.mem_filterMap]
  constructor
  · rintro ⟨s, hs, hsb⟩
    rwa [hkey s b hsb]
  · intro hmem
    exact ⟨key b, hmem, hb⟩

open Classical in
theorem filter_filterMap_key (hkey : ∀ s b, name? s = some b → key b = s) (xs : List String) :
    (xs.filterMap name?).filter (fun b => stays (key b)) = (xs.filter stays).filterMap name? := by
  rw [List.filter_filterMap, List.filterMap_filter]
  refine List.filterMap_congr fun s _ => ?_
  cases hs : name? s with
  | none =>
      split
      · rfl
      · rfl
  | some b =>
      rw [Option.filter_some, hkey s b hs]

variable [DecidableEq β]

open Classical in
/-- How a listing yields what stays, when its names are these at its fetches. -/
structure YieldsOnce (key : β → String) (first : List β) (names : Nat → List String)
    (size last : Nat) (stays : String → Prop) (yielded : List β) : Prop where
  /-- What stays is yielded at most once, and in the order in which it was added. -/
  in_order : (yielded.filter fun b => stays (key b)).Sublist first ∧ first.Nodup
  /-- It is yielded once exactly when it never slips from behind the next page to the records
  before it. -/
  once_iff : ∀ b ∈ first, stays (key b) →
    (yielded.count b = 1 ↔ ∀ k < last, ¬Slips names size k (key b))
  /-- In particular it is yielded once when all that stood before it at the first fetch stays. -/
  once : ∀ b ∈ first, stays (key b) →
    (∀ t ∈ (names 0).take ((names 0).idxOf (key b)), stays t) → yielded.count b = 1

open Classical in
theorem yieldsOnce_of_shifting (hkey : ∀ s b, name? s = some b → key b = s)
    (h : Shifting names size stays last) :
    YieldsOnce key ((names 0).filterMap name?) names size last stays
      ((seen names size (last + 1)).filterMap name?) := by
  have hdistinct : ((names 0).filterMap name?).Nodup := by
    refine List.Nodup.filterMap ?_ (h.nodup 0 (Nat.zero_le last))
    intro s s' b hs hs'
    rw [← hkey s b hs, hkey s' b hs']
  have hsub : (((seen names size (last + 1)).filterMap name?).filter fun b => stays (key b)).Sublist
      ((names 0).filterMap name?) := by
    rw [filter_filterMap_key hkey]
    exact (h.seen_in_order.trans List.filter_sublist).filterMap name?
  have hfirst : ∀ b ∈ (names 0).filterMap name?, name? (key b) = some b := by
    intro b hb
    obtain ⟨s, -, hs⟩ := List.mem_filterMap.1 hb
    rwa [hkey s b hs]
  have hcount : ∀ b ∈ (names 0).filterMap name?, stays (key b) →
      (((seen names size (last + 1)).filterMap name?).count b = 1 ↔
        key b ∈ seen names size (last + 1)) := by
    intro b hb hstays
    rw [← mem_filterMap_key hkey (hfirst b hb), ← List.count_pos_iff]
    have hmost := (hsub.count_le b).trans (List.nodup_iff_count_le_one.1 hdistinct b)
    rw [List.count_filter (by simpa using hstays)] at hmost
    omega
  refine ⟨⟨hsub, hdistinct⟩, ?_, ?_⟩
  · intro b hb hstays
    rw [hcount b hb hstays]
    exact h.mem_seen_iff hstays
  · intro b hb hstays hfront
    rw [hcount b hb hstays, h.mem_seen_iff hstays]
    intro k hk
    exact h.not_slips_of_front hstays hfront hk

end Yields

/-! ### The listings of a catalog -/

namespace Metastore.Memory

variable {m : Memory} {space : String}

/-- The records of the tables of a database, in the order in which they were added. -/
def tableRecords (m : Memory) (space : String) : List TableRecord :=
  match m.databases.get? space with
  | some d => d.tables.values
  | none => []

/-- The records of the databases, in the order in which they were created. -/
def spaceRecords (m : Memory) : List DatabaseRecord := m.databases.values.map (·.record)

theorem Filed.map_tableRecords (hm : m.Filed) (space : String) :
    (m.tableRecords space).map (·.name) = m.tableNames space := by
  unfold tableRecords tableNames
  cases hd : m.databases.get? space with
  | none => rfl
  | some d =>
      show (d.tables.entries.map (·.2)).map (·.name) = d.tables.entries.map (·.1)
      rw [List.map_map]
      refine List.map_congr_left fun e he => ?_
      exact (hm.table space d e.1 e.2 hd (OrderedMap.mem_entries_iff.1 he)).1

theorem map_spaceRecords (hnamed : m.inventory.Named) :
    m.spaceRecords.map (·.name) = m.spaceNames := by
  have hrecords : m.spaceRecords = m.inventory.map (·.record) := by
    unfold spaceRecords OrderedMap.values inventory
    rw [List.map_map, List.map_map]
    rfl
  have hkeys : m.spaceNames = m.inventory.map (·.name) := by
    unfold spaceNames OrderedMap.keys inventory
    rw [List.map_map]
    rfl
  rw [hrecords, hkeys, List.map_map]
  exact List.map_congr_left hnamed

theorem getTables_of_contains (hspace : m.databases.contains space = true)
    (token : Option String) :
    m.getTables space token = page (m.tableRecords space) m.pageSize token := by
  obtain ⟨d, hd⟩ := Option.isSome_iff_exists.1 ((OrderedMap.contains_eq _ _).symm.trans hspace)
  unfold getTables tableRecords
  rw [database_of_get? hd, hd]
  rfl

end Metastore.Memory

namespace NamespaceName

/-- The table of a name, if it is the name of one. -/
def table? (n : NamespaceName) (table : String) : Option TableName :=
  (n.listedName table).toOption

theorem key_of_table? (n : NamespaceName) (table : String) (t : TableName)
    (h : n.table? table = some t) : t.table = table := by
  unfold table? listedName TableName.ofParts TableName.ofSegments at h
  by_cases hparts : IsSegment n.text ∧ IsSegment table
  · simp only [dif_pos hparts] at h
    cases h
    rfl
  · simp only [dif_neg hparts] at h
    split at h <;> cases h

theorem key_of_ofName? (name : String) (n : NamespaceName) (h : ofName? name = some n) :
    n.text = name := by
  unfold ofName? at h
  split at h
  · cases h
    rfl
  · cases h

end NamespaceName

namespace Site

variable {x : Metastore.Traffic} {objects : OrderedMap ByteArray} {last : Nat} {c : Catalog}

/-- **A listing of the tables** while others make calls: something for each name that is read. -/
theorem run_walkTables_busy (hbudget : last < c.pageBudget) (n : NamespaceName)
    (hspace : ∀ k ≤ last, (x.asked k).databases.contains n.text = true)
    (hends : Listing.EndsWith (fun k => (x.asked k).tableNames n.text) x.size last) :
    (c.walkTables n Listing.takeAllConsumer []).run (busy x) (x.site objects 0)
      = (some ((seen (fun k => (x.asked k).tableNames n.text) x.size (last + 1)).map n.listedName),
        x.site objects (last + 1)) := by
  have hfetch : ∀ k ≤ last, ∀ token, Memory.pageStart token = .ok (k * x.size) →
      (Catalog.fetchTables n token).run (busy x) (x.site objects k)
        = (some (.ok (Memory.pageAt ((x.asked k).tableRecords n.text) x.size (k * x.size))),
          x.site objects (k + 1)) := by
    intro k hk token htoken
    have hpages : (x.asked k).pageSize = x.size := Metastore.Traffic.pageSize_before
    show (some (((x.asked k).getTables n.text token).mapError _), x.site objects (k + 1)) = _
    rw [Memory.getTables_of_contains (hspace k hk), hpages, Memory.page_of_start htoken]
    rfl
  obtain ⟨read, hread, hrun⟩ := Listing.run_walk_names (f := Catalog.listedTable n)
    (fun k _ => Metastore.Traffic.filed_before.map_tableRecords n.text) hfetch hends hbudget
  have hlisted : (read.map Except.ok).filterMap (Catalog.listedTable n)
      = (read.map (·.name)).map n.listedName := by
    rw [List.filterMap_map, List.map_map]
    exact congrFun List.filterMap_eq_map read
  rw [hlisted, ← hread] at hrun
  exact hrun

/-- **A listing of the namespaces** while others make calls: each name that is read, if it is the
name of one. -/
theorem run_walkNamespaces_busy (hbudget : last < c.pageBudget) (hkeeps : x.KeepsNames last)
    (hends : Listing.EndsWith (fun k => (x.asked k).spaceNames) x.size last) :
    (c.walkNamespaces Listing.takeAllConsumer []).run (busy x) (x.site objects 0)
      = (some (((seen (fun k => (x.asked k).spaceNames) x.size (last + 1)).filterMap
          NamespaceName.ofName?).map .ok), x.site objects (last + 1)) := by
  have hfetch : ∀ k ≤ last, ∀ token, Memory.pageStart token = .ok (k * x.size) →
      (Catalog.fetchDatabases token).run (busy x) (x.site objects k)
        = (some (.ok (Memory.pageAt (x.asked k).spaceRecords x.size (k * x.size))),
          x.site objects (k + 1)) := by
    intro k _ token htoken
    have hpages : (x.asked k).pageSize = x.size := Metastore.Traffic.pageSize_before
    show (some ((Memory.page (x.asked k).spaceRecords (x.asked k).pageSize token).mapError _),
      x.site objects (k + 1)) = _
    rw [hpages, Memory.page_of_start htoken]
    rfl
  obtain ⟨read, hread, hrun⟩ := Listing.run_walk_names (f := Catalog.listedNamespace)
    (fun k hk => Memory.map_spaceRecords (x.named_asked hkeeps hk)) hfetch hends hbudget
  have hlisted : (read.map Except.ok).filterMap Catalog.listedNamespace
      = ((read.map (·.name)).filterMap NamespaceName.ofName?).map .ok := by
    rw [List.filterMap_map, List.filterMap_map, List.map_filterMap]
    exact List.filterMap_congr fun r _ => Catalog.listedNamespace_ok r
  rw [hlisted, ← hread] at hrun
  exact hrun

/-- **Listings while others make calls.**  A listing of the tables of a namespace, or of the
namespaces, which reaches its end returns, and what stays from its first fetch to its last is
yielded at most once and in the order in which it was added; and it is yielded unless, between two
fetches, what goes before it moves it from behind the next page to the records that are passed
over. -/
theorem listings_in_motion (x : Metastore.Traffic) (objects : OrderedMap ByteArray)
    (hbudget : last < c.pageBudget) :
    (∀ n : NamespaceName, (∀ k ≤ last, (x.asked k).databases.contains n.text = true) →
      Listing.EndsWith (fun k => (x.asked k).tableNames n.text) x.size last →
      ∃ results, (c.walkTables n Listing.takeAllConsumer []).run (busy x) (x.site objects 0)
          = (some results, x.site objects (last + 1)) ∧
        YieldsOnce (·.table) (((x.asked 0).tableNames n.text).filterMap n.table?)
          (fun k => (x.asked k).tableNames n.text) x.size last
          (fun t => x.Always last (t ∈ ·.tableNames n.text))
          (results.filterMap Except.toOption)) ∧
    (x.KeepsNames last → Listing.EndsWith (fun k => (x.asked k).spaceNames) x.size last →
      ∃ results, (c.walkNamespaces Listing.takeAllConsumer []).run (busy x) (x.site objects 0)
          = (some results, x.site objects (last + 1)) ∧
        YieldsOnce (·.text) ((x.asked 0).spaceNames.filterMap NamespaceName.ofName?)
          (fun k => (x.asked k).spaceNames) x.size last
          (fun t => x.Always last (t ∈ ·.spaceNames)) (results.filterMap Except.toOption)) := by
  constructor
  · intro n hspace hends
    refine ⟨_, run_walkTables_busy hbudget n hspace hends, ?_⟩
    have hshifting := x.shifting (·.tableNames n.text)
      (fun m => m.nodup_tableNames n.text) Memory.shifts_tableNames hends.whole
    rw [List.filterMap_map]
    exact yieldsOnce_of_shifting n.key_of_table? hshifting
  · intro hkeeps hends
    refine ⟨_, run_walkNamespaces_busy hbudget hkeeps hends, ?_⟩
    have hshifting := x.shifting Memory.spaceNames (fun m => m.databases.keys_nodup)
      Memory.shifts_spaceNames hends.whole
    have hnames : ∀ names : List NamespaceName,
        (names.map Except.ok).filterMap (Except.toOption (ε := CatalogError)) = names := by
      intro names
      rw [List.filterMap_map]
      exact List.filterMap_some
    rw [hnames]
    exact yieldsOnce_of_shifting NamespaceName.key_of_ofName? hshifting

end Site

/-! ### A table that is missed -/

namespace MovingListing

/-- Three tables in the first of two namespaces, on pages of one record; after the first page another
client drops the first table. -/
def dropBehind : Metastore.Traffic where
  pageSize := 1
  others
    | 0 => [.createDatabase { name := "db" }, .createTable "db" { name := "a" },
        .createTable "db" { name := "b" }, .createTable "db" { name := "c" },
        .createDatabase { name := "logs" }]
    | 1 => [.deleteTable "db" "a"]
    | _ => []

/-- The namespace, and a catalog that grants a listing two pages. -/
def db : NamespaceName := ⟨"db", isSegment_db⟩

def lake : Catalog := ⟨"lake", none, 2⟩

theorem contains_db : ∀ k ≤ 1, (dropBehind.asked k).databases.contains db.text = true := by decide

/-- The listing reaches its end with the second fetch. -/
theorem endsWith_dropBehind :
    Listing.EndsWith (fun k => (dropBehind.asked k).tableNames db.text) dropBehind.size 1 where
  more := by decide
  whole := by decide
  bound := by decide

/-- The table `b` is there from the first fetch to the second. -/
theorem always_b : dropBehind.Always 1 ("b" ∈ ·.tableNames db.text) := by
  refine ⟨by decide, ?_⟩
  intro k hk
  obtain rfl : k = 0 := by omega
  have hlater : "b" ∈ (dropBehind.asked 1).tableNames db.text := by decide
  exact ⟨by decide, hlater⟩

/-- **A table that stays is missed**: when `a` is dropped, `b` moves before the second page. -/
theorem listing_misses_table :
    dropBehind.Always 1 ("b" ∈ ·.tableNames db.text) ∧
      (lake.walkTables db Listing.takeAllConsumer []).run (Site.busy dropBehind)
          (dropBehind.site .empty 0)
        = (some [.ok ⟨db, "a", by decide⟩, .ok ⟨db, "c", by decide⟩],
          dropBehind.site .empty 2) := by
  refine ⟨always_b, ?_⟩
  have hseen : seen (fun k => (dropBehind.asked k).tableNames db.text) dropBehind.size 2
      = ["a", "c"] := by decide
  have hrun : (lake.walkTables db Listing.takeAllConsumer []).run (Site.busy dropBehind)
      (dropBehind.site .empty 0) = _ :=
    Site.run_walkTables_busy (by decide) db contains_db endsWith_dropBehind
  rw [hseen, List.map_cons, List.map_cons, List.map_nil, db.listedName_of_segment (by decide),
    db.listedName_of_segment (by decide)] at hrun
  exact hrun

/-- The listing of the namespaces reaches its end with the second fetch, too. -/
theorem endsWith_spaces :
    Listing.EndsWith (fun k => (dropBehind.asked k).spaceNames) dropBehind.size 1 where
  more := by decide
  whole := by decide
  bound := by decide

theorem keepsNames_dropBehind : dropBehind.KeepsNames 1 := by
  intro k hk name record hcall
  obtain rfl | rfl : k = 0 ∨ k = 1 := by omega
  · simp [dropBehind] at hcall
  · simp [dropBehind] at hcall

/-- What is said of the listing of the tables, where `b` slips and is not yielded and `c` does not
and is, and of the listing of the namespaces, where nothing slips. -/
theorem listings_in_motion_dropBehind :
    1 < lake.pageBudget ∧
      (∀ k ≤ 1, (dropBehind.asked k).databases.contains db.text = true) ∧
      Listing.EndsWith (fun k => (dropBehind.asked k).tableNames db.text) dropBehind.size 1 ∧
      (∃ results, (lake.walkTables db Listing.takeAllConsumer []).run (Site.busy dropBehind)
          (dropBehind.site .empty 0) = (some results, dropBehind.site .empty 2) ∧
        YieldsOnce (·.table) (((dropBehind.asked 0).tableNames db.text).filterMap db.table?)
          (fun k => (dropBehind.asked k).tableNames db.text) dropBehind.size 1
          (fun t => dropBehind.Always 1 (t ∈ ·.tableNames db.text))
          (results.filterMap Except.toOption)) ∧
      dropBehind.KeepsNames 1 ∧
      Listing.EndsWith (fun k => (dropBehind.asked k).spaceNames) dropBehind.size 1 ∧
      ∃ results, (lake.walkNamespaces Listing.takeAllConsumer []).run (Site.busy dropBehind)
          (dropBehind.site .empty 0) = (some results, dropBehind.site .empty 2) ∧
        YieldsOnce (·.text) ((dropBehind.asked 0).spaceNames.filterMap NamespaceName.ofName?)
          (fun k => (dropBehind.asked k).spaceNames) dropBehind.size 1
          (fun t => dropBehind.Always 1 (t ∈ ·.spaceNames))
          (results.filterMap Except.toOption) := by
  have hbudget : 1 < lake.pageBudget := by decide
  obtain ⟨htables, hspaces⟩ := Site.listings_in_motion dropBehind .empty hbudget
  exact ⟨hbudget, contains_db, endsWith_dropBehind, htables db contains_db endsWith_dropBehind,
    keepsNames_dropBehind, endsWith_spaces, hspaces keepsNames_dropBehind endsWith_spaces⟩

end MovingListing

end LakeCatalog
