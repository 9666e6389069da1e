import LakeCatalog.Proofs.Inventory
import LakeCatalog.Proofs.ListingChain

/-!
# Listings of a metastore in memory, page by page

A metastore cuts its listings into pages of one size.  A token is the number of records before its
page, in decimal digits, so that a client which follows the tokens sees each record once.

* `PagesFrom` — the pages that follow from one another, up to one without a token;
* `run_walk_of_pages` — a walk over such a listing gives its consumer all items;
* `Denotes` — the number that a token stands for;
* `Paged` — everything there is to say about some records in pages of a size, and `paged_page`;
* `covers_resized`, `paging_covers_once` — the listings of a metastore after any run of calls.
-/

namespace LakeCatalog

open Metastore (Call DatabaseState Failure Holding Inventory Memory Outcome)

namespace Listing

/-! ### Pages that follow from one another -/

section Pages

variable {ε ε' α : Type}

/-- The pages from a token on: each but the last names the token of the next. -/
inductive PagesFrom (fetch : Option String → Except ε (Page α)) :
    Option String → List (Page α) → Prop
  | last {token : Option String} {page : Page α} (hpage : fetch token = .ok page)
      (hnext : page.next = none) : PagesFrom fetch token [page]
  | more {token : Option String} {page : Page α} {next : String} {pages : List (Page α)}
      (hpage : fetch token = .ok page) (hnext : page.next = some next) (hne : next ≠ "")
      (hrest : PagesFrom fetch (some next) pages) : PagesFrom fetch token (page :: pages)

/-- The items of some pages. -/
def itemsOf (pages : List (Page α)) : List α := pages.flatMap (·.items)

theorem PagesFrom.imp {fetch : Option String → Except ε (Page α)}
    {fetch' : Option String → Except ε' (Page α)} {token : Option String} {pages : List (Page α)}
    (h : PagesFrom fetch token pages)
    (himp : ∀ token page, fetch token = .ok page → fetch' token = .ok page) :
    PagesFrom fetch' token pages := by
  induction h with
  | last hpage hnext => exact .last (himp _ _ hpage) hnext
  | more hpage hnext hne _ ih => exact .more (himp _ _ hpage) hnext hne ih

end Pages

/-! ### Walks over finite listings -/

section Walk

variable {I : Interface} {ε α σ ρ τ : Type} {h : Handler I τ} {state : τ}
  {fetch : Option String → Program I (Except ε (Page α))}
  {reply : Option String → Except ε (Page α)} {c : Consumer ε α σ ρ}

/-- What a consumer makes of a page and of what comes after it. -/
theorem answer_page (s : σ) (page : Page α) (rs : List (Except ε α)) :
    c.answer s (page.items.map .ok ++ rs) = match feed c s page.items with
      | .enough answer => answer
      | .more s' => c.answer s' rs := by
  unfold Consumer.answer
  rw [Consumer.consume_append, Consumer.consume_items]
  cases feed c s page.items with
  | enough answer => rfl
  | more s' => rfl

/-- **A walk over a listing that ends** gives its consumer all items, if it may fetch as many pages
as there are. -/
theorem run_walk_of_pages
    (hfetch : ∀ token, (fetch token).run h state = (some (reply token), state))
    {token : Option String} {pages : List (Page α)} (hpages : PagesFrom reply token pages)
    (s : σ) {budget : Nat} (hbudget : pages.length ≤ budget) :
    (walk fetch c budget s (.before token)).run h state
      = (some (c.answer s ((itemsOf pages).map .ok)), state) := by
  induction hpages generalizing s budget with
  | @last token page hpage hnext =>
      obtain ⟨budget, rfl⟩ : ∃ b, budget = b + 1 := Nat.exists_eq_succ_of_ne_zero (by
        rw [List.length_singleton] at hbudget
        omega)
      have hanswer := answer_page (c := c) s page []
      rw [List.append_nil] at hanswer
      have hitems : itemsOf [page] = page.items := List.flatMap_singleton _ page
      rw [hitems, hanswer]
      cases hfeed : feed c s page.items with
      | enough answer => exact run_walk_enough (hfetch token) budget hpage hfeed
      | more s' =>
          rw [run_walk_more (hfetch token) budget hpage hfeed, hnext]
          cases budget <;> rfl
  | @more token page next pages hpage hnext hne _ ih =>
      rw [List.length_cons] at hbudget
      obtain ⟨budget, rfl⟩ : ∃ b, budget = b + 1 := Nat.exists_eq_succ_of_ne_zero (by omega)
      have hitems : itemsOf (page :: pages) = page.items ++ itemsOf pages := List.flatMap_cons
      rw [hitems, List.map_append, answer_page]
      cases hfeed : feed c s page.items with
      | enough answer => exact run_walk_enough (hfetch token) budget hpage hfeed
      | more s' =>
          have hcursor : Cursor.after page.next = .before (some next) := by
            rw [hnext]
            exact if_neg hne
          rw [run_walk_more (hfetch token) budget hpage hfeed, hcursor]
          exact ih s' (by omega)

theorem consume_cons (s : σ) (r : Except ε α) (rs : List (Except ε α)) :
    c.consume s (r :: rs) = match c.step s r with
      | .enough answer => .enough answer
      | .more s' => c.consume s' rs := rfl

theorem comap_step_none {ε' β : Type} {f : Except ε' β → Option (Except ε α)} {r : Except ε' β}
    (hr : f r = none) (s : σ) : (c.comap f).step s r = .more s := by
  unfold Consumer.comap
  simp only [hr]

theorem comap_step_some {ε' β : Type} {f : Except ε' β → Option (Except ε α)} {r : Except ε' β}
    {r' : Except ε α} (hr : f r = some r') (s : σ) : (c.comap f).step s r = c.step s r' := by
  unfold Consumer.comap
  simp only [hr]

/-- A consumer of other results consumes what these are turned into. -/
theorem consume_comap {ε' β : Type} (f : Except ε' β → Option (Except ε α)) (s : σ)
    (rs : List (Except ε' β)) : (c.comap f).consume s rs = c.consume s (rs.filterMap f) := by
  induction rs generalizing s with
  | nil => rfl
  | cons r rs ih =>
      rw [consume_cons]
      cases hr : f r with
      | none =>
          rw [List.filterMap_cons_none hr, comap_step_none hr]
          exact ih s
      | some r' =>
          rw [List.filterMap_cons_some hr, consume_cons, comap_step_some hr]
          cases c.step s r' with
          | enough answer => rfl
          | more s' => exact ih s'

theorem answer_comap {ε' β : Type} (f : Except ε' β → Option (Except ε α)) (s : σ)
    (rs : List (Except ε' β)) : (c.comap f).answer s rs = c.answer s (rs.filterMap f) := by
  unfold Consumer.answer
  rw [consume_comap]
  rfl

end Walk

end Listing

/-! ### Tokens -/

namespace Text.Numeral

/-- The number that some digits stand for, from the first, which counts most, to the last. -/
def decimal (digits : List Char) : Nat := digits.foldl (fun n c => n * 10 + (c.toNat - 48)) 0

theorem digitValue?_of_isDigit {c : Char} (h : isDigit c = true) :
    digitValue? c = some (c.toNat - 48) ∧ c.toNat - 48 < 10 := by
  unfold isDigit at h
  have hrange : '0' ≤ c ∧ c ≤ '9' := by simpa using h
  have hle : c.toNat ≤ 57 := hrange.2
  exact ⟨if_pos hrange, by omega⟩

/-- Letters count ten and more. -/
theorem ten_le_of_digitValue? {c : Char} {d : Nat} (hc : isDigit c = false)
    (h : digitValue? c = some d) : 10 ≤ d := by
  have hrange : ¬('0' ≤ c ∧ c ≤ '9') := by simpa [isDigit] using hc
  unfold digitValue? at h
  rw [if_neg hrange] at h
  by_cases hlower : 'a' ≤ c ∧ c ≤ 'f'
  · rw [if_pos hlower, Option.some.injEq] at h
    have hle : 97 ≤ c.toNat := hlower.1
    omega
  · rw [if_neg hlower] at h
    by_cases hupper : 'A' ≤ c ∧ c ≤ 'F'
    · rw [if_pos hupper, Option.some.injEq] at h
      have hle : 65 ≤ c.toNat := hupper.1
      omega
    · rw [if_neg hupper] at h
      cases h

/-- What is read after a number, in base ten: digits, and nothing else. -/
theorem readAfter_ten_iff (n k : Nat) (cs : List Char) :
    readAfter 10 n cs = some k ↔
      (∀ c ∈ cs, isDigit c = true) ∧ cs.foldl (fun n c => n * 10 + (c.toNat - 48)) n = k := by
  induction cs generalizing n with
  | nil => simp [readAfter]
  | cons c cs ih =>
      rw [List.forall_mem_cons, List.foldl_cons]
      cases hc : isDigit c with
      | true =>
          obtain ⟨hvalue, hlt⟩ := digitValue?_of_isDigit hc
          have hread : readAfter 10 n (c :: cs) = readAfter 10 (n * 10 + (c.toNat - 48)) cs := by
            simp only [readAfter, hvalue]
            exact if_pos hlt
          rw [hread, ih]
          simp
      | false =>
          have hread : readAfter 10 n (c :: cs) = none := by
            cases hvalue : digitValue? c with
            | none => simp only [readAfter, hvalue, Option.bind_eq_bind, Option.bind_none]
            | some d =>
                have hge := ten_le_of_digitValue? hc hvalue
                simp only [readAfter, hvalue]
                exact if_neg (by omega)
          simp [hread]

end Text.Numeral

namespace Metastore.Memory

open Text.Numeral (decimal)

/-- The number that a token stands for: at least one digit, and perhaps a plus sign in front. -/
def Denotes (token : String) (k : Nat) : Prop :=
  ∃ digits : List Char, digits ≠ [] ∧ (∀ c ∈ digits, Text.isDigit c = true) ∧
    (token.toList = digits ∨ token.toList = '+' :: digits) ∧ decimal digits = k

theorem read?_ten_iff (k : Nat) (cs : List Char) :
    Text.Numeral.read? 10 cs = some k ↔
      cs ≠ [] ∧ (∀ c ∈ cs, Text.isDigit c = true) ∧ decimal cs = k := by
  cases cs with
  | nil => simp [Text.Numeral.read?]
  | cons c cs =>
      show Text.Numeral.readAfter 10 0 (c :: cs) = some k ↔ _
      rw [Text.Numeral.readAfter_ten_iff]
      simp [decimal]

/-- The digits of a token are what stands behind its plus sign, if it has one. -/
theorem readBelow?_eq (bound : Nat) (cs : List Char) :
    ∃ digits, (∀ k, (∃ ds : List Char, ds ≠ [] ∧ (∀ c ∈ ds, Text.isDigit c = true) ∧
        (cs = ds ∨ cs = '+' :: ds) ∧ decimal ds = k) ↔ Text.Numeral.read? 10 digits = some k) ∧
      Text.Numeral.readBelow? bound cs
        = (Text.Numeral.read? 10 digits).bind fun n => if n < bound then some n else none := by
  by_cases hplus : ∃ rest, cs = '+' :: rest
  · obtain ⟨rest, rfl⟩ := hplus
    refine ⟨rest, fun k => ?_, rfl⟩
    rw [read?_ten_iff]
    constructor
    · rintro ⟨ds, hne, hdigits, rfl | heq, hk⟩
      · exact absurd (hdigits '+' (List.mem_cons_self ..)) (by decide)
      · cases heq
        exact ⟨hne, hdigits, hk⟩
    · rintro ⟨hne, hdigits, hk⟩
      exact ⟨rest, hne, hdigits, Or.inr rfl, hk⟩
  · refine ⟨cs, fun k => ?_, ?_⟩
    · rw [read?_ten_iff]
      constructor
      · rintro ⟨ds, hne, hdigits, rfl | heq, hk⟩
        · exact ⟨hne, hdigits, hk⟩
        · exact absurd ⟨ds, heq⟩ hplus
      · rintro ⟨hne, hdigits, hk⟩
        exact ⟨cs, hne, hdigits, Or.inl rfl, hk⟩
    · unfold Text.Numeral.readBelow?
      split
      · exact absurd ⟨_, rfl⟩ hplus
      · rfl

/-- **The records before a page** are as many as its token says, if this is a number below the
bound. -/
theorem pageStart_some_iff (token : String) (k : Nat) :
    pageStart (some token) = .ok k ↔ Denotes token k ∧ k < tokenBound := by
  obtain ⟨digits, hdigits, hread⟩ := readBelow?_eq tokenBound token.toList
  unfold Denotes pageStart
  rw [hdigits k]
  simp only [hread]
  cases hvalue : Text.Numeral.read? 10 digits with
  | none => simp
  | some n =>
      by_cases hlt : n < tokenBound
      · simp only [Option.bind_some, if_pos hlt, Except.ok.injEq, Option.some.injEq]
        constructor
        · rintro rfl
          exact ⟨rfl, hlt⟩
        · exact And.left
      · simp only [Option.bind_some, if_neg hlt, Option.some.injEq]
        constructor
        · intro h
          cases h
        · rintro ⟨rfl, h⟩
          exact absurd h hlt

/-- A token that stands for no such number is refused. -/
theorem pageStart_error {token : String} (h : ∀ k, Denotes token k → ¬k < tokenBound) :
    pageStart (some token) = .error (invalidToken token) := by
  cases hstart : pageStart (some token) with
  | ok k =>
      obtain ⟨hdenotes, hlt⟩ := (pageStart_some_iff token k).1 hstart
      exact absurd hlt (h k hdenotes)
  | error f =>
      unfold pageStart at hstart
      cases hread : Text.Numeral.readBelow? tokenBound token.toList with
      | some n =>
          simp only [hread] at hstart
          cases hstart
      | none =>
          simp only [hread] at hstart
          exact hstart.symm

theorem pageStart_text {k : Nat} (h : k < tokenBound) :
    pageStart (some (Text.Numeral.text k)) = .ok k := by
  unfold pageStart Text.Numeral.text
  simp only [String.toList_ofList, Text.Numeral.readBelow?_write h]

theorem text_ne_empty (k : Nat) : Text.Numeral.text k ≠ "" := by
  intro h
  have hempty := congrArg String.toList h
  unfold Text.Numeral.text at hempty
  rw [String.toList_ofList] at hempty
  exact Text.Numeral.write_ne_nil k hempty

/-! ### Some records in pages -/

section Pages

variable {α : Type} {records : List α} {size : Nat}

/-- The number of pages of `n` records, of which the only one or the last may have room left. -/
def pageCount (n size : Nat) : Nat := max 1 ((n + (size - 1)) / size)

theorem pageCount_of_le (hsize : 0 < size) {n : Nat} (h : n ≤ size) : pageCount n size = 1 := by
  have hle : (n + (size - 1)) / size ≤ 1 := by
    refine Nat.le_of_lt_succ ((Nat.div_lt_iff_lt_mul hsize).2 ?_)
    omega
  unfold pageCount
  omega

theorem pageCount_of_lt (hsize : 0 < size) {n : Nat} (h : size < n) :
    pageCount n size = pageCount (n - size) size + 1 := by
  have hsub : n + (size - 1) = n - size + (size - 1) + size := by omega
  have hone : 1 ≤ (n - size + (size - 1)) / size := (Nat.one_le_div_iff hsize).2 (by omega)
  unfold pageCount
  rw [hsub, Nat.add_div_right _ hsize]
  omega

theorem page_of_start {token : Option String} {start : Nat} (h : pageStart token = .ok start) :
    page records size token = .ok (pageAt records size start) := by
  unfold page
  rw [h]
  rfl

/-- **The pages from an offset on** hold all records behind it. -/
theorem exists_pages (hsize : 0 < size) (hbound : records.length < tokenBound)
    {token : Option String} {start : Nat} (hstart : pageStart token = .ok start) :
    ∃ pages, Listing.PagesFrom (page records size) token pages ∧
      Listing.itemsOf pages = records.drop start ∧
      pages.length = pageCount (records.length - start) size := by
  -- Each page leaves fewer records behind it.
  induction hleft : records.length - start using Nat.strongRecOn generalizing token start with
  | _ left ih =>
      have hpage : page records size token = .ok (pageAt records size start) :=
        page_of_start hstart
      by_cases hmore : start + size < records.length
      · have hnext : (pageAt records size start).next = some (Text.Numeral.text (start + size)) :=
          if_pos (by omega)
        obtain ⟨pages, hpages, hitems, hcount⟩ := ih (records.length - (start + size)) (by omega)
          (pageStart_text (k := start + size) (by omega)) rfl
        refine ⟨pageAt records size start :: pages,
          .more hpage hnext (text_ne_empty _) hpages, ?_, ?_⟩
        · show (records.drop start).take size ++ Listing.itemsOf pages = _
          rw [hitems, ← List.drop_drop, List.take_append_drop]
        · have hsub : records.length - (start + size) = left - size := by omega
          have hfull : size < left := by omega
          rw [List.length_cons, hcount, hsub, pageCount_of_lt hsize hfull]
      · have hnext : (pageAt records size start).next = none := if_neg (by omega)
        refine ⟨[pageAt records size start], .last hpage hnext, ?_, ?_⟩
        · show (records.drop start).take size ++ [] = _
          rw [List.append_nil]
          refine List.take_of_length_le ?_
          rw [List.length_drop]
          omega
        · rw [pageCount_of_le hsize (by omega)]
          rfl

/-- What a client sees of some records that come in pages of a size. -/
structure Paged (records : List α) (size : Nat) (fetch : Option String → Outcome (Page α)) :
    Prop where
  /-- The pages that follow from one another hold each record once, in order, and there are no more
  of them than needed. -/
  covers : records.length < tokenBound → ∃ pages, Listing.PagesFrom fetch none pages ∧
    Listing.itemsOf pages = records ∧ pages.length = pageCount records.length size
  /-- A token that stands for a number leads to the records behind as many. -/
  slice : ∀ token k, Denotes token k → k < tokenBound → fetch (some token) = .ok
    { items := (records.drop k).take size
      next := if k + size < records.length then some (Text.Numeral.text (k + size)) else none }
  /-- Every other token is refused. -/
  refuses : ∀ token, (∀ k, Denotes token k → ¬k < tokenBound) →
    fetch (some token) = .error (invalidToken token)

theorem paged_page (records : List α) (hsize : 0 < size) :
    Paged records size (page records size) where
  covers := by
    intro hbound
    have hstart : pageStart none = .ok 0 := rfl
    exact exists_pages hsize hbound hstart
  slice := by
    intro token k hdenotes hlt
    rw [page_of_start ((pageStart_some_iff token k).2 ⟨hdenotes, hlt⟩)]
    unfold pageAt
    have hmin : (min (k + size) records.length < records.length) = (k + size < records.length) := by
      refine propext ?_
      omega
    simp only [hmin]
  refuses := by
    intro token h
    unfold page
    rw [pageStart_error h]
    rfl

end Pages

/-! ### The listings of a metastore -/

section Listings

variable {m : Memory} {h : Holding}

theorem getDatabases_eq (m : Memory) (token : Option String) :
    m.getDatabases token = page (m.inventory.map (·.record)) m.pageSize token := by
  have hrecords : m.databases.values.map (·.record) = m.inventory.map (·.record) := by
    unfold OrderedMap.values inventory
    rw [List.map_map, List.map_map]
    rfl
  unfold getDatabases
  rw [hrecords]

theorem getTables_eq (hh : h ∈ m.inventory) (token : Option String) :
    m.getTables h.name token = page h.tables m.pageSize token := by
  obtain ⟨d, hd, hholding⟩ := mem_inventory.1 hh
  have htables : h.tables = d.tables.values := by rw [hholding]; rfl
  unfold getTables
  rw [database_of_get? hd, htables]
  rfl

end Listings

end Metastore.Memory

/-! ### Namespaces -/

/-- The namespace of a name, if it is the name of one. -/
def NamespaceName.ofName? (name : String) : Option NamespaceName :=
  if h : IsSegment name then some ⟨name, h⟩ else none

theorem NamespaceName.ofName?_text (n : NamespaceName) : ofName? n.text = some n :=
  dif_pos n.isSegment

/-- Only the name of a namespace is read as one. -/
theorem NamespaceName.toOption_parse (name : String) : (parse name).toOption = ofName? name := by
  unfold ofName?
  by_cases h : IsSegment name
  · rw [dif_pos h, parse_text ⟨name, h⟩]
    rfl
  · rw [dif_neg h]
    cases hparse : parse name with
    | error e => rfl
    | ok n =>
        refine absurd ?_ h
        unfold parse ofSegments at hparse
        split at hparse
        · rename_i s hsegments
          have hname : name = s := by
            have hdotted := dotted_segments name
            rw [hsegments] at hdotted
            simpa [dotted, Text.joinWith] using hdotted.symm
          by_cases hs : IsSegment s
          · rw [hname]
            exact hs
          · rw [dif_neg hs] at hparse
            split at hparse <;> cases hparse
        · cases hparse
        · cases hparse

theorem Catalog.listedNamespace_ok (record : DatabaseRecord) :
    Catalog.listedNamespace (.ok record) = (NamespaceName.ofName? record.name).map .ok := by
  show ((NamespaceName.parse record.name).toOption).map Except.ok = _
  rw [NamespaceName.toOption_parse]

namespace Site

variable {s : Site} {c : Catalog}

theorem run_fetchDatabases (token : Option String) (s : Site) :
    (Catalog.fetchDatabases token).run answer s
      = (some ((s.metastore.getDatabases token).mapError (CatalogError.metastore "get_databases")),
        s) := rfl

theorem mapM_id_ok {ε α : Type} (xs : List α) :
    (xs.map Except.ok).mapM id = (.ok xs : Except ε (List α)) := by
  induction xs with
  | nil => rfl
  | cons x xs ih =>
      rw [List.map_cons, List.mapM_cons, ih]
      rfl

/-- **The namespaces** that are listed are the databases whose name is the name of a namespace, in
the order of the metastore. -/
theorem perform_listNamespaces (hsize : 0 < s.metastore.pageSize)
    (hbound : s.metastore.inventory.length < Memory.tokenBound)
    (hbudget : Memory.pageCount s.metastore.inventory.length s.metastore.pageSize ≤ c.pageBudget) :
    (c.listNamespaces none).perform answer s
      = (some (.ok (s.metastore.inventory.filterMap
          fun h => NamespaceName.ofName? h.record.name)), s) := by
  obtain ⟨pages, hchain, hitems, hcount⟩ :=
    (Memory.paged_page (s.metastore.inventory.map (·.record)) hsize).covers (by simpa using hbound)
  have hreply : Listing.PagesFrom (fun token => (s.metastore.getDatabases token).mapError
      (CatalogError.metastore "get_databases")) none pages := by
    refine hchain.imp ?_
    intro token page h
    rw [Memory.getDatabases_eq, h]
    rfl
  rw [List.length_map] at hcount
  have hlisted : ((s.metastore.inventory.map (·.record)).map Except.ok).filterMap
        Catalog.listedNamespace
      = (s.metastore.inventory.filterMap fun h => NamespaceName.ofName? h.record.name).map
        Except.ok := by
    rw [List.filterMap_map, List.filterMap_map, List.map_filterMap]
    congr 1
    funext h
    exact Catalog.listedNamespace_ok h.record
  have hwalk := Listing.run_walk_of_pages (c := Listing.collectConsumer.comap
    Catalog.listedNamespace) (fun token => run_fetchDatabases token s) hreply []
    (hcount ▸ hbudget)
  rw [Listing.answer_comap, hitems, hlisted, Listing.collectConsumer_answer_nil,
    mapM_id_ok] at hwalk
  exact hwalk

/-- What a client sees of the listings of a metastore with pages of a size that holds an
inventory. -/
structure CoversOnce (g : Inventory) (size : Nat) (m : Memory) : Prop where
  /-- The databases are listed in the order in which they were created. -/
  spaces : Memory.Paged (g.map (·.record)) size fun token => (m.respond (.getDatabases token)).1
  /-- So are the tables of each database. -/
  tables : ∀ h ∈ g, Memory.Paged h.tables size fun token =>
    (m.respond (.getTables h.name token)).1
  /-- These are all the databases that there are. -/
  exists_iff : ∀ name, m.databases.contains name = true ↔ ∃ h ∈ g, h.name = name
  /-- No name stands twice. -/
  nodup : (g.map (·.name)).Nodup ∧ ∀ h ∈ g, (h.tables.map (·.name)).Nodup
  /-- Listing changes nothing. -/
  unchanged : ∀ token, (m.respond (.getDatabases token)).2 = m ∧
    ∀ name, (m.respond (.getTables name token)).2 = m
  /-- The namespaces that a catalog lists are the databases with a name for one. -/
  namespaces : ∀ (c : Catalog) (objects : OrderedMap ByteArray), g.length < Memory.tokenBound →
    Memory.pageCount g.length size ≤ c.pageBudget →
      (c.listNamespaces none).perform answer ⟨m, objects⟩
        = (some (.ok (g.filterMap fun h => NamespaceName.ofName? h.record.name)), ⟨m, objects⟩)

/-- With pages of any other size from now on, the listings of a metastore are those of the inventory
that its calls make of nothing. -/
theorem covers_resized (before pageSize : Nat) (calls : List Call) :
    CoversOnce (Inventory.after [] calls) (max pageSize 1)
      (((Memory.withPageSize before).afterCalls calls).resized pageSize) := by
  obtain ⟨hinventory, hbefore⟩ :=
    Memory.inventory_afterCalls (Memory.filed_withPageSize before) calls
  have hfiled := hbefore.resized pageSize
  have hpages : (((Memory.withPageSize before).afterCalls calls).resized pageSize).pageSize
      = max pageSize 1 := rfl
  have hsize : 0 < max pageSize 1 := by omega
  have hg : (((Memory.withPageSize before).afterCalls calls).resized pageSize).inventory
      = Inventory.after [] calls := hinventory
  generalize ((Memory.withPageSize before).afterCalls calls).resized pageSize = m
    at hg hfiled hpages ⊢
  rw [← hg]
  refine ⟨?_, ?_, ?_, ⟨m.nodup_inventory, ?_⟩, fun token => ⟨rfl, fun name => rfl⟩, ?_⟩
  · have hpaged := Memory.paged_page (m.inventory.map (·.record)) hsize
    rw [← hpages, ← funext (Memory.getDatabases_eq m)] at hpaged
    rw [← hpages]
    exact hpaged
  · intro h hh
    have hpaged := Memory.paged_page h.tables hsize
    rw [← hpages, ← funext (Memory.getTables_eq hh)] at hpaged
    rw [← hpages]
    exact hpaged
  · intro name
    rw [OrderedMap.contains_eq, Option.isSome_iff_exists]
    constructor
    · rintro ⟨d, hd⟩
      exact ⟨d.holding name, Memory.mem_inventory.2 ⟨d, hd, rfl⟩, rfl⟩
    · rintro ⟨h, hh, rfl⟩
      obtain ⟨d, hd, -⟩ := Memory.mem_inventory.1 hh
      exact ⟨d, hd⟩
  · intro h hh
    obtain ⟨d, hd, hholding⟩ := Memory.mem_inventory.1 hh
    rw [hholding]
    exact hfiled.nodup_tables hd
  · intro c objects hbound hbudget
    rw [← hpages] at hbudget hsize
    exact perform_listNamespaces (s := ⟨m, objects⟩) hsize hbound hbudget

/-- **Paging covers everything once, whatever the size of the pages.**  After any run of calls to a
metastore with pages of any size, its listings are those of the inventory that the calls make of
nothing; and so they are with pages of any other size from then on. -/
theorem paging_covers_once (before pageSize : Nat) (calls : List Call) :
    CoversOnce (Inventory.after [] calls) (max pageSize 1)
        ((Memory.withPageSize pageSize).afterCalls calls) ∧
      CoversOnce (Inventory.after [] calls) (max pageSize 1)
        (((Memory.withPageSize before).afterCalls calls).resized pageSize) := by
  have hcovers := covers_resized pageSize pageSize calls
  rw [Memory.resized_afterCalls] at hcovers
  exact ⟨hcovers, covers_resized before pageSize calls⟩

end Site

end LakeCatalog
