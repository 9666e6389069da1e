import LakeCatalog.Program

/-!
# Listings in pages

A long listing comes in pages.  A page holds items and, unless it is the last, a token with
which the next one is fetched; an empty token is no token.  A listing is walked lazily: a page
is fetched only when an item is wanted and the page before it is used up, and nothing is
fetched after an error or the last page.

* `Page`, `Cursor` — a page, and the place of a walk between two pages;
* `Remainder`, `next`, `pull` — a listing from which results are pulled one by one;
* `walk` — feeds the items of a listing to a consumer until it has enough;
* `takeConsumer`, `takeAllConsumer`, `collectConsumer`, `firstConsumer` — consumers: some or all
  results one by one, all items or the first error, and only the first result;
* `drain` — all items of a listing, or its first error.

A listing may go on for ever, so each walk is granted a number of pages and gives up when it
would need one more.
-/

namespace LakeCatalog

/-- One page of a listing. -/
structure Page (α : Type) where
  items : List α
  next : Option String := none
deriving DecidableEq, Repr

namespace Listing

/-- Where a walk stands: before the page with this token (the first page has none), or behind
the last page. -/
inductive Cursor where
  | before (token : Option String)
  | finished
deriving DecidableEq, Repr

/-- Where a walk stands after a page. -/
def Cursor.after (next : Option String) : Cursor :=
  match next with
  | none => .finished
  | some token => if token = "" then .finished else .before (some token)

/-! ### Pulling results -/

section Pull

variable {I : Interface} {ε α : Type}

/-- What is left of a listing: items of the last page, where the next page is, and the number of
pages that may still be fetched. -/
structure Remainder (α : Type) where
  items : List α
  cursor : Cursor
  budget : Nat

/-- A listing of which nothing is fetched yet. -/
def Remainder.start (budget : Nat) : Remainder α := ⟨[], .before none, budget⟩

variable (fetch : Option String → Program I (Except ε (Page α)))

/-- The next result of a listing whose last page is used up, which is none at its end. -/
def nextPage : Nat → Cursor → Program I (Option (Except ε α) × Remainder α)
  | budget, .finished => .done (none, ⟨[], .finished, budget⟩)
  | 0, .before _ => .exhausted
  | budget + 1, .before token =>
    (fetch token).bind fun
      | .error e => .done (some (.error e), ⟨[], .finished, budget⟩)
      | .ok page =>
        match page.items with
        | a :: as => .done (some (.ok a), ⟨as, Cursor.after page.next, budget⟩)
        | [] => nextPage budget (Cursor.after page.next)

/-- The next result of a listing. -/
def next (r : Remainder α) : Program I (Option (Except ε α) × Remainder α) :=
  match r.items with
  | a :: as => .done (some (.ok a), { r with items := as })
  | [] => nextPage fetch r.budget r.cursor

/-- Pulls `k` results, each of which is none when the listing is at its end by then. -/
def pull : Nat → Remainder α → Program I (List (Option (Except ε α)) × Remainder α)
  | 0, r => .done ([], r)
  | k + 1, r =>
    (next fetch r).bind fun first =>
      (pull k first.2).bind fun later => .done (first.1 :: later.1, later.2)

end Pull

/-! ### Walking to an answer -/

/-- What a consumer does after a result: it wants more, or has its answer. -/
inductive Step (σ ρ : Type) where
  | more (s : σ)
  | enough (answer : ρ)

/-- A consumer of the results of a listing. -/
structure Consumer (ε α σ ρ : Type) where
  step : σ → Except ε α → Step σ ρ
  finish : σ → ρ

variable {I : Interface} {ε α σ ρ : Type}

/-- Feeds items to a consumer. -/
def feed (c : Consumer ε α σ ρ) : σ → List α → Step σ ρ
  | s, [] => .more s
  | s, a :: as =>
    match c.step s (.ok a) with
    | .enough answer => .enough answer
    | .more s => feed c s as

/-- Walks a listing from a place on, with at most `budget` pages. -/
def walk (fetch : Option String → Program I (Except ε (Page α))) (c : Consumer ε α σ ρ) :
    Nat → σ → Cursor → Program I ρ
  | _, s, .finished => .done (c.finish s)
  | 0, _, .before _ => .exhausted
  | budget + 1, s, .before token =>
    (fetch token).bind fun
      | .error e =>
        match c.step s (.error e) with
        | .enough answer => .done answer
        | .more s => .done (c.finish s)
      | .ok page =>
        match feed c s page.items with
        | .enough answer => .done answer
        | .more s => walk fetch c budget s (Cursor.after page.next)

/-! ### Consumers -/

/-- Takes results until there are `n`; the state holds those so far, last first. -/
def takeConsumer (n : Nat) :
    Consumer ε α (List (Except ε α)) (List (Except ε α)) where
  step s r := if s.length + 1 < n then .more (r :: s) else .enough (r :: s).reverse
  finish s := s.reverse

/-- Takes all results. -/
def takeAllConsumer : Consumer ε α (List (Except ε α)) (List (Except ε α)) where
  step s r := .more (r :: s)
  finish s := s.reverse

/-- Takes all items, or the first error. -/
def collectConsumer : Consumer ε α (List α) (Except ε (List α)) where
  step s
    | .ok a => .more (a :: s)
    | .error e => .enough (.error e)
  finish s := .ok s.reverse

/-- Takes the first result. -/
def firstConsumer : Consumer ε α Unit (Option (Except ε α)) where
  step _ r := .enough (some r)
  finish _ := none

/-- A consumer of other results, each of which `f` turns into one result for this consumer or
into none. -/
def Consumer.comap {ε' β : Type} (c : Consumer ε α σ ρ)
    (f : Except ε' β → Option (Except ε α)) : Consumer ε' β σ ρ where
  step s r := match f r with
    | none => .more s
    | some r => c.step s r
  finish := c.finish

/-- All items of a listing, or its first error. -/
def drain (fetch : Option String → Program I (Except ε (Page α))) (budget : Nat) :
    Program I (Except ε (List α)) :=
  walk fetch collectConsumer budget [] (.before none)

end Listing

end LakeCatalog
