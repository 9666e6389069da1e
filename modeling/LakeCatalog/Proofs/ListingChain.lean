import LakeCatalog.Listing

/-!
# Listings are walked exactly, and lazily

A backend answers each token with a page or an error.  The pages of a listing form a chain: the
first is fetched without a token, each other one with the token of the page before it, and the
chain ends with a page without a token, or with an empty one, or with an error.  It may be without
an end.

* `follow`, `tokenAt`, `tokens`, `results` — the chain: what it fetches, and what comes of it;
* `run_walk` — a walk fetches the shortest part of the chain that tells its consumer enough;
* `pull_eq_walk` — pulling some results is walking until there are so many;
* `pull_exact` — pulled results and drained listings, with the tokens that are fetched for them.
-/

namespace LakeCatalog.Listing

/-! ### Chains of pages -/

section Chain

variable {ε α : Type} (reply : Option String → Except ε (Page α))

/-- The token that is fetched after a token, if any. -/
def follow (token : Option String) : Option (Option String) :=
  match reply token with
  | .error _ => none
  | .ok page => (page.next.filter (· ≠ "")).map some

/-- What comes of a fetch: the items of the page, or the error. -/
def resultsOf (token : Option String) : List (Except ε α) :=
  match reply token with
  | .error e => [.error e]
  | .ok page => page.items.map .ok

/-- The token that a chain comes to after `n` fetches, if it has not ended by then. -/
def tokenAt : Nat → Option (Option String) → Option (Option String)
  | 0, t => t
  | n + 1, t => tokenAt n (t.bind (follow reply))

/-- The tokens of the first `n` fetches of a chain, or of all when there are not so many. -/
def tokens : Nat → Option (Option String) → List (Option String)
  | 0, _ => []
  | n + 1, t => t.toList ++ tokens n (t.bind (follow reply))

/-- What comes of the first `n` fetches of a chain. -/
def results (n : Nat) (t : Option (Option String)) : List (Except ε α) :=
  (tokens reply n t).flatMap (resultsOf reply)

theorem results_succ (n : Nat) (token : Option String) :
    results reply (n + 1) (some token)
      = resultsOf reply token ++ results reply n (follow reply token) := rfl

theorem follow_error {token : Option String} {e : ε} (h : reply token = .error e) :
    follow reply token = none := by
  unfold follow
  rw [h]

theorem follow_ok {token : Option String} {page : Page α} (h : reply token = .ok page) :
    follow reply token = (page.next.filter (· ≠ "")).map some := by
  unfold follow
  rw [h]

theorem tokenAt_none (n : Nat) : tokenAt reply n none = none := by
  induction n with
  | zero => rfl
  | succ n ih => exact ih

theorem tokens_none (n : Nat) : tokens reply n none = [] := by
  induction n with
  | zero => rfl
  | succ n ih => exact ih

theorem results_none (n : Nat) : results reply n none = [] := by
  unfold results
  rw [tokens_none]
  rfl

/-- A longer part of a chain goes on where a shorter one has come to. -/
theorem tokens_add (n m : Nat) (t : Option (Option String)) :
    tokens reply (n + m) t = tokens reply n t ++ tokens reply m (tokenAt reply n t) := by
  induction n generalizing t with
  | zero =>
      rw [Nat.zero_add]
      rfl
  | succ n ih =>
      rw [Nat.succ_add]
      show t.toList ++ tokens reply (n + m) (t.bind (follow reply))
        = t.toList ++ tokens reply n (t.bind (follow reply)) ++ _
      rw [ih, List.append_assoc]
      rfl

theorem results_add (n m : Nat) (t : Option (Option String)) :
    results reply (n + m) t = results reply n t ++ results reply m (tokenAt reply n t) := by
  unfold results
  rw [tokens_add, List.flatMap_append]

/-- An error is the last thing that comes of a chain. -/
theorem tokenAt_of_error {e : ε} (n : Nat) (t : Option (Option String))
    (he : Except.error e ∈ results reply n t) : tokenAt reply n t = none := by
  induction n generalizing t with
  | zero => cases he
  | succ n ih =>
      cases t with
      | none =>
          rw [results_none] at he
          cases he
      | some token =>
          rw [results_succ, List.mem_append] at he
          show tokenAt reply n (follow reply token) = none
          obtain hfirst | hlater := he
          · cases hreply : reply token with
            | error e' =>
                rw [follow_error reply hreply]
                exact tokenAt_none reply n
            | ok page =>
                unfold resultsOf at hfirst
                rw [hreply] at hfirst
                simp at hfirst
          · exact ih (follow reply token) hlater

end Chain

/-- Where a walk stands, as the token that it comes to. -/
def Cursor.token : Cursor → Option (Option String)
  | .before token => some token
  | .finished => none

theorem Cursor.token_after (next : Option String) :
    (Cursor.after next).token = (next.filter (· ≠ "")).map some := by
  cases next with
  | none => rfl
  | some token =>
      by_cases h : token = ""
      · simp [Cursor.after, Cursor.token, h, Option.filter]
      · simp [Cursor.after, Cursor.token, h, Option.filter]

/-! ### The shortest part of a chain -/

/-- The least number with a property. -/
def Shortest (P : Nat → Prop) (n : Nat) : Prop := P n ∧ ∀ m < n, ¬P m

theorem Shortest.succ {P Q : Nat → Prop} {n : Nat} (h : Shortest Q n) (hzero : ¬P 0)
    (hsucc : ∀ m, P (m + 1) ↔ Q m) : Shortest P (n + 1) := by
  refine ⟨(hsucc n).2 h.1, ?_⟩
  intro m hm
  cases m with
  | zero => exact hzero
  | succ m => exact fun hlater => h.2 m (Nat.lt_of_succ_lt_succ hm) ((hsucc m).1 hlater)

/-! ### Consumers and lists of results -/

section Consume

variable {ε α σ ρ : Type} (c : Consumer ε α σ ρ)

/-- Feeds results to a consumer. -/
def Consumer.consume : σ → List (Except ε α) → Step σ ρ
  | s, [] => .more s
  | s, r :: rs =>
    match c.step s r with
    | .enough answer => .enough answer
    | .more s => consume s rs

/-- The consumer needs no further result. -/
def Consumer.Satisfied (s : σ) (rs : List (Except ε α)) : Prop :=
  ∃ answer, c.consume s rs = .enough answer

/-- The answer of a consumer to a listing with some results. -/
def Consumer.answer (s : σ) (rs : List (Except ε α)) : ρ :=
  match c.consume s rs with
  | .enough answer => answer
  | .more s => c.finish s

theorem Consumer.consume_items (s : σ) (items : List α) :
    c.consume s (items.map .ok) = feed c s items := by
  induction items generalizing s with
  | nil => rfl
  | cons a items ih =>
      unfold feed
      show (match c.step s (.ok a) with
        | .enough answer => Step.enough answer
        | .more s => c.consume s (items.map .ok)) = _
      cases c.step s (.ok a) with
      | enough answer => rfl
      | more s' => exact ih s'

theorem Consumer.consume_append (s : σ) (rs rs' : List (Except ε α)) :
    c.consume s (rs ++ rs') = match c.consume s rs with
      | .enough answer => .enough answer
      | .more s => c.consume s rs' := by
  induction rs generalizing s with
  | nil => rfl
  | cons r rs ih =>
      show (match c.step s r with
        | .enough answer => Step.enough answer
        | .more s => c.consume s (rs ++ rs')) = match (match c.step s r with
        | .enough answer => Step.enough answer
        | .more s => c.consume s rs) with
          | .enough answer => .enough answer
          | .more s => c.consume s rs'
      cases c.step s r with
      | enough answer => rfl
      | more s' => exact ih s'

end Consume

/-! ### Walks along a chain -/

section Walk

variable {I : Interface} {ε α σ ρ τ : Type} {h : Handler I τ}
  {fetch : Option String → Program I (Except ε (Page α))}
  {reply : Option String → Except ε (Page α)} {note : τ → Option String → τ}
  {c : Consumer ε α σ ρ}

/-- The first `n` fetches tell a consumer enough: it is satisfied, or the chain has ended. -/
def Consumer.Decided (c : Consumer ε α σ ρ) (reply : Option String → Except ε (Page α)) (s : σ)
    (t : Option (Option String)) (n : Nat) : Prop :=
  c.Satisfied s (results reply n t) ∨ tokenAt reply n t = none

/-- Nothing is left to decide behind the last page. -/
theorem decided_none (s : σ) (n : Nat) : c.Decided reply s none n :=
  Or.inr (tokenAt_none reply n)

theorem not_decided_zero (s : σ) (token : Option String) :
    ¬c.Decided reply s (some token) 0 := by
  rintro (⟨answer, hanswer⟩ | hended)
  · cases hanswer
  · cases hended

/-- A first fetch that fails decides everything. -/
theorem decided_error {token : Option String} {e : ε} (hreply : reply token = .error e) (s : σ) :
    c.Decided reply s (some token) 1 :=
  Or.inr (follow_error reply hreply)

theorem results_error {token : Option String} {e : ε} (hreply : reply token = .error e) :
    results reply 1 (some token) = [.error e] := by
  rw [results_succ]
  unfold resultsOf
  rw [hreply]
  rfl

/-- A first fetch of a page leads to what the consumer makes of its items. -/
theorem consume_page {token : Option String} {page : Page α} (hreply : reply token = .ok page)
    (s : σ) (n : Nat) :
    c.consume s (results reply (n + 1) (some token)) = match feed c s page.items with
      | .enough answer => .enough answer
      | .more s => c.consume s (results reply n (follow reply token)) := by
  rw [results_succ]
  unfold resultsOf
  rw [hreply, Consumer.consume_append, Consumer.consume_items]

section Step

variable {s s' : σ} {token : Option String} {state state' : τ}
  (hfetch : (fetch token).run h state = (some (reply token), state')) (budget : Nat)

include hfetch

/-- The first step of a walk. -/
theorem run_walk_before :
    (walk fetch c (budget + 1) s (.before token)).run h state
      = Program.run h (match reply token with
        | .error e =>
          match c.step s (.error e) with
          | .enough answer => .done answer
          | .more s => .done (c.finish s)
        | .ok page =>
          match feed c s page.items with
          | .enough answer => .done answer
          | .more s => walk fetch c budget s (Cursor.after page.next)) state' := by
  conv =>
    lhs
    unfold walk
  refine (Program.run_bind h (fetch token) _ state).trans ?_
  obtain ⟨result, hrun⟩ : ∃ result, (fetch token).run h state = result := ⟨_, rfl⟩
  rw [hrun]
  rw [hfetch] at hrun
  subst hrun
  cases reply token with
  | error e => rfl
  | ok page => rfl

theorem run_walk_error {e : ε} (hreply : reply token = .error e) :
    (walk fetch c (budget + 1) s (.before token)).run h state
      = (some (c.answer s [.error e]), state') := by
  rw [run_walk_before hfetch, hreply]
  unfold Consumer.answer Consumer.consume
  simp only
  cases c.step s (.error e) with
  | enough answer => rfl
  | more s' => rfl

theorem run_walk_enough {page : Page α} {answer : ρ} (hreply : reply token = .ok page)
    (hfeed : feed c s page.items = .enough answer) :
    (walk fetch c (budget + 1) s (.before token)).run h state
      = (some answer, state') := by
  rw [run_walk_before hfetch, hreply]
  simp only [hfeed]
  rfl

theorem run_walk_more {page : Page α} (hreply : reply token = .ok page)
    (hfeed : feed c s page.items = .more s') :
    (walk fetch c (budget + 1) s (.before token)).run h state
      = (walk fetch c budget s' (Cursor.after page.next)).run h state' := by
  rw [run_walk_before hfetch, hreply]
  simp only [hfeed]

end Step

/-- What a walk along a chain comes to: it fetches the shortest part of the chain that tells its
consumer enough, if its budget allows for that, and otherwise uses the budget up. -/
inductive Walked (c : Consumer ε α σ ρ) (reply : Option String → Except ε (Page α))
    (note : τ → Option String → τ) (budget : Nat) (s : σ) (t : Option (Option String)) (state : τ) :
    Option ρ × τ → Prop
  | decided (n : Nat) (hn : n ≤ budget) (hshortest : Shortest (c.Decided reply s t) n) :
      Walked c reply note budget s t state
        (some (c.answer s (results reply n t)), (tokens reply n t).foldl note state)
  | undecided (hnot : ∀ n ≤ budget, ¬c.Decided reply s t n) :
      Walked c reply note budget s t state (none, (tokens reply budget t).foldl note state)

section Walked

variable {budget : Nat} {s s' : σ} {token : Option String} {state : τ} {result : Option ρ × τ}

theorem walked_finished : Walked c reply note budget s none state (some (c.finish s), state) :=
  .decided 0 (Nat.zero_le budget) ⟨decided_none s 0, fun m hm => absurd hm (Nat.not_lt_zero m)⟩

theorem walked_exhausted : Walked c reply note 0 s (some token) state (none, state) := by
  refine .undecided ?_
  intro n hn
  rw [Nat.le_zero.1 hn]
  exact not_decided_zero s token

/-- A first fetch that decides. -/
theorem walked_one (hone : c.Decided reply s (some token) 1) :
    Walked c reply note (budget + 1) s (some token) state
      (some (c.answer s (results reply 1 (some token))), note state token) := by
  refine .decided 1 (Nat.succ_le_succ (Nat.zero_le budget)) ⟨hone, ?_⟩
  intro m hm
  rw [Nat.lt_one_iff.1 hm]
  exact not_decided_zero s token

/-- A first fetch after which the rest of the chain decides. -/
theorem walked_more {page : Page α} (hreply : reply token = .ok page)
    (hfeed : feed c s page.items = .more s')
    (hrest : Walked c reply note budget s' (follow reply token) (note state token) result) :
    Walked c reply note (budget + 1) s (some token) state result := by
  have hconsume : ∀ m, c.consume s (results reply (m + 1) (some token))
      = c.consume s' (results reply m (follow reply token)) := by
    intro m
    rw [consume_page hreply, hfeed]
  have hdecided : ∀ m, c.Decided reply s (some token) (m + 1) ↔
      c.Decided reply s' (follow reply token) m := by
    intro m
    unfold Consumer.Decided Consumer.Satisfied
    rw [hconsume]
    rfl
  cases hrest with
  | decided n hn hshortest =>
      have hanswer : c.answer s' (results reply n (follow reply token))
          = c.answer s (results reply (n + 1) (some token)) := by
        unfold Consumer.answer
        rw [hconsume]
      rw [hanswer]
      exact .decided (n + 1) (Nat.succ_le_succ hn)
        (hshortest.succ (not_decided_zero s token) hdecided)
  | undecided hnot =>
      refine .undecided ?_
      intro n hn
      cases n with
      | zero => exact not_decided_zero s token
      | succ n => exact fun hlater => hnot n (Nat.le_of_succ_le_succ hn) ((hdecided n).1 hlater)

end Walked

/-- **A walk** fetches the shortest part of the chain that tells its consumer enough. -/
theorem run_walk (hfetch : ∀ token s, (fetch token).run h s = (some (reply token), note s token))
    (budget : Nat) (s : σ) (cursor : Cursor) (state : τ) :
    Walked c reply note budget s cursor.token state
      ((walk fetch c budget s cursor).run h state) := by
  induction budget generalizing s cursor state with
  | zero =>
      cases cursor with
      | finished => exact walked_finished
      | before token => exact walked_exhausted
  | succ budget ih =>
      cases cursor with
      | finished => exact walked_finished
      | before token =>
          cases hreply : reply token with
          | error e =>
              rw [run_walk_error (hfetch token state) budget hreply, ← results_error hreply]
              exact walked_one (decided_error hreply s)
          | ok page =>
              cases hfeed : feed c s page.items with
              | enough answer =>
                  have hconsume : c.consume s (results reply 1 (some token)) = .enough answer := by
                    rw [consume_page hreply, hfeed]
                  have hanswer : c.answer s (results reply 1 (some token)) = answer := by
                    unfold Consumer.answer
                    rw [hconsume]
                  rw [run_walk_enough (hfetch token state) budget hreply hfeed, ← hanswer]
                  exact walked_one (Or.inl ⟨answer, hconsume⟩)
              | more s' =>
                  have hcursor : (Cursor.after page.next).token = follow reply token := by
                    rw [Cursor.token_after, follow_ok reply hreply]
                  have hrest := ih s' (Cursor.after page.next) (note state token)
                  rw [hcursor] at hrest
                  rw [run_walk_more (hfetch token state) budget hreply hfeed]
                  exact walked_more hreply hfeed hrest

end Walk

/-! ### Pulling is walking -/

/-- The first `k` things of a list, and none where it has no more. -/
def firstOf {β : Type} : Nat → List β → List (Option β)
  | 0, _ => []
  | k + 1, [] => none :: firstOf k []
  | k + 1, b :: bs => some b :: firstOf k bs

theorem firstOf_append {β : Type} (bs bs' : List β) (k : Nat) :
    firstOf (bs.length + k) (bs ++ bs') = bs.map some ++ firstOf k bs' := by
  induction bs with
  | nil => simp
  | cons b bs ih =>
      rw [List.length_cons, Nat.succ_add]
      show some b :: firstOf (bs.length + k) (bs ++ bs') = some b :: (bs.map some ++ firstOf k bs')
      rw [ih]

/-- The first things, when those so far are kept last first. -/
theorem firstOf_reverse_append {β : Type} (sofar bs : List β) (k : Nat) :
    firstOf (sofar.length + k) (sofar.reverse ++ bs) = sofar.reverse.map some ++ firstOf k bs := by
  rw [← List.length_reverse, firstOf_append]

theorem firstOf_take {β : Type} (k : Nat) (bs : List β) :
    firstOf k (bs.take k) = firstOf k bs := by
  induction k generalizing bs with
  | zero => rfl
  | succ k ih =>
      cases bs with
      | nil => rfl
      | cons b bs =>
          show some b :: firstOf k (bs.take k) = some b :: firstOf k bs
          rw [ih]

theorem firstOf_append_of_le {β : Type} {k : Nat} {bs : List β} (hk : k ≤ bs.length)
    (bs' : List β) : firstOf k (bs ++ bs') = firstOf k bs := by
  rw [← firstOf_take k (bs ++ bs'), List.take_append_of_le_length hk, firstOf_take]

section Pull

variable {I : Interface} {ε α : Type} (fetch : Option String → Program I (Except ε (Page α)))

/-- A walk that has some items left of the page before. -/
def walkOn {σ ρ : Type} (c : Consumer ε α σ ρ) (s : σ) (r : Remainder α) : Program I ρ :=
  match feed c s r.items with
  | .enough answer => .done answer
  | .more s => walk fetch c r.budget s r.cursor

theorem nextPage_before (budget : Nat) (token : Option String) :
    nextPage fetch (budget + 1) (.before token) = (fetch token).bind fun
      | .error e => .done (some (.error e), ⟨[], .finished, budget⟩)
      | .ok page => next fetch ⟨page.items, Cursor.after page.next, budget⟩ := by
  conv =>
    lhs
    unfold nextPage
  congr 1

/-- Nothing but the end is pulled from a listing that is at its end. -/
theorem pull_finished (k budget : Nat) :
    pull fetch k (⟨[], .finished, budget⟩ : Remainder α)
      = .done (firstOf k [], ⟨[], .finished, budget⟩) := by
  induction k with
  | zero => rfl
  | succ k ih =>
      have hnext : next fetch (⟨[], .finished, budget⟩ : Remainder α)
          = .done (none, ⟨[], .finished, budget⟩) := by
        cases budget <;> rfl
      unfold pull
      rw [hnext]
      show (pull fetch k ⟨[], .finished, budget⟩).bind _ = _
      rw [ih]
      rfl

/-- Pulling `k` more results after some is walking to as many in all. -/
def PullsAs (r : Remainder α) : Prop :=
  ∀ (k : Nat) (sofar : List (Except ε α)),
    ((pull fetch (k + 1) r).bind fun pulled => .done (sofar.reverse.map some ++ pulled.1))
      = (walkOn fetch (takeConsumer (sofar.length + (k + 1))) sofar r).bind fun rs =>
          .done (firstOf (sofar.length + (k + 1)) rs)

variable {fetch}

theorem pull_succ_items (k : Nat) (a : α) (items : List α) (cursor : Cursor) (budget : Nat) :
    pull fetch (k + 1) ⟨a :: items, cursor, budget⟩
      = (pull fetch k ⟨items, cursor, budget⟩).bind fun later =>
          .done (some (.ok a) :: later.1, later.2) := rfl

/-- One more result is taken, and one fewer is left to take. -/
theorem length_add_cons {β : Type} (b : β) (sofar : List β) (k : Nat) :
    sofar.length + (k + 2) = (b :: sofar).length + (k + 1) := by
  rw [List.length_cons]
  omega

theorem takeConsumer_step_last (sofar : List (Except ε α)) (r : Except ε α) :
    (takeConsumer (sofar.length + 1)).step sofar r = .enough (r :: sofar).reverse :=
  if_neg (Nat.lt_irrefl _)

theorem takeConsumer_step_more (sofar : List (Except ε α)) (r : Except ε α) (k : Nat) :
    (takeConsumer (sofar.length + (k + 2))).step sofar r = .more (r :: sofar) :=
  if_pos (by omega)

/-- Items that are left of a page change nothing about what follows them. -/
theorem pullsAs_items {cursor : Cursor} {budget : Nat}
    (hnil : PullsAs fetch ⟨[], cursor, budget⟩) (items : List α) :
    PullsAs fetch ⟨items, cursor, budget⟩ := by
  induction items with
  | nil => exact hnil
  | cons a items ih =>
      intro k sofar
      rw [pull_succ_items, Program.bind_assoc]
      cases k with
      | zero =>
          have hwalk : walkOn fetch (takeConsumer (sofar.length + 1)) sofar
              ⟨a :: items, cursor, budget⟩ = .done ((.ok a :: sofar).reverse) := by
            unfold walkOn feed
            rw [takeConsumer_step_last]
          rw [hwalk, List.reverse_cons]
          show _ = Program.done (firstOf (sofar.length + 1) _)
          rw [firstOf_reverse_append]
          rfl
      | succ k =>
          have hwalk : walkOn fetch (takeConsumer (sofar.length + (k + 2))) sofar
              ⟨a :: items, cursor, budget⟩
              = walkOn fetch (takeConsumer (sofar.length + (k + 2))) (.ok a :: sofar)
                ⟨items, cursor, budget⟩ := by
            unfold walkOn
            conv =>
              lhs
              unfold feed
            rw [takeConsumer_step_more]
          rw [hwalk, length_add_cons (Except.ok a) sofar k, ← ih k (.ok a :: sofar)]
          congr 1
          funext later
          simp [Program.bind]

theorem pullsAs_finished (budget : Nat) : PullsAs fetch ⟨[], .finished, budget⟩ := by
  intro k sofar
  have hwalk : walkOn fetch (takeConsumer (sofar.length + (k + 1))) sofar
      ⟨[], .finished, budget⟩ = .done sofar.reverse := by
    cases budget <;> rfl
  rw [pull_finished, hwalk]
  show _ = Program.done (firstOf (sofar.length + (k + 1)) sofar.reverse)
  rw [← List.append_nil sofar.reverse, firstOf_reverse_append, List.append_nil]
  rfl

theorem takeConsumer_step (n : Nat) (sofar : List (Except ε α)) (r : Except ε α) :
    (takeConsumer n).step sofar r = .more (r :: sofar) ∨
      (takeConsumer n).step sofar r = .enough (r :: sofar).reverse := by
  by_cases hmore : sofar.length + 1 < n
  · exact Or.inl (if_pos hmore)
  · exact Or.inr (if_neg hmore)

theorem pullsAs_nil (budget : Nat) (cursor : Cursor) :
    PullsAs fetch ⟨[], cursor, budget⟩ := by
  -- On the budget: each page takes one from it, and its items are gone through before the next.
  induction budget generalizing cursor with
  | zero =>
      cases cursor with
      | finished => exact pullsAs_finished 0
      | before token => exact fun k sofar => rfl
  | succ budget ih =>
      cases cursor with
      | finished => exact pullsAs_finished (budget + 1)
      | before token =>
          intro k sofar
          have hpull : pull fetch (k + 1) ⟨[], .before token, budget + 1⟩
              = (nextPage fetch (budget + 1) (.before token)).bind fun first =>
                  (pull fetch k first.2).bind fun later =>
                    .done (first.1 :: later.1, later.2) := rfl
          have hwalk : walkOn fetch (takeConsumer (sofar.length + (k + 1))) sofar
              ⟨[], .before token, budget + 1⟩
              = walk fetch (takeConsumer (sofar.length + (k + 1))) (budget + 1) sofar
                (.before token) := rfl
          rw [hpull, hwalk, nextPage_before]
          unfold walk
          rw [Program.bind_assoc, Program.bind_assoc, Program.bind_assoc]
          congr 1
          funext reply
          cases reply with
          | error e =>
              have hfirst := firstOf_reverse_append sofar [Except.error e] (k + 1)
              rw [← List.reverse_cons] at hfirst
              refine Eq.trans (b := .done (sofar.reverse.map some ++ firstOf (k + 1) [.error e])) ?_ ?_
              · refine Eq.trans (Program.bind_assoc _ _ _) ?_
                rw [pull_finished]
                rfl
              · rw [← hfirst]
                obtain hstep | hstep :=
                  takeConsumer_step (sofar.length + (k + 1)) sofar (Except.error e)
                · simp only [hstep]
                  rfl
                · simp only [hstep]
                  rfl
          | ok page =>
              refine Eq.trans (Program.bind_assoc _ _ _).symm ?_
              exact pullsAs_items (ih (Cursor.after page.next)) page.items k sofar

variable (fetch) in
/-- Pulling results is walking until there are so many. -/
theorem pull_eq_walk (k budget : Nat) :
    ((pull fetch (k + 1) (.start budget)).bind fun pulled => .done pulled.1)
      = (walk fetch (takeConsumer (k + 1)) budget [] (.before none)).bind fun rs =>
          .done (firstOf (k + 1) rs) := by
  have hstart : PullsAs fetch (.start budget) := pullsAs_nil budget (.before none)
  have hpulls := hstart k []
  rw [List.length_nil, Nat.zero_add] at hpulls
  exact hpulls

end Pull

/-! ### What takers and collectors make of a list of results -/

section Consumers

variable {ε α : Type}

theorem takeConsumer_consume (k : Nat) (sofar rs : List (Except ε α)) :
    (takeConsumer (sofar.length + (k + 1))).consume sofar rs
      = if k + 1 ≤ rs.length then .enough (sofar.reverse ++ rs.take (k + 1))
        else .more (rs.reverse ++ sofar) := by
  induction rs generalizing k sofar with
  | nil => rfl
  | cons r rs ih =>
      unfold Consumer.consume
      cases k with
      | zero =>
          rw [takeConsumer_step_last]
          simp
      | succ k =>
          rw [takeConsumer_step_more]
          simp only [length_add_cons r sofar k, ih k (r :: sofar)]
          simp

theorem takeConsumer_consume_nil (k : Nat) (rs : List (Except ε α)) :
    (takeConsumer (k + 1)).consume [] rs
      = if k + 1 ≤ rs.length then .enough (rs.take (k + 1)) else .more rs.reverse := by
  have hconsume := takeConsumer_consume k [] rs
  rw [List.length_nil, Nat.zero_add, List.append_nil] at hconsume
  exact hconsume

theorem takeConsumer_satisfied (k : Nat) (rs : List (Except ε α)) :
    (takeConsumer (k + 1)).Satisfied [] rs ↔ k + 1 ≤ rs.length := by
  unfold Consumer.Satisfied
  rw [takeConsumer_consume_nil]
  by_cases henough : k + 1 ≤ rs.length
  · simp [henough]
  · simp [henough]

theorem takeConsumer_answer (k : Nat) (rs : List (Except ε α)) :
    (takeConsumer (k + 1)).answer [] rs = rs.take (k + 1) := by
  unfold Consumer.answer
  rw [takeConsumer_consume_nil]
  by_cases henough : k + 1 ≤ rs.length
  · simp only [henough, if_true]
  · simp only [henough, if_false]
    show rs.reverse.reverse = rs.take (k + 1)
    rw [List.reverse_reverse, List.take_of_length_le (by omega)]

theorem collectConsumer_answer (items : List α) (rs : List (Except ε α)) :
    collectConsumer.answer items rs = (rs.mapM id).map (items.reverse ++ ·) := by
  induction rs generalizing items with
  | nil =>
      show Except.ok items.reverse = Except.ok (items.reverse ++ [])
      rw [List.append_nil]
  | cons r rs ih =>
      cases r with
      | error e => rfl
      | ok a =>
          show collectConsumer.answer (a :: items) rs = _
          rw [ih, List.mapM_cons]
          cases hrest : rs.mapM id with
          | error e => rfl
          | ok later =>
              show Except.ok ((a :: items).reverse ++ later)
                = Except.ok (items.reverse ++ a :: later)
              rw [List.reverse_cons, List.append_assoc]
              rfl

theorem collectConsumer_answer_nil (rs : List (Except ε α)) :
    collectConsumer.answer [] rs = rs.mapM id := by
  rw [collectConsumer_answer]
  cases rs.mapM id with
  | error e => rfl
  | ok items => rfl

/-- A collector is satisfied by errors only. -/
theorem exists_error_of_satisfied {items : List α} {rs : List (Except ε α)}
    (h : collectConsumer.Satisfied items rs) : ∃ e, Except.error e ∈ rs := by
  induction rs generalizing items with
  | nil =>
      obtain ⟨answer, hanswer⟩ := h
      cases hanswer
  | cons r rs ih =>
      cases r with
      | error e => exact ⟨e, List.mem_cons_self⟩
      | ok a =>
          have hrest : collectConsumer.Satisfied (a :: items) rs := h
          obtain ⟨e, he⟩ := ih hrest
          exact ⟨e, List.mem_cons_of_mem _ he⟩

end Consumers

/-! ### Pulled results and drained listings -/

section Exact

variable {ε α : Type}

/-- Tokens as questions, answered with pages or errors. -/
def tokenQueries (ε α : Type) : Interface := ⟨Option String, fun _ => Except ε (Page α)⟩

/-- Asks for the page with a token. -/
def ask (token : Option String) : Program (tokenQueries ε α) (Except ε (Page α)) :=
  Program.query (I := tokenQueries ε α) token

variable (reply : Option String → Except ε (Page α))

/-- Answers tokens, and keeps a record of them. -/
def recording : Handler (tokenQueries ε α) (List (Option String)) :=
  fun (token : Option String) log => (reply token, log ++ [token])

/-- The tokens of the first `n` fetches of a listing. -/
def fetched (n : Nat) : List (Option String) := tokens reply n (some none)

/-- What comes of the first `n` fetches of a listing. -/
def listed (n : Nat) : List (Except ε α) := results reply n (some none)

/-- The listing has no more than `n` fetches. -/
def Ended (n : Nat) : Prop := tokenAt reply n (some none) = none

/-- The first `n` fetches of a listing determine its first `k` results. -/
def Determines (k n : Nat) : Prop := k ≤ (listed reply n).length ∨ Ended reply n

theorem decided_take (k : Nat) :
    (takeConsumer (k + 1)).Decided reply [] (some none) = Determines reply (k + 1) := by
  funext n
  unfold Consumer.Decided
  rw [takeConsumer_satisfied]
  rfl

theorem decided_collect : collectConsumer.Decided reply [] (some none) = Ended reply := by
  funext n
  refine propext ⟨?_, Or.inr⟩
  rintro (hsatisfied | hended)
  · obtain ⟨e, he⟩ := exists_error_of_satisfied hsatisfied
    exact tokenAt_of_error reply n (some none) he
  · exact hended

/-- What determines the first results of a listing agrees on them with every longer part. -/
theorem firstOf_listed {k n m : Nat} (hn : Determines reply k n) (hm : n ≤ m) :
    firstOf k (listed reply m) = firstOf k (listed reply n) := by
  obtain ⟨d, rfl⟩ := Nat.exists_eq_add_of_le hm
  have hlonger : listed reply (n + d)
      = listed reply n ++ results reply d (tokenAt reply n (some none)) :=
    results_add reply n d (some none)
  rw [hlonger]
  obtain hmany | hended := hn
  · exact firstOf_append_of_le hmany _
  · unfold Ended at hended
    rw [hended, results_none, List.append_nil]

theorem foldl_record (log more : List (Option String)) :
    more.foldl (fun log token => log ++ [token]) log = log ++ more := by
  induction more generalizing log with
  | nil => exact (List.append_nil log).symm
  | cons token more ih =>
      show more.foldl _ (log ++ [token]) = _
      rw [ih, List.append_assoc]
      rfl

/-- A listing is fetched until there is enough for an answer, and no further; if the budget is not
enough for that, it is used up without an answer. -/
inductive FetchesUntil {ρ : Type} (enough : Nat → Prop) (answer : Nat → ρ → Prop) (budget : Nat) :
    Option ρ × List (Option String) → Prop
  | answered (n : Nat) (hn : n ≤ budget) (hshortest : Shortest enough n) (r : ρ)
      (hr : answer n r) : FetchesUntil enough answer budget (some r, fetched reply n)
  | never (hnot : ∀ n ≤ budget, ¬enough n) :
      FetchesUntil enough answer budget (none, fetched reply budget)

theorem fetchesUntil_walk {σ ρ : Type} (c : Consumer ε α σ ρ) (s : σ) (budget : Nat) :
    FetchesUntil reply (c.Decided reply s (some none)) (fun n r => r = c.answer s (listed reply n))
      budget ((walk ask c budget s (.before none)).run (recording reply) []) := by
  have hwalk : Walked c reply (fun log token => log ++ [token]) budget s (some none) []
      ((walk ask c budget s (.before none)).run (recording reply) []) :=
    run_walk (fun _ _ => rfl) budget s (.before none) []
  generalize (walk ask c budget s (.before none)).run (recording reply) [] = result at hwalk ⊢
  cases hwalk with
  | decided n hn hshortest =>
      rw [foldl_record, List.nil_append]
      exact .answered n hn hshortest _ rfl
  | undecided hnot =>
      rw [foldl_record, List.nil_append]
      exact .never hnot

theorem fetchesUntil_pull (k budget : Nat) :
    FetchesUntil reply (Determines reply k)
      (fun n (pulled : List (Option (Except ε α)) × Remainder α) =>
        ∀ m ≥ n, pulled.1 = firstOf k (listed reply m))
      budget ((pull ask k (.start budget)).run (recording reply) []) := by
  cases k with
  | zero =>
      refine .answered 0 (Nat.zero_le budget) ⟨Or.inl (Nat.zero_le _), ?_⟩ _ (fun m _ => rfl)
      exact fun m hm => absurd hm (Nat.not_lt_zero m)
  | succ k =>
      have hwalk := fetchesUntil_walk reply (takeConsumer (k + 1)) [] budget
      have hpull := congrArg (Program.run (recording reply) · []) (pull_eq_walk ask k budget)
      simp only [Program.run_bind] at hpull
      rw [decided_take] at hwalk
      generalize (pull ask (k + 1) (.start budget)).run (recording reply) [] = pulled at hpull ⊢
      generalize (walk ask (takeConsumer (k + 1)) budget [] (.before none)).run (recording reply) []
        = walked at hpull hwalk
      obtain ⟨answer, log⟩ := pulled
      cases hwalk with
      | answered n hn hshortest rs hrs =>
          cases answer with
          | none => cases hpull
          | some pulled =>
              obtain ⟨hresults, rfl⟩ := Prod.mk.inj hpull
              refine .answered n hn hshortest pulled ?_
              intro m hm
              calc
                pulled.1 = firstOf (k + 1) rs := Option.some.inj hresults
                _ = firstOf (k + 1) (listed reply n) := by
                  rw [hrs, takeConsumer_answer, firstOf_take]
                _ = firstOf (k + 1) (listed reply m) := (firstOf_listed reply hshortest.1 hm).symm
      | never hnot =>
          cases answer with
          | none =>
              cases hpull
              exact .never hnot
          | some pulled => cases hpull

theorem fetchesUntil_drain (budget : Nat) :
    FetchesUntil reply (Ended reply) (fun n r => r = (listed reply n).mapM id) budget
      ((drain ask budget).run (recording reply) []) := by
  have hwalk := fetchesUntil_walk reply collectConsumer [] budget
  rw [decided_collect] at hwalk
  simp only [collectConsumer_answer_nil] at hwalk
  exact hwalk

/-- **Listings are walked exactly, and lazily.**  The first `k` results pulled are the first `k` of
what comes of the chain, and no more of it is fetched than determines them; a drained listing is
the whole of it, or its first error. -/
theorem pull_exact (k budget : Nat) :
    FetchesUntil reply (Determines reply k)
        (fun n (pulled : List (Option (Except ε α)) × Remainder α) =>
          ∀ m ≥ n, pulled.1 = firstOf k (listed reply m))
        budget ((pull ask k (.start budget)).run (recording reply) []) ∧
      FetchesUntil reply (Ended reply) (fun n r => r = (listed reply n).mapM id) budget
        ((drain ask budget).run (recording reply) []) :=
  ⟨fetchesUntil_pull reply k budget, fetchesUntil_drain reply budget⟩

/-- An empty page, a page of two items, and an error. -/
def threePages : Option String → Except String (Page Nat)
  | none => .ok { items := [], next := some "a" }
  | some "a" => .ok { items := [1, 2], next := some "b" }
  | some _ => .error "boom"

example : ((pull ask 2 (.start 9)).run (recording threePages) []).2 = [none, some "a"] := rfl

example : (drain ask 9).run (recording threePages) []
    = (some (.error "boom"), [none, some "a", some "b"]) := rfl

end Exact

end LakeCatalog.Listing
