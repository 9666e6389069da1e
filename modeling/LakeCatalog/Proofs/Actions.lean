import LakeCatalog.Backend

/-!
# Running actions

An action is run by a handler for its questions.  This file says how the pieces of which actions
are built behave when they are run, whatever the handler, so that no later proof opens the monad
in which operations are written:

* `perform` — the outcome of an action and the state it leaves;
* `perform_bind`, `perform_attempt`, `perform_call` — one equation for each way to build an action;
* `Program.Conforms` — every question of a program is of one kind, and it ends, with a result of
  one kind, whatever it is told;
* `run_of_conforms` — what such a program keeps of the state it is run from.
-/

namespace LakeCatalog

open Metastore (Call Failure)

/-- The reply to a call to the metastore, and the state after it. -/
def Handler.call {σ : Type} (h : Handler Backend σ) (c : Call) (s : σ) : c.Reply × σ :=
  h (.metastore c) s

namespace Action

variable {σ α β : Type} (h : Handler Backend σ)

/-- Runs an action: its outcome, unless it gave up, and the state it leaves. -/
def perform (a : Action α) (s : σ) : Option (Except CatalogError α) × σ :=
  Program.run h a.run s

theorem perform_ofExcept (r : Except CatalogError α) (s : σ) :
    perform h (ofExcept r) s = (some r, s) := rfl

theorem perform_call (c : Call) (onError : Failure → CatalogError) (s : σ) :
    perform h (call c onError) s
      = (some ((h.call c s).1.mapError onError), (h.call c s).2) := rfl

/-- **One action after another** is the second from the state in which the first ends, unless the
first fails or gives up. -/
theorem perform_bind (a : Action α) (f : α → Action β) (s : σ) :
    perform h (a >>= f) s = match perform h a s with
      | (some (.ok x), s') => perform h (f x) s'
      | (some (.error e), s') => (some (.error e), s')
      | (none, s') => (none, s') := by
  show Program.run h (Program.bind a.run (ExceptT.bindCont f)) s = _
  rw [Program.run_bind]
  unfold perform
  rcases Program.run h a.run s with ⟨o, s'⟩
  cases o with
  | none => rfl
  | some r =>
      cases r with
      | ok x => rfl
      | error e => rfl

theorem perform_bind_ok {a : Action α} {f : α → Action β} {s s' : σ} {x : α}
    (ha : perform h a s = (some (.ok x), s')) :
    perform h (a >>= f) s = perform h (f x) s' := by
  rw [perform_bind, ha]

theorem perform_bind_error {a : Action α} {f : α → Action β} {s s' : σ} {e : CatalogError}
    (ha : perform h a s = (some (.error e), s')) :
    perform h (a >>= f) s = (some (.error e), s') := by
  rw [perform_bind, ha]

/-- An action behind another succeeds only if both do. -/
theorem perform_bind_eq_ok {a : Action α} {f : α → Action β} {s s' : σ} {y : β}
    (hy : perform h (a >>= f) s = (some (.ok y), s')) :
    ∃ x s₁, perform h a s = (some (.ok x), s₁) ∧ perform h (f x) s₁ = (some (.ok y), s') := by
  rw [perform_bind] at hy
  rcases ha : perform h a s with ⟨- | e | x, s₁⟩
  · rw [ha] at hy
    cases hy
  · rw [ha] at hy
    cases hy
  · rw [ha] at hy
    exact ⟨x, s₁, rfl, hy⟩

/-- **An action that is attempted** hands its outcome on, whether it is a result or an error. -/
theorem perform_attempt {a : Action α} {next : Except CatalogError α → Action β} {s s' : σ}
    {r : Except CatalogError α} (ha : perform h a s = (some r, s')) :
    perform h (attempt a next) s = perform h (next r) s' := by
  show Program.run h (Program.bind a.run fun r => (next r).run) s = _
  rw [Program.run_bind]
  unfold perform at ha
  rw [ha]
  rfl

/-! ### Calls -/

variable {h}

theorem perform_call_ok {c : Call} {onError : Failure → CatalogError} {s s' : σ} {x : c.Answer}
    (hc : h.call c s = (.ok x, s')) : perform h (call c onError) s = (some (.ok x), s') := by
  rw [perform_call, hc]
  rfl

theorem perform_call_error {c : Call} {onError : Failure → CatalogError} {s s' : σ} {f : Failure}
    (hc : h.call c s = (.error f, s')) :
    perform h (call c onError) s = (some (.error (onError f)), s') := by
  rw [perform_call, hc]
  rfl

end Action

/-! ### Programs of which something holds whatever they are told -/

namespace Program

variable {I : Interface} {α β σ : Type}

/-- Every question that the program may ask is of one kind, and the program ends with a result of
one kind, whatever the answers are. -/
def Conforms (asks : I.Query → Prop) (ends : α → Prop) : Program I α → Prop
  | .done a => ends a
  | .exhausted => False
  | .ask q next => asks q ∧ ∀ r, (next r).Conforms asks ends

theorem conforms_bind {asks : I.Query → Prop} {mid : α → Prop} {ends : β → Prop}
    {p : Program I α} {f : α → Program I β} (hp : p.Conforms asks mid)
    (hf : ∀ a, mid a → (f a).Conforms asks ends) : (p.bind f).Conforms asks ends := by
  induction p with
  | done a => exact hf a hp
  | exhausted => exact absurd hp id
  | ask q next ih =>
      obtain ⟨hq, hnext⟩ := hp
      exact ⟨hq, fun r => ih r (hnext r)⟩

theorem Conforms.imp {asks : I.Query → Prop} {mid ends : α → Prop} {p : Program I α}
    (hp : p.Conforms asks mid) (himp : ∀ a, mid a → ends a) : p.Conforms asks ends := by
  induction p with
  | done a => exact himp a hp
  | exhausted => exact hp
  | ask q next ih => exact ⟨hp.1, fun r => ih r (hp.2 r)⟩

/-- **A conforming program runs to its end**, and keeps every relation to the state it is run
from that holds of equal states and that each of its questions keeps. -/
theorem run_of_conforms {asks : I.Query → Prop} {ends : α → Prop} {h : Handler I σ}
    (kept : σ → Prop) (hstep : ∀ q s, asks q → kept s → kept (h q s).2) {p : Program I α}
    (hp : p.Conforms asks ends) {s : σ} (hs : kept s) :
    ∃ a s', p.run h s = (some a, s') ∧ ends a ∧ kept s' := by
  induction p generalizing s with
  | done a => exact ⟨a, s, rfl, hp, hs⟩
  | exhausted => exact absurd hp id
  | ask q next ih =>
      obtain ⟨hq, hnext⟩ := hp
      exact ih (h q s).1 (hnext (h q s).1) (hstep q s hq hs)

end Program

namespace Action

variable {α β : Type} {asks : BackendQuery → Prop}

/-- An action of which every question and every outcome is of one kind. -/
def Conforms (asks : BackendQuery → Prop) (ends : Except CatalogError α → Prop) (a : Action α) :
    Prop :=
  Program.Conforms (I := Backend) asks ends a.run

/-- An action conforms when its first part does, each error of the first part may end it, and
each result of the first part leads to a conforming rest. -/
theorem conforms_bind (mid : Except CatalogError α → Prop) {ends : Except CatalogError β → Prop}
    {a : Action α} {f : α → Action β} (ha : a.Conforms asks mid)
    (herror : ∀ e, mid (.error e) → ends (.error e))
    (hok : ∀ x, mid (.ok x) → (f x).Conforms asks ends) : (a >>= f).Conforms asks ends := by
  show Program.Conforms asks ends (Program.bind a.run (ExceptT.bindCont f))
  refine Program.conforms_bind ha ?_
  intro r hr
  cases r with
  | ok x => exact hok x hr
  | error e => exact herror e hr

theorem conforms_ask {ε : Type} {ends : Except CatalogError α → Prop} {q : BackendQuery}
    {f : q.Reply → Except ε α} {onError : ε → CatalogError} (hq : asks q)
    (hr : ∀ r, ends ((f r).mapError onError)) : (ask q f onError).Conforms asks ends :=
  ⟨hq, hr⟩

end Action

end LakeCatalog
