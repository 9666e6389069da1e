import LakeCatalog.Proofs.Actions
import Mathlib.Logic.Function.Basic
import Mathlib.Tactic.Choose

/-!
# Programs that take turns

Several programs run side by side against one backend.  A turn of a program is one question: the
backend answers it, and the program goes on with the answer up to its next question.  Who has the
next turn is not determined, so what is proved of all schedules holds of everything that can
happen between the programs.

* `Interleaving`, `step`, `after` — a backend with programs at it, one turn, and a schedule of
  turns;
* `step_once` — a turn of an action that begins with one question;
* `step_call_ok`, `step_attempt_ok`, … — and when this is a call to the metastore;
* `after_induction`, `exists_after` — what every turn keeps, every schedule keeps.
-/

namespace LakeCatalog

open Metastore (Call Failure)

/-- The state of a backend, and what is left of each of the programs that run against it. -/
structure Interleaving (I : Interface) (ι α σ : Type) where
  state : σ
  programs : ι → Program I α

namespace Interleaving

variable {I : Interface} {ι α σ : Type} [DecidableEq ι]

/-- The turn of a program: its next question is answered.  A program that has ended does nothing. -/
def step (h : Handler I σ) (x : Interleaving I ι α σ) (i : ι) : Interleaving I ι α σ :=
  match x.programs i with
  | .ask q next => ⟨(h q x.state).2, Function.update x.programs i (next (h q x.state).1)⟩
  | .done _ => x
  | .exhausted => x

/-- The turns of a schedule. -/
def after (h : Handler I σ) (x : Interleaving I ι α σ) (schedule : List ι) :
    Interleaving I ι α σ :=
  schedule.foldl (step h) x

variable {h : Handler I σ} {x : Interleaving I ι α σ} {i j : ι}

/-! ### One turn -/

theorem step_ask {q : I.Query} {next : I.Reply q → Program I α}
    (hi : x.programs i = .ask q next) :
    x.step h i = ⟨(h q x.state).2, Function.update x.programs i (next (h q x.state).1)⟩ := by
  unfold step
  rw [hi]

theorem step_done {a : α} (hi : x.programs i = .done a) : x.step h i = x := by
  unfold step
  rw [hi]

theorem step_exhausted (hi : x.programs i = .exhausted) : x.step h i = x := by
  unfold step
  rw [hi]

/-- The turn of one program leaves the others where they are. -/
theorem programs_step_of_ne (hne : j ≠ i) : (x.step h i).programs j = x.programs j := by
  cases hi : x.programs i with
  | done a => rw [step_done hi]
  | exhausted => rw [step_exhausted hi]
  | ask q next =>
      rw [step_ask hi]
      exact Function.update_of_ne hne _ _

/-! ### Schedules -/

@[simp] theorem after_nil : x.after h [] = x := rfl

theorem after_cons (schedule : List ι) :
    x.after h (i :: schedule) = (x.step h i).after h schedule := rfl

theorem after_append (before later : List ι) :
    x.after h (before ++ later) = (x.after h before).after h later :=
  List.foldl_append

theorem after_concat (schedule : List ι) :
    x.after h (schedule ++ [i]) = (x.after h schedule).step h i := by
  rw [after_append]
  rfl

/-- **What every turn keeps, every schedule keeps.** -/
theorem after_induction (kept : Interleaving I ι α σ → Prop)
    (hstep : ∀ y i, kept y → kept (y.step h i)) (hx : kept x) (schedule : List ι) :
    kept (x.after h schedule) := by
  induction schedule generalizing x with
  | nil => exact hx
  | cons i schedule ih => exact ih (hstep x i hx)

/-- **What every turn keeps of where the programs are**, every schedule keeps.  When each turn
leaves its own program with at least one turn less, a program has as many turns less behind a
schedule as it has in it. -/
theorem exists_after {κ : Type} (holds : (ι → κ) → Interleaving I ι α σ → Prop)
    (left : ι → κ → Nat)
    (hstep : ∀ {place y}, holds place y → ∀ i, ∃ p,
      holds (Function.update place i p) (y.step h i) ∧ left i p ≤ left i (place i) - 1)
    {place : ι → κ} (hx : holds place x) (schedule : List ι) :
    ∃ place', holds place' (x.after h schedule) ∧
      ∀ i, left i (place' i) ≤ left i (place i) - schedule.count i := by
  induction schedule generalizing place x with
  | nil => exact ⟨place, hx, fun i => Nat.le_refl _⟩
  | cons j schedule ih =>
      obtain ⟨p, hnext, hleft⟩ := hstep hx j
      obtain ⟨place', hafter, hlefts⟩ := ih hnext
      refine ⟨place', hafter, ?_⟩
      intro i
      have hi := hlefts i
      by_cases hij : i = j
      · subst hij
        rw [Function.update_self] at hi
        rw [List.count_cons_self]
        omega
      · rw [Function.update_of_ne hij] at hi
        rw [List.count_cons_of_ne (Ne.symm hij)]
        exact hi

/-- No turn of a program in a schedule changes the state. -/
def Harmless (h : Handler I σ) (x : Interleaving I ι α σ) (i : ι) (schedule : List ι) : Prop :=
  ∀ before later, schedule = before ++ i :: later →
    ((x.after h before).step h i).state = (x.after h before).state

theorem harmless_of_not_mem {schedule : List ι} (hi : i ∉ schedule) : x.Harmless h i schedule := by
  rintro before later rfl
  exact absurd (List.mem_append_right before List.mem_cons_self) hi

theorem Harmless.concat {schedule : List ι} (hs : x.Harmless h i schedule)
    (hj : j = i → ((x.after h schedule).step h i).state = (x.after h schedule).state) :
    x.Harmless h i (schedule ++ [j]) := by
  intro before later heq
  rcases List.eq_nil_or_concat later with rfl | ⟨later', k, rfl⟩
  · obtain ⟨rfl, hlast⟩ := List.append_inj' heq rfl
    exact hj (List.singleton_inj.1 hlast)
  · rw [List.concat_eq_append, ← List.cons_append, ← List.append_assoc] at heq
    exact hs before later' (List.append_inj' heq rfl).1

end Interleaving

/-! ### Turns of actions -/

namespace Action

variable {α β σ : Type} {a : Action α} {q : BackendQuery}

/-- An action that asks one question and ends with what it makes of the answer. -/
def AsksOnce (a : Action α) (q : BackendQuery) : Prop :=
  ∃ outcome : q.Reply → Except CatalogError α,
    a.run = Program.ask (I := Backend) q fun reply => .done (outcome reply)

theorem asksOnce_ask {ε : Type} (f : q.Reply → Except ε α) (onError : ε → CatalogError) :
    (ask q f onError).AsksOnce q := ⟨_, rfl⟩

theorem run_ofExcept_ok (x : α) (f : α → Action β) : (ofExcept (.ok x) >>= f).run = (f x).run := rfl

/-- What an action makes of the answer may still be put into another form. -/
theorem AsksOnce.bind (ha : a.AsksOnce q) {f : α → Action β}
    (hf : ∀ x, ∃ r, (f x).run = Program.done (I := Backend) r) : (a >>= f).AsksOnce q := by
  obtain ⟨outcome, hrun⟩ := ha
  choose r hr using hf
  refine ⟨fun reply => (outcome reply).bind r, ?_⟩
  show Program.bind a.run (ExceptT.bindCont f) = _
  rw [hrun]
  show Program.ask (I := Backend) q _ = _
  congr 1
  funext reply
  show Program.bind (.done (outcome reply)) (ExceptT.bindCont f)
    = .done ((outcome reply).bind r)
  cases outcome reply with
  | ok x => exact hr x
  | error e => rfl

/-- Who begins with a question has not ended. -/
theorem AsksOnce.bind_ne_done (ha : a.AsksOnce q) (f : α → Action β)
    (r : Except CatalogError β) : (a >>= f).run ≠ Program.done (I := Backend) r := by
  obtain ⟨outcome, hrun⟩ := ha
  show Program.bind a.run (ExceptT.bindCont f) ≠ _
  rw [hrun]
  exact nofun

/-- The outcome depends on the answer alone. -/
theorem AsksOnce.perform_congr (ha : a.AsksOnce q) {h : Handler Backend σ} {s s' : σ}
    (hsame : (h q s).1 = (h q s').1) : (a.perform h s).1 = (a.perform h s').1 := by
  obtain ⟨outcome, hrun⟩ := ha
  unfold perform
  rw [hrun]
  show some (outcome (h q s).1) = some (outcome (h q s').1)
  rw [hsame]

end Action

namespace Interleaving

variable {ι α β σ : Type} [DecidableEq ι] {h : Handler Backend σ} {s' : σ} {i : ι} {c : Call}
  {x : Interleaving Backend ι (Except CatalogError β) σ} {onError : Failure → CatalogError}

/-- **The turn of an action that begins with one that asks one question**: this one is performed. -/
theorem step_once {a : Action α} {f : α → Action β} {q : BackendQuery}
    {o : Except CatalogError α} (hi : x.programs i = (a >>= f).run) (ha : a.AsksOnce q)
    (hperform : a.perform h x.state = (some o, s')) :
    x.step h i = ⟨s', Function.update x.programs i (Action.ofExcept o >>= f).run⟩ := by
  obtain ⟨outcome, hrun⟩ := ha
  have hask : (a >>= f).run = Program.ask (I := Backend) q fun reply =>
      (Action.ofExcept (outcome reply) >>= f).run := by
    show Program.bind a.run (ExceptT.bindCont f) = _
    rw [hrun]
    rfl
  have hanswer : (some (outcome (h q x.state).1), (h q x.state).2) = (some o, s') := by
    rw [← hperform]
    unfold Action.perform
    rw [hrun]
    rfl
  obtain ⟨houtcome, rfl⟩ := Prod.mk.inj hanswer
  rw [step_ask (hi.trans hask), Option.some.inj houtcome]

/-- The turn of an action that asks one question: it is performed, and the program has ended. -/
theorem step_alone {a : Action β} {q : BackendQuery} {o : Except CatalogError β}
    (hi : x.programs i = a.run) (ha : a.AsksOnce q)
    (hperform : a.perform h x.state = (some o, s')) :
    x.step h i = ⟨s', Function.update x.programs i (.done o)⟩ := by
  obtain ⟨outcome, hrun⟩ := ha
  have hanswer : (some (outcome (h q x.state).1), (h q x.state).2) = (some o, s') := by
    rw [← hperform]
    unfold Action.perform
    rw [hrun]
    rfl
  obtain ⟨houtcome, rfl⟩ := Prod.mk.inj hanswer
  rw [step_ask (hi.trans hrun), Option.some.inj houtcome]

section Call

variable {f : c.Answer → Action β} (hi : x.programs i = (Action.call c onError >>= f).run)

include hi

theorem step_call_ok {a : c.Answer} (hc : h.call c x.state = (.ok a, s')) :
    x.step h i = ⟨s', Function.update x.programs i (f a).run⟩ :=
  step_once hi (Action.asksOnce_ask _ _) (Action.perform_call_ok hc)

theorem step_call_error {e : Failure} (hc : h.call c x.state = (.error e, s')) :
    x.step h i = ⟨s', Function.update x.programs i (.done (.error (onError e)))⟩ :=
  step_once hi (Action.asksOnce_ask _ _) (Action.perform_call_error hc)

theorem programs_step_call_error {e : Failure} (hc : h.call c x.state = (.error e, s')) :
    (x.step h i).programs i = .done (.error (onError e)) := by
  rw [step_call_error hi hc]
  exact Function.update_self ..

end Call

section Attempt

variable {next : Except CatalogError c.Answer → Action β}
  (hi : x.programs i = (Action.attempt (Action.call c onError) next).run)

include hi

theorem step_attempt_ok {a : c.Answer} (hc : h.call c x.state = (.ok a, s')) :
    x.step h i = ⟨s', Function.update x.programs i (next (.ok a)).run⟩ := by
  unfold Handler.call at hc
  rw [step_ask hi, hc]
  rfl

theorem step_attempt_error {e : Failure} (hc : h.call c x.state = (.error e, s')) :
    x.step h i = ⟨s', Function.update x.programs i (next (.error (onError e))).run⟩ := by
  unfold Handler.call at hc
  rw [step_ask hi, hc]
  rfl

end Attempt

end Interleaving

end LakeCatalog
