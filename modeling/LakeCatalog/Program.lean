/-!
# Programs that talk to a backend

An operation of the catalog is a program: it asks a backend one question after the other and
goes on with the answers.  The program says nothing about how questions are answered, so the
same program runs against a metastore in memory, against one that fails at will, or step by step
between the steps of other programs.

* `Interface` — the questions, and for each the type of its answers;
* `Program` — a finished program, one that gave up, or a question and what follows its answer;
* `Handler`, `run` — a backend with a state, and a program run against it to the end;
* `run_bind` — running one program after another is running the second from the state in which
  the first ends.
-/

namespace LakeCatalog

/-- The questions that may be asked, and the answers they may get. -/
structure Interface where
  Query : Type
  Reply : Query → Type

/-- A program with a result.  It has given up when it ran out of the effort it was granted. -/
inductive Program (I : Interface) (α : Type) where
  | done (a : α)
  | exhausted
  | ask (q : I.Query) (next : I.Reply q → Program I α)

namespace Program

variable {I : Interface} {α β γ σ : Type}

/-- The program that goes on with the result of another. -/
def bind (p : Program I α) (f : α → Program I β) : Program I β :=
  match p with
  | .done a => f a
  | .exhausted => .exhausted
  | .ask q next => .ask q fun r => (next r).bind f

instance : Monad (Program I) where
  pure := .done
  bind := bind

/-- The program that asks one question and answers what it is told. -/
def query (q : I.Query) : Program I (I.Reply q) := .ask q .done

@[simp] theorem pure_eq (a : α) : (pure a : Program I α) = .done a := rfl

@[simp] theorem bind_eq (p : Program I α) (f : α → Program I β) : p >>= f = p.bind f := rfl

theorem bind_done (p : Program I α) : p.bind .done = p := by
  induction p with
  | done a => rfl
  | exhausted => rfl
  | ask q next ih => simp only [bind, ih]

theorem bind_assoc (p : Program I α) (f : α → Program I β) (g : β → Program I γ) :
    (p.bind f).bind g = p.bind fun a => (f a).bind g := by
  induction p with
  | done a => rfl
  | exhausted => rfl
  | ask q next ih => simp only [bind, ih]

end Program

/-- A backend: from a question and a state to the answer and the next state. -/
def Handler (I : Interface) (σ : Type) : Type := (q : I.Query) → σ → I.Reply q × σ

namespace Program

variable {I : Interface} {α β σ : Type}

/-- Runs a program to its end: its result, unless it gave up, and the state it leaves. -/
def run (h : Handler I σ) : Program I α → σ → Option α × σ
  | .done a, s => (some a, s)
  | .exhausted, s => (none, s)
  | .ask q next, s => (next (h q s).1).run h (h q s).2

theorem run_bind (h : Handler I σ) (p : Program I α) (f : α → Program I β) (s : σ) :
    (p.bind f).run h s = match p.run h s with
      | (some a, s') => (f a).run h s'
      | (none, s') => (none, s') := by
  induction p generalizing s with
  | done a => rfl
  | exhausted => rfl
  | ask q next ih => simp only [bind, run, ih]

end Program

end LakeCatalog
