/-!
# Programs

A program asks its surroundings questions, one after the other, and goes on with each answer until
it is done. What answers the questions, how long an answer takes and what else happens meanwhile is
not said here, so that one program can be run against stored data, against a script or against
nothing but a list of answers.

* `Program`: a computation that asks questions `q : Q` with answers in `R q`.
* `Program.run`: runs a program against surroundings that answer at once.
* `LawfulMonad`: programs are put together by the laws of a monad.
-/

namespace Courier

/-- A computation that asks questions `q : Q`, each with an answer in `R q`, and ends in an `α`. -/
inductive Program (Q : Type) (R : Q → Type) (α : Type) : Type
  | done (a : α)
  | ask (q : Q) (next : R q → Program Q R α)

namespace Program

variable {Q : Type} {R : Q → Type} {α β σ : Type}

/-- Goes on with another program when this one is done. -/
def bind (p : Program Q R α) (f : α → Program Q R β) : Program Q R β :=
  match p with
  | done a => f a
  | ask q next => ask q fun r => (next r).bind f

instance : Monad (Program Q R) where
  pure := done
  bind := bind

instance [Inhabited α] : Inhabited (Program Q R α) := ⟨done default⟩

/-- Asks a single question. -/
def request (q : Q) : Program Q R (R q) := ask q done

@[simp]
theorem pure_eq_done (a : α) : (pure a : Program Q R α) = done a := rfl

@[simp]
theorem done_bind (a : α) (f : α → Program Q R β) : (done a : Program Q R α) >>= f = f a := rfl

@[simp]
theorem ask_bind (q : Q) (next : R q → Program Q R α) (f : α → Program Q R β) :
    ask q next >>= f = ask q fun r => next r >>= f := rfl

@[simp]
theorem request_bind (q : Q) (f : R q → Program Q R β) : request q >>= f = ask q f := rfl

theorem bind_done (p : Program Q R α) : p >>= done = p := by
  induction p with
  | done a => rfl
  | ask q next ih => rw [ask_bind]; exact congrArg _ (funext ih)

theorem bind_bind {γ : Type} (p : Program Q R α) (f : α → Program Q R β) (g : β → Program Q R γ) :
    p >>= f >>= g = p >>= fun a => f a >>= g := by
  induction p with
  | done a => rfl
  | ask q next ih => simp only [ask_bind]; exact congrArg _ (funext ih)

instance : LawfulMonad (Program Q R) :=
  LawfulMonad.mk' (Program Q R) bind_done (fun _ _ => rfl) bind_bind

/-- Runs a program against surroundings whose state is in `σ` and which answer at once. -/
def run (answer : (q : Q) → σ → R q × σ) : Program Q R α → σ → α × σ
  | done a, s => (a, s)
  | ask q next, s => run answer (next (answer q s).1) (answer q s).2

@[simp]
theorem run_done (answer : (q : Q) → σ → R q × σ) (a : α) (s : σ) :
    run answer (done a) s = (a, s) := rfl

theorem run_bind (answer : (q : Q) → σ → R q × σ) (p : Program Q R α) (f : α → Program Q R β)
    (s : σ) :
    run answer (p >>= f) s = run answer (f (run answer p s).1) (run answer p s).2 := by
  induction p generalizing s with
  | done a => rfl
  | ask q next ih => exact ih _ _

end Program

end Courier
