import Courier.Program
import Mathlib.Data.List.Forall2

/-!
# What runs keep

What a program does to its surroundings is said of one run, which keeps what holds of them, and of
two runs next to each other. The surroundings of two runs need not give the same answers, and so one
of them may go on as another program than the other.

* `Program.Keeps`: what holds before a run holds after it.
* `Program.Paired`: from surroundings that are alike, two programs come to results that are alike,
  and leave surroundings that are alike again.
* `Program.Paired.bind`, `Program.Paired.mapM`: programs that are paired one by one are paired when
  they are put together.
-/

namespace Courier.Program

variable {Q : Type} {R : Q → Type} {α α' β β' ι σ σ' : Type}

/-- What holds of the surroundings before the program is run holds after it. -/
def Keeps (answer : (q : Q) → σ → R q × σ) (holds : σ → Prop) (p : Program Q R α) : Prop :=
  ∀ s, holds s → holds (p.run answer s).2

/-- From surroundings that are alike, the two programs come to results that are alike, and leave
    surroundings that are alike again. -/
def Paired (answer : (q : Q) → σ → R q × σ) (answer' : (q : Q) → σ' → R q × σ')
    (alike : σ → σ' → Prop) (same : α → α' → Prop) (p : Program Q R α) (p' : Program Q R α') :
    Prop :=
  ∀ s s', alike s s' → same (p.run answer s).1 (p'.run answer' s').1 ∧
    alike (p.run answer s).2 (p'.run answer' s').2

namespace Paired

variable {answer : (q : Q) → σ → R q × σ} {answer' : (q : Q) → σ' → R q × σ'}
  {alike : σ → σ' → Prop} {same : α → α' → Prop} {same' : β → β' → Prop}

theorem of_done {a : α} {a' : α'} (h : same a a') :
    Paired answer answer' alike same (done a) (done a') :=
  fun _ _ hs => ⟨h, hs⟩

theorem bind {p : Program Q R α} {p' : Program Q R α'} {f : α → Program Q R β}
    {f' : α' → Program Q R β'} (h : Paired answer answer' alike same p p')
    (hf : ∀ a a', same a a' → Paired answer answer' alike same' (f a) (f' a')) :
    Paired answer answer' alike same' (p >>= f) (p' >>= f') := by
  intro s s' hs
  obtain ⟨hsame, halike⟩ := h s s' hs
  rw [run_bind, run_bind]
  exact hf _ _ hsame _ _ halike

/-- What one of the two programs keeps may be added to what is alike. -/
theorem and {p : Program Q R α} {p' : Program Q R α'} {holds : σ → Prop}
    (h : Paired answer answer' alike same p p') (hk : Keeps answer holds p) :
    Paired answer answer' (fun s s' => alike s s' ∧ holds s) same p p' := by
  rintro s s' ⟨hs, hholds⟩
  obtain ⟨hsame, halike⟩ := h s s' hs
  exact ⟨hsame, halike, hk s hholds⟩

theorem mapM {f : ι → Program Q R α} {f' : ι → Program Q R α'}
    (h : ∀ i, Paired answer answer' alike same (f i) (f' i)) (is : List ι) :
    Paired answer answer' alike (List.Forall₂ same) (is.mapM f) (is.mapM f') := by
  induction is with
  | nil => exact of_done .nil
  | cons i is ih =>
    rw [List.mapM_cons, List.mapM_cons]
    refine (h i).bind fun a a' ha => ih.bind fun as as' has => ?_
    exact of_done (.cons ha has)

end Paired

end Courier.Program
