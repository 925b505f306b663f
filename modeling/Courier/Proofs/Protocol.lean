import Courier.Program

/-!
# Protocols

A protocol says which questions may be asked in which order. It has states: in each of them some
questions may be asked, and an answer leads on to another state. A program that follows a protocol
can be replaced by the state in which it stands, when all that matters is what it asks.

* `Program.Follows`: a program asks what its protocol allows, whatever the answers are, and is done
  in a state that is wanted.
* `Program.Follows.bind`: programs that follow a protocol one after the other follow it together.
-/

namespace Courier

/-- The questions that may be asked, and in which order. -/
structure Protocol (Q : Type) (R : Q → Type) (κ : Type) where
  /-- The questions that may be asked in a state. -/
  Allows : κ → Q → Prop
  /-- The states to which an answer may lead. -/
  Leads : κ → (q : Q) → R q → κ → Prop

namespace Program

variable {Q : Type} {R : Q → Type} {α β κ : Type} {π : Protocol Q R κ}

/-- From a state of the protocol on, the program asks only what is allowed, and is done in a state
    and with a result that are wanted. -/
def Follows (π : Protocol Q R κ) (wanted : κ → α → Prop) : κ → Program Q R α → Prop
  | k, done a => wanted k a
  | k, ask q next => π.Allows k q ∧ ∀ r k', π.Leads k q r k' → Follows π wanted k' (next r)

theorem Follows.bind {wanted : κ → β → Prop} {p : Program Q R α} {f : α → Program Q R β} {k : κ}
    (h : Follows π (fun k a => Follows π wanted k (f a)) k p) : Follows π wanted k (p >>= f) := by
  -- The state moves on with every answer, so that the induction has to be on all of them.
  induction p generalizing k with
  | done a => exact h
  | ask q next ih => exact ⟨h.1, fun r k' hk => ih r (h.2 r k' hk)⟩

theorem Follows.mono {wanted wanted' : κ → α → Prop} (hw : ∀ k a, wanted k a → wanted' k a)
    {p : Program Q R α} {k : κ} (h : Follows π wanted k p) : Follows π wanted' k p := by
  induction p generalizing k with
  | done a => exact hw k a h
  | ask q next ih => exact ⟨h.1, fun r k' hk => ih r (h.2 r k' hk)⟩

/-- The question that a program asks next, unless it is done. -/
def question? : Program Q R α → Option Q
  | done _ => none
  | ask q _ => some q

theorem Follows.allows {wanted : κ → α → Prop} {p : Program Q R α} {k : κ} {q : Q}
    (h : Follows π wanted k p) (hq : p.question? = some q) : π.Allows k q := by
  cases p with
  | done a => cases hq
  | ask q' next =>
    cases hq
    exact h.1

theorem Follows.wanted_of_question?_eq_none {wanted : κ → Prop} {p : Program Q R α} {k : κ}
    (h : Follows π (fun k _ => wanted k) k p) (hq : p.question? = none) : wanted k := by
  cases p with
  | done a => exact h
  | ask q next => cases hq

end Program

end Courier
