import Courier.Table

/-!
# Scripts

A script says how an endpoint answers: one outcome for each call to come, and one for all calls
after these. An outcome may take its time, and then the call succeeds, fails or breaks down.

* `Script.next`: the outcome of the next call, and the script for the calls after it.
-/

namespace Courier.Simulation

/-- What becomes of a call. -/
inductive Verdict (ε ρ : Type)
  /-- The call does what it should, with the given answer if it is one that can be given. -/
  | succeed (answer : Option ρ)
  | fail (error : ε)
  /-- Whoever makes the call is torn down. -/
  | breakDown

/-- What becomes of a call, and after how many milliseconds. -/
structure Outcome (ε ρ : Type) where
  delay : Nat
  verdict : Verdict ε ρ

namespace Outcome

variable {ε ρ : Type}

/-- The call does what it should, at once. -/
def success : Outcome ε ρ := ⟨0, .succeed none⟩

instance : Inhabited (Outcome ε ρ) := ⟨success⟩

end Outcome

/-- How an endpoint answers its calls. -/
structure Script (ε ρ : Type) where
  /-- The outcomes of the next calls. -/
  outcomes : List (Outcome ε ρ)
  /-- The outcome of every call after them. -/
  always : Outcome ε ρ

namespace Script

variable {ε ρ : Type}

/-- Every call succeeds. -/
def plain : Script ε ρ := ⟨[], .success⟩

instance : Inhabited (Script ε ρ) := ⟨plain⟩

/-- The outcome of the next call, and the script for the calls after it. -/
def next (s : Script ε ρ) : Outcome ε ρ × Script ε ρ :=
  match s.outcomes with
  | [] => (s.always, s)
  | outcome :: rest => (outcome, { s with outcomes := rest })

end Script

/-- The scripts of endpoints by their names. An endpoint without a script succeeds. -/
abbrev Scripts (ε ρ : Type) := Table String (Script ε ρ)

/-- The outcome of the next call of an endpoint, and the scripts for the calls after it. -/
def Scripts.next {ε ρ : Type} (s : Scripts ε ρ) (endpoint : String) : Outcome ε ρ × Scripts ε ρ :=
  match s.get? endpoint with
  | none => (.success, s)
  | some script => (script.next.1, s.insert endpoint script.next.2)

end Courier.Simulation
