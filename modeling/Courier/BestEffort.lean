import Courier.Notice
import Courier.Program

/-!
# Best effort

A call that is worth a try: its failure is reported to the log, and nothing follows from it.

* `bestEffort`: makes such a call.
-/

namespace Courier

/-- Surroundings that keep a log. -/
class HasLog (Q : Type) (R : Q → Type) where
  /-- Reports a notice to the log. -/
  note : Notice → Program Q R Unit

variable {Q : Type} {R : Q → Type} [HasLog Q R]

/-- Reports a notice to the log. -/
def note (notice : Notice) : Program Q R Unit := HasLog.note notice

/-- Makes a call, and reports its failure. -/
def bestEffort {ε α : Type} (text : ε → String) (operation : String)
    (call : Program Q R (Except ε α)) : Program Q R Unit := do
  match ← call with
  | .ok _ => pure ()
  | .error error => note (.bestEffortFailed operation (text error))

end Courier
