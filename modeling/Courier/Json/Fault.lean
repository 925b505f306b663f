/-!
# Faults of a JSON text

What can be wrong with a text that should say a value. Of several faults the one that is met first,
reading from left to right, is the one that counts.
-/

namespace Courier.Json

/-- What is wrong with a text that should say a value. -/
inductive Fault
  /-- The text is no JSON, whatever may follow. -/
  | malformed
  /-- The text ends before the value does. -/
  | truncated
  /-- The text is JSON so far, but says no value of the wanted kind. -/
  | mismatched
  deriving DecidableEq

end Courier.Json
