/-!
# Named values

A type with finitely many values that each have a name, in which they are written and read.

* `Named.ofName?_name`: reading the name of a value gives the value back.
-/

namespace Courier

/-- A type whose values have names. -/
class Named (α : Type) where
  /-- Every value, once. -/
  all : List α
  name : α → String
  mem_all : ∀ a, a ∈ all
  name_injective : ∀ a b, name a = name b → a = b

namespace Named

variable {α : Type} [Named α]

/-- The value with the given name. -/
def ofName? (text : String) : Option α := (all (α := α)).find? fun a => name a == text

@[simp]
theorem ofName?_name (a : α) : ofName? (name a) = some a := by
  unfold ofName?
  cases h : (all (α := α)).find? fun b => name b == name a with
  | none =>
    have := List.find?_eq_none.mp h a (mem_all a)
    simp at this
  | some b =>
    have := List.find?_some h
    exact congrArg some (name_injective b a (by simpa using this))

theorem name_of_ofName? {text : String} {a : α} (h : ofName? text = some a) : name a = text := by
  simpa using List.find?_some h

end Named

end Courier
