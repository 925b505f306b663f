import Courier.Bus.Registry
import Mathlib.Data.List.Induction

/-!
# What a registry finds

A registry is filled handler by handler and type by type. What it finds for a type of event can be
told from the list of handlers alone: those that declare the type, in the order of the list and each
as often as it declares it, and after them those of all types.

* `Handled.types`: the types that a handler declares one by one.
* `Registry.typedIn_foldl_addTo`, `Registry.forAll_register`, `Registry.isEmpty_register`: what one
  handler adds to a registry.
* `Registry.matching_ofList`, `Registry.isEmpty_ofList`: what the registry of a list finds, and when
  it finds nothing.
* `Registry.ofList_scans`: both together.
-/

namespace Courier

/-- The types that a handler declares one by one. -/
def Handled.types : Handled → List String
  | one eventType => [eventType]
  | many eventTypes => eventTypes
  | all => []

namespace Registry

variable {α : Type} (r : Registry α) (index : List (String × List α)) (eventType : String) (h : α)

/-! ### The index -/

/-- The handlers of a type in an index. -/
def typedIn : List α := (index.lookup eventType).getD []

theorem typedIn_cons (entry : String × List α) :
    typedIn (entry :: index) eventType =
      if eventType = entry.1 then entry.2 else typedIn index eventType := by
  rw [typedIn, List.lookup_cons]
  by_cases ht : eventType = entry.1
  · rw [if_pos ht, beq_iff_eq.2 ht, Option.getD_some]
  · rw [if_neg ht, beq_false_of_ne ht, typedIn]

theorem typedIn_addTo (t : String) :
    typedIn (addTo t h index) eventType =
      typedIn index eventType ++ if t = eventType then [h] else [] := by
  induction index with
  | nil =>
    rw [addTo, typedIn_cons]
    by_cases ht : t = eventType
    · simp [typedIn, ht]
    · simp [typedIn, ht, Ne.symm ht]
  | cons entry index ih =>
    rw [addTo]
    split
    next he =>
      rw [typedIn_cons, typedIn_cons, he]
      by_cases ht : t = eventType
      · simp [ht]
      · simp [ht, Ne.symm ht]
    next he =>
      rw [typedIn_cons, typedIn_cons, ih]
      by_cases ht : eventType = entry.1
      · rw [if_pos ht, if_pos ht, if_neg fun h => he (ht.symm.trans h.symm), List.append_nil]
      · rw [if_neg ht, if_neg ht]

/-- A handler is added once for each time that it declares a type. -/
theorem typedIn_foldl_addTo (types : List String) :
    typedIn (types.foldl (fun index t => addTo t h index) index) eventType =
      typedIn index eventType ++ List.replicate (types.count eventType) h := by
  induction types generalizing index with
  | nil => simp
  | cons t types ih =>
    rw [List.foldl_cons, ih, typedIn_addTo, List.count_cons]
    by_cases ht : t = eventType
    · simp [ht, List.replicate_succ]
    · simp [ht]

theorem isEmpty_foldl_addTo (types : List String) :
    (types.foldl (fun index t => addTo t h index) index).isEmpty ↔ index.isEmpty ∧ types = [] := by
  induction types generalizing index with
  | nil => simp
  | cons t types ih =>
    have hne : (addTo t h index).isEmpty = false := by
      cases index with
      | nil => rfl
      | cons entry index =>
        rw [addTo]
        split <;> rfl
    rw [List.foldl_cons, ih, hne]
    simp

/-! ### One handler -/

section Register

variable (handled : Handled)

theorem byType_register :
    (r.register handled h).byType = handled.types.foldl (fun index t => addTo t h index) r.byType := by
  cases handled <;> rfl

theorem forAll_register :
    (r.register handled h).forAll = r.forAll ++ [h].filter fun _ => handled = .all := by
  cases handled <;> simp [register]

theorem isEmpty_register :
    (r.register handled h).isEmpty ↔ r.isEmpty ∧ handled.types = [] ∧ handled ≠ .all := by
  rw [isEmpty, Bool.and_eq_true, byType_register, isEmpty_foldl_addTo, forAll_register, isEmpty,
    Bool.and_eq_true]
  by_cases hall : handled = .all
  · simp [hall]
  · simp [hall, and_assoc, and_comm]

end Register

/-! ### A list of handlers -/

variable (handled : α → Handled) (handlers : List α)

theorem ofList_concat :
    ofList handled (handlers ++ [h]) = (ofList handled handlers).register (handled h) h :=
  List.foldl_append

theorem typedIn_ofList :
    typedIn (ofList handled handlers).byType eventType =
      handlers.flatMap fun h => List.replicate ((handled h).types.count eventType) h := by
  -- A registry is filled from the left, so it is the last handler that is set apart.
  induction handlers using List.reverseRecOn with
  | nil => rfl
  | append_singleton handlers h ih =>
    rw [ofList_concat, byType_register, typedIn_foldl_addTo, ih, List.flatMap_append,
      List.flatMap_singleton]

theorem forAll_ofList :
    (ofList handled handlers).forAll = handlers.filter fun h => handled h = .all := by
  induction handlers using List.reverseRecOn with
  | nil => rfl
  | append_singleton handlers h ih =>
    rw [ofList_concat, forAll_register, ih, List.filter_append]
    rfl

theorem matching_ofList :
    (ofList handled handlers).matching eventType =
      (handlers.flatMap fun h => List.replicate ((handled h).types.count eventType) h) ++
        handlers.filter fun h => handled h = .all := by
  rw [← typedIn_ofList, ← forAll_ofList]
  rfl

theorem isEmpty_ofList :
    (ofList handled handlers).isEmpty ↔
      ∀ h ∈ handlers, (handled h).types = [] ∧ handled h ≠ .all := by
  induction handlers using List.reverseRecOn with
  | nil => simp [ofList, empty, isEmpty]
  | append_singleton handlers h ih =>
    rw [ofList_concat, isEmpty_register, ih, List.forall_mem_append, List.forall_mem_singleton]

/-- What a registry finds for a type of event is what a scan of its handlers finds: each handler as
    often as it declares the type, and after them those of all types, both in the order in which
    they were registered. It is empty if no handler declares anything. -/
theorem ofList_scans :
    (∀ eventType, (ofList handled handlers).matching eventType =
      (handlers.flatMap fun h => List.replicate ((handled h).types.count eventType) h) ++
        handlers.filter fun h => handled h = .all) ∧
    ((ofList handled handlers).isEmpty ↔
      ∀ h ∈ handlers, (handled h).types = [] ∧ handled h ≠ .all) :=
  ⟨fun eventType => matching_ofList eventType handled handlers, isEmpty_ofList handled handlers⟩

/-- A handler that declares a type twice is found twice, in its place. -/
example :
    (ofList id [.all, .many ["a", "b", "a"], .many [], .one "a"]).matching "a" =
      [.many ["a", "b", "a"], .many ["a", "b", "a"], .one "a", .all] := by
  decide

end Registry

end Courier
