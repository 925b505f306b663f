/-!
# Tables

Values by keys, with at most one value for each key when built by `insert`. A table lists its values
in the order in which their keys first came.

* `Table.get?_insert`: a key finds the value that was last put under it.
* `Table.values_insert`: a value under a new key comes last.
-/

namespace Courier

/-- Values by keys. -/
structure Table (κ α : Type) where
  entries : List (κ × α)
  deriving Inhabited

namespace Table

variable {κ α : Type} [DecidableEq κ]

/-- The table without entries. -/
def empty : Table κ α := ⟨[]⟩

/-- The values, in the order of their keys' coming. -/
def values (t : Table κ α) : List α := t.entries.map (·.2)

/-- Looks a key up among entries. -/
def lookup (key : κ) : List (κ × α) → Option α
  | [] => none
  | e :: es => if e.1 = key then some e.2 else lookup key es

/-- The value under a key. -/
def get? (t : Table κ α) (key : κ) : Option α := lookup key t.entries

/-- Puts a value under a key among entries: in the place of the old one, or at the end. -/
def put (key : κ) (value : α) : List (κ × α) → List (κ × α)
  | [] => [(key, value)]
  | e :: es => if e.1 = key then (key, value) :: es else e :: put key value es

/-- Puts a value under a key. -/
def insert (t : Table κ α) (key : κ) (value : α) : Table κ α := ⟨put key value t.entries⟩

/-- Changes every value. -/
def map (t : Table κ α) (f : α → α) : Table κ α := ⟨t.entries.map fun e => (e.1, f e.2)⟩

/-- Keeps the entries whose values pass a test. -/
def filter (t : Table κ α) (p : α → Bool) : Table κ α := ⟨t.entries.filter fun e => p e.2⟩

/-- Takes a key out. -/
def erase (t : Table κ α) (key : κ) : Table κ α := ⟨t.entries.filter fun e => e.1 ≠ key⟩

@[simp]
theorem get?_empty (key : κ) : (empty : Table κ α).get? key = none := rfl

theorem get?_insert (t : Table κ α) (key key' : κ) (value : α) :
    (t.insert key value).get? key' = if key = key' then some value else t.get? key' := by
  obtain ⟨es⟩ := t
  simp only [get?, insert]
  induction es with
  | nil => simp [put, lookup]
  | cons e es ih => grind [put, lookup]

/-- A value under a new key comes last. -/
theorem values_insert {t : Table κ α} {key : κ} (h : t.get? key = none) (value : α) :
    (t.insert key value).values = t.values ++ [value] := by
  obtain ⟨es⟩ := t
  simp only [get?, insert, values] at h ⊢
  induction es with
  | nil => rfl
  | cons e es ih => grind [put, lookup]

theorem get?_erase (t : Table κ α) (key key' : κ) :
    (t.erase key).get? key' = if key = key' then none else t.get? key' := by
  obtain ⟨es⟩ := t
  simp only [get?, erase]
  induction es with
  | nil => simp [lookup]
  | cons e es ih => grind [lookup]

end Table

end Courier
