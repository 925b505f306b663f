import Courier.Proofs.Json.Codec
import Courier.Proofs.Time.Microseconds
import Courier.Sql.Value

/-!
# Values that come back from a database

What is bound to a parameter and stands in a column afterwards is read again as it was. That holds
of every value of most types; of times it holds when they are whole microseconds. A count comes back
as the greatest number of its column if it is greater than that.

* `Keeps`: a value comes back.
* `LawfulStored`: every value of a type comes back.
* `NeverNull`: no value of a type is null, so that a column can also do without one.
* `Row.get_cons_self`, `Row.get_cons_of_ne`: what a row says of its columns.
* `integerToCount_countToInteger`: what comes back of a count.
-/

namespace Courier.Sql

variable {α : Type} [Stored α]

/-- What is bound for the value is read as the value. -/
def Keeps (a : α) : Prop := Stored.ofValue? (Stored.toValue a) = some a

/-- A type all of whose values come back. -/
class LawfulStored (α : Type) [Stored α] : Prop where
  keeps : ∀ a : α, Keeps a

/-- A type of which no value is null. -/
class NeverNull (α : Type) [Stored α] : Prop where
  toValue_ne_null : ∀ a : α, Stored.toValue a ≠ .null

attribute [simp] LawfulStored.keeps

instance : LawfulStored Uuid := ⟨fun _ => rfl⟩
instance : LawfulStored String := ⟨fun _ => rfl⟩
instance : LawfulStored Int := ⟨fun _ => rfl⟩
instance : LawfulStored Bool := ⟨fun _ => rfl⟩
instance : LawfulStored Bytes := ⟨fun _ => rfl⟩

instance : NeverNull Uuid := ⟨nofun⟩
instance : NeverNull String := ⟨nofun⟩
instance : NeverNull TextMap := ⟨nofun⟩
instance : NeverNull Instant := ⟨nofun⟩
instance : NeverNull TimeOfDay := ⟨nofun⟩

/-! ### Maps of texts -/

/-- The members of the object of a map are its entries again. -/
theorem textEntries?_map (es : List (String × String)) :
    Json.Value.textEntries? (es.map fun e => (e.1, .text e.2)) = some es := by
  induction es with
  | nil => rfl
  | cons e es ih => simp [Json.Value.textEntries?, ih]

instance : LawfulStored TextMap where
  keeps m := by
    have hentries : Json.Value.textMap? (.ofTextMap m) = some (.ofList m.entries) := by
      simp [Json.Value.ofTextMap, Json.Value.textMap?, textEntries?_map]
    exact hentries.trans (congrArg some m.ofList_entries)

/-! ### Times -/

theorem keeps_instant {t : Instant} (h : t.IsWhole) : Keeps t :=
  congrArg some (Instant.ofMicroseconds_microseconds h)

theorem keeps_timeOfDay {t : TimeOfDay} (h : t.IsWhole) : Keeps t :=
  congrArg some (TimeOfDay.ofMicroseconds_microseconds h)

/-! ### Columns that may be null -/

/-- What is not null is read as a value of the type. -/
theorem ofValue?_option {v : Value} (h : v ≠ .null) :
    (Stored.ofValue? v : Option (Option α)) = (Stored.ofValue? v).map some := by
  cases v with
  | null => exact absurd rfl h
  | _ => rfl

theorem keeps_some [NeverNull α] {a : α} (h : Keeps a) : Keeps (some a) :=
  (ofValue?_option (NeverNull.toValue_ne_null a)).trans (congrArg (Option.map some) h)

/-- A value that may be missing comes back if it does where it is not. -/
theorem keeps_option [NeverNull α] {o : Option α} (h : ∀ a ∈ o, Keeps a) : Keeps o := by
  rcases o with - | a
  · rfl
  · exact keeps_some (h a rfl)

instance [NeverNull α] [LawfulStored α] : LawfulStored (Option α) :=
  ⟨fun _ => keeps_option fun a _ => LawfulStored.keeps a⟩

/-! ### Rows -/

namespace Row

theorem decode_eq_ok {v : Value} {a : α} (h : Stored.ofValue? v = some a) (place : String) :
    decode place v = .ok a := by
  cases v <;> simp [decode, h]

/-- The first column is read as the value that has been bound for it. -/
@[simp]
theorem get_cons_self {a : α} (h : Keeps a) (column : String) (r : Row) :
    get ((column, Stored.toValue a) :: r) column = .ok a := by
  have hvalue : value ((column, Stored.toValue a) :: r) column = Stored.toValue a := by
    simp [value]
  rw [get, hvalue, decode_eq_ok h]

/-- A column that always has a value, read as one that may be null. -/
@[simp]
theorem get_cons_self_some [NeverNull α] {a : α} (h : Keeps a) (column : String) (r : Row) :
    get ((column, Stored.toValue a) :: r) column = .ok (some a) :=
  get_cons_self (keeps_some h) column r

/-- Another column is looked for behind the first. -/
@[simp]
theorem get_cons_of_ne {column column' : String} (h : column ≠ column') (v : Value) (r : Row) :
    (get ((column', v) :: r) column : Except Failure α) = get r column := by
  have hvalue : value ((column', v) :: r) column = value r column := by
    simp [value, List.lookup_cons, beq_false_of_ne h]
  rw [get, get, hvalue]

end Row

/-! ### Counts -/

/-- A count comes back, but no greater than the greatest number of its column. -/
@[simp]
theorem integerToCount_countToInteger (n : UInt32) :
    integerToCount (countToInteger n) = min n 2147483647 := by
  have hmin : (countToInteger n).toNat = min n.toNat (2147483647 : UInt32).toNat := by
    simp only [countToInteger, greatestInteger, UInt32.reduceToNat]
    omega
  rw [integerToCount, hmin]
  change _ = if n ≤ 2147483647 then n else 2147483647
  split
  next hle => rw [Nat.min_eq_left (UInt32.le_iff_toNat_le.1 hle), UInt32.ofNat_toNat]
  next hgt =>
    have hge : 2147483647 ≤ n := UInt32.le_of_lt (UInt32.not_le.1 hgt)
    rw [Nat.min_eq_right (UInt32.le_iff_toNat_le.1 hge), UInt32.ofNat_toNat]

end Courier.Sql
