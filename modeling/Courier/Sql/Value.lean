import Courier.Error
import Courier.Json.Value
import Courier.Text.Digits
import Courier.Text.Quoted
import Courier.Time.Instant
import Courier.Uuid

/-!
# Values in a database

What is bound to the parameters of a statement and stands in the columns of a row. Instants and
times of day are counted in microseconds.

* `Value`: a value of any type of column.
* `Stored`: how the values of a type are bound and read again.
* `Row.get`: the value of a column, or the failure to read one.
-/

namespace Courier.Sql

/-- A value in a column. -/
inductive Value
  | null
  | uuid (id : Uuid)
  | text (s : String)
  | integer (n : Int)
  | flag (b : Bool)
  | bytes (bytes : Bytes)
  | json (v : Json.Value)
  /-- Microseconds since 1970-01-01T00:00:00Z. -/
  | instant (microseconds : Int)
  /-- Microseconds since midnight. -/
  | clock (microseconds : Nat)

/-- The text of a count of microseconds since midnight. -/
def clockText (microseconds : Nat) : String :=
  .ofList (Text.padded 2 (microseconds / 3_600_000_000) ++
    ':' :: Text.padded 2 (microseconds / 60_000_000 % 60) ++
    ':' :: Text.padded 2 (microseconds / 1_000_000 % 60) ++
    TimeOfDay.fractionChars (microseconds % 1_000_000 * 1000))

/-- What goes wrong between a program and its database. -/
inductive Failure
  /-- The database refuses a statement. -/
  | refused (text : String)
  /-- There are no connections any more. -/
  | poolClosed
  /-- There is no row where one is needed. -/
  | rowMissing
  /-- The value of a column cannot be read. -/
  | undecodable (column reason : String)
  deriving DecidableEq

/-- The text of a failure. -/
def Failure.text : Failure → String
  | refused text => "error returned from database: " ++ text
  | poolClosed => "attempted to acquire a connection on a closed pool"
  | rowMissing => "row not found"
  | undecodable column reason => "error occurred while decoding column " ++ column ++ ": " ++ reason

/-- A failure as an error on the way of an event. -/
def Failure.toError : Failure → DeliveryError
  | rowMissing => .notFound rowMissing.text
  | failure => .database failure.text

/-- How the values of a type are bound to parameters and read from columns. -/
class Stored (α : Type) where
  toValue : α → Value
  ofValue? : Value → Option α

instance : Stored Uuid where
  toValue := .uuid
  ofValue? | .uuid id => some id | _ => none

instance : Stored String where
  toValue := .text
  ofValue? | .text s => some s | _ => none

instance : Stored Int where
  toValue := .integer
  ofValue? | .integer n => some n | _ => none

instance : Stored Bool where
  toValue := .flag
  ofValue? | .flag b => some b | _ => none

instance : Stored Bytes where
  toValue := .bytes
  ofValue? | .bytes bytes => some bytes | _ => none

instance : Stored TextMap where
  toValue m := .json (.ofTextMap m)
  ofValue? | .json v => v.textMap? | _ => none

instance : Stored Instant where
  toValue t := .instant t.microseconds
  ofValue? | .instant count => some (.ofMicroseconds count) | _ => none

instance : Stored TimeOfDay where
  toValue t := .clock t.microseconds
  ofValue? | .clock count => some (.ofMicroseconds count) | _ => none

instance {α : Type} [Stored α] : Stored (Option α) where
  toValue
    | none => .null
    | some a => Stored.toValue a
  ofValue?
    | .null => some none
    | v => (Stored.ofValue? v).map some

/-- The greatest number of a column of 32 bits. -/
def greatestInteger : Nat := 2147483647

/-- A count as a column of 32 bits keeps it: a greater one as the greatest. -/
def countToInteger (n : UInt32) : Int := min n.toNat greatestInteger

/-- The count in a column of 32 bits, of which a negative one is none at all. -/
def integerToCount (n : Int) : UInt32 := UInt32.ofNat n.toNat

/-- The columns of a row with their values. A column that is not listed is null. -/
abbrev Row := List (String × Value)

namespace Row

/-- The value of a column. -/
def value (r : Row) (column : String) : Value := (r.lookup column).getD .null

/-- Reads a value, and says where it stands if that fails. -/
def decode {α : Type} [Stored α] (place : String) (v : Value) : Except Failure α :=
  match v with
  | .null =>
    match Stored.ofValue? Value.null with
    | some a => .ok a
    | none => .error (.undecodable place "unexpected null; try decoding as an `Option`")
  | v =>
    match Stored.ofValue? v with
    | some a => .ok a
    | none => .error (.undecodable place "mismatched types")

/-- Reads the value of a column. -/
def get {α : Type} [Stored α] (r : Row) (column : String) : Except Failure α :=
  decode (Text.quoted column) (r.value column)

/-- Reads the value of a column that is the only one of its row. -/
def only {α : Type} [Stored α] (r : Row) (column : String) : Except Failure α :=
  decode "0" (r.value column)

end Row

end Courier.Sql
