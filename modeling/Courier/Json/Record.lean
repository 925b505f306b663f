import Courier.Json.Codec

/-!
# Records in JSON

A record is a list of fields, each with its name and the codec of its values. It is written as an
object with the fields in order, and read from an object with its members in any order or from an
array of all field values.

* `Record`: one value for each of a list of fields.
* `Model`: a type whose values are records of its fields, and so are written by `Model.print` and
  read by `Model.parse`.

In an object, members with other names are passed over, and a second member of one name is a fault,
met before its value. A missing member is a fault unless its field has a value to stand for it.
-/

namespace Courier.Json

/-- A field of a record. -/
structure Field where
  name : String
  type : Type
  codec : Codec type
  /-- The value that stands for a missing member or element. -/
  fallback : Option type := none
  /-- Whether a value is left out when the record is written. -/
  isOmitted : type → Bool := fun _ => false

namespace Field

/-- A field that is always written. -/
def plain (name : String) (type : Type) [codec : Codec type] : Field :=
  ⟨name, type, codec, none, fun _ => false⟩

/-- A field that is left out when its value is the given one, and has it when it is missing. -/
def sparse (name : String) {type : Type} [codec : Codec type] [DecidableEq type] (blank : type) :
    Field :=
  ⟨name, type, codec, some blank, fun a => a = blank⟩

/-- The value that a missing member of an object stands for. -/
def absent (f : Field) : Option f.type := f.fallback.or f.codec.absent

end Field

/-- One value for each of a list of fields. -/
def Record : List Field → Type
  | [] => Unit
  | f :: fs => f.type × Record fs

/-- At most one value for each of a list of fields. -/
def Slots : List Field → Type
  | [] => Unit
  | f :: fs => Option f.type × Slots fs

/-- No value for any field. -/
def Slots.empty : (fs : List Field) → Slots fs
  | [] => ()
  | _ :: fs => (none, empty fs)

/-- The record of the values found, if each field has one or something to stand for it. -/
def Slots.close? : (fs : List Field) → Slots fs → Option (Record fs)
  | [], _ => some ()
  | f :: fs, (slot, slots) => do
    let value ← slot.or f.absent
    let values ← close? fs slots
    return (value, values)

/-- Reads the rest of a member with the given name into its slot. -/
def readSlot : (fs : List Field) → Slots fs → String → Reader (Slots fs)
  | [], _, _ => fun s => (skipColon s >>= skipValue).map fun s => ((), s)
  | f :: fs, (slot, slots), name => fun s =>
    if name = f.name then
      if slot.isSome then .error .mismatched
      else
        match skipColon s >>= f.codec.read with
        | .error fault => .error fault
        | .ok (value, s) => .ok ((some value, slots), s)
    else (readSlot fs slots name s).map fun (slots, s) => ((slot, slots), s)

/-- Reads the values of all fields as elements of an array. -/
def readRow : (fs : List Field) → Bool → Reader (Record fs)
  | [], _, s => .ok ((), s)
  | f :: fs, isFirst, s =>
    match nextElement isFirst s with
    | .error fault => .error fault
    | .ok none =>
      match f.fallback with
      | none => .error .mismatched
      | some value => (readRow fs isFirst s).map fun (values, s) => ((value, values), s)
    | .ok (some t) =>
      match f.codec.read t with
      | .error fault => .error fault
      | .ok (value, s) => (readRow fs false s).map fun (values, s) => ((value, values), s)

/-- Reads a record from an object or an array. -/
def readRecord (fs : List Field) : Reader (Record fs) := fun s =>
  match front? s with
  | none => .error .truncated
  | some (b, s) =>
    if b = 0x7B then
      match readMembers (readSlot fs) true (Slots.empty fs) s with
      | .error fault => .error fault
      | .ok (slots, s) =>
        match Slots.close? fs slots with
        | none => .error .mismatched
        | some record => (readClosing .object s).map fun s => (record, s)
    else if b = 0x5B then
      match readRow fs true s with
      | .error fault => .error fault
      | .ok (record, s) => (readClosing .array s).map fun s => (record, s)
    else .error (mismatch b s)

/-- The members of a record that are written. -/
def printMembers : (fs : List Field) → Record fs → List Bytes
  | [], _ => []
  | f :: fs, (value, values) =>
    if f.isOmitted value then printMembers fs values
    else printMember f.name (f.codec.print value) :: printMembers fs values

/-- The elements of a record as an array. -/
def printRow : (fs : List Field) → Record fs → List Bytes
  | [], _ => []
  | f :: fs, (value, values) => f.codec.print value :: printRow fs values

/-- A type whose values are records. -/
class Model (α : Type) where
  fields : List Field
  toRecord : α → Record fields
  ofRecord : Record fields → α
  ofRecord_toRecord : ∀ a, ofRecord (toRecord a) = a

namespace Model

variable {α : Type} [Model α]

/-- Reads a value off the front of a text. -/
def read : Reader α := fun s =>
  (readRecord (fields α) s).map fun (record, s) => (ofRecord record, s)

/-- Reads a whole text as a value. -/
def parse (s : Bytes) : Except Fault α :=
  match read s with
  | .error fault => .error fault
  | .ok (a, rest) => if (skipSpace rest).isEmpty then .ok a else .error .malformed

/-- A value as a JSON object. -/
def print (a : α) : Bytes := printObject (printMembers (fields α) (toRecord a))

/-- A value as a JSON array. -/
def printAsRow (a : α) : Bytes := printArray (printRow (fields α) (toRecord a))

end Model

end Courier.Json
