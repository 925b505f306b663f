import Courier.Json.Skip
import Courier.Text.Map
import Courier.Text.Name
import Courier.Time.Instant
import Courier.Uuid

/-!
# Values in JSON

How the values of each type are written as JSON and read again. A codec reads a value off the front
of a text, so that codecs can be put together.

* Numbers are natural and bounded, and bytes are an array of numbers below 256.
* Identifiers, instants and times of day are strings, read in every spelling of theirs.
* A named value is its name, or an object with its name as the only member, which is null.
* An optional value may be null, which is also what a missing member stands for.
-/

namespace Courier.Json

/-- How values of a type are written and read. -/
class Codec (α : Type) where
  read : Reader α
  print : α → Bytes
  /-- The value that a missing member of an object stands for. -/
  absent : Option α := none

/-! ### Parts of readers -/

/-- The fault of a value that is of another kind than the wanted one, given its first byte. A word,
    a number or a string is read to its end first, and a fault in it comes before. -/
def mismatch (b : UInt8) (s : Bytes) : Fault :=
  let scanned : Except Fault Unit :=
    if b = 0x6E then (word [0x75, 0x6C, 0x6C] s).map fun _ => ()
    else if b = 0x74 then (word [0x72, 0x75, 0x65] s).map fun _ => ()
    else if b = 0x66 then (word [0x61, 0x6C, 0x73, 0x65] s).map fun _ => ()
    else if b = 0x2D then (number false s).map fun _ => ()
    else if isDigit b then (number true (b :: s)).map fun _ => ()
    else if b = 0x22 then (unquote s).map fun _ => ()
    else if b = 0x5B ∨ b = 0x7B then .ok ()
    else .error .malformed
  match scanned with
  | .error fault => fault
  | .ok _ => .mismatched

/-- Reads a string. -/
def readText : Reader String := fun s =>
  match front? s with
  | none => .error .truncated
  | some (b, s) => if b = 0x22 then unquote s else .error (mismatch b s)

/-- Reads a string that says a value in the spelling of another type. -/
def readSpelled {α : Type} (ofText? : String → Option α) : Reader α := fun s =>
  match readText s with
  | .error fault => .error fault
  | .ok (text, s) =>
    match ofText? text with
    | none => .error .mismatched
    | some a => .ok (a, s)

/-- Reads a natural number up to a bound. -/
def readNatural (bound : Nat) : Reader Nat := fun s =>
  match front? s with
  | none => .error .truncated
  | some (b, s) =>
    if b = 0x2D ∨ isDigit b then
      match number (b ≠ 0x2D) (if b = 0x2D then s else b :: s) with
      | .error fault => .error fault
      | .ok (none, _) => .error .mismatched
      | .ok (some n, s) => if n ≤ bound then .ok (n, s) else .error .mismatched
    else .error (mismatch b s)

/-- Reads `true` or `false`. -/
def readFlag : Reader Bool := fun s =>
  match front? s with
  | none => .error .truncated
  | some (b, s) =>
    if b = 0x74 then (word [0x72, 0x75, 0x65] s).map fun s => (true, s)
    else if b = 0x66 then (word [0x61, 0x6C, 0x73, 0x65] s).map fun s => (false, s)
    else .error (mismatch b s)

/-- Reads `null`. -/
def readNull (s : Bytes) : Except Fault Bytes :=
  match front? s with
  | none => .error .truncated
  | some (b, s) => if b = 0x6E then word [0x75, 0x6C, 0x6C] s else .error (mismatch b s)

/-- Passes over the byte that closes a bracket. -/
def readClosing (bracket : Bracket) (s : Bytes) : Except Fault Bytes :=
  match front? s with
  | none => .error .truncated
  | some (b, s) => if b = bracket.closing then .ok s else .error .malformed

/-- Looks for another element of an array, after the comma that must stand before it unless it is
    the first. Nothing is found at the closing bracket. -/
def nextElement (isFirst : Bool) (s : Bytes) : Except Fault (Option Bytes) :=
  match front? s with
  | none => .error .truncated
  | some (b, rest) =>
    if b = 0x5D then .ok none
    else if isFirst then .ok (some (b :: rest))
    else if b = 0x2C then
      match front? rest with
      | none => .error .truncated
      | some (b, rest) => if b = 0x5D then .error .malformed else .ok (some (b :: rest))
    else .error .malformed

/-- Reads elements of an array up to its closing bracket. -/
def readElements {α : Type} (read : Reader α) (isFirst : Bool) (s : Bytes) :
    Except Fault (List α × Bytes) :=
  match nextElement isFirst s with
  | .error fault => .error fault
  | .ok none => .ok ([], s)
  | .ok (some t) =>
    match read t with
    | .error fault => .error fault
    | .ok (a, rest) =>
      if rest.length < s.length then
        (readElements read false rest).map fun (as, rest) => (a :: as, rest)
      else .error .truncated
termination_by s.length

/-- Looks for another member of an object, after the comma that must stand before it unless it is
    the first. What is found begins after the opening mark of its name. -/
def nextMember (isFirst : Bool) (s : Bytes) : Except Fault (Option Bytes) :=
  match front? s with
  | none => .error .truncated
  | some (b, rest) =>
    if b = 0x7D then .ok none
    else if isFirst then if b = 0x22 then .ok (some rest) else .error .malformed
    else if b = 0x2C then
      match front? rest with
      | none => .error .truncated
      | some (b, rest) => if b = 0x22 then .ok (some rest) else .error .malformed
    else .error .malformed

/-- Reads members of an object up to its closing bracket. What has been read so far decides with the
    name of a member how the rest of it is read. -/
def readMembers {α : Type} (read : α → String → Reader α) (isFirst : Bool) (a : α) (s : Bytes) :
    Except Fault (α × Bytes) :=
  match nextMember isFirst s with
  | .error fault => .error fault
  | .ok none => .ok (a, s)
  | .ok (some t) =>
    match unquote t with
    | .error fault => .error fault
    | .ok (name, t) =>
      match read a name t with
      | .error fault => .error fault
      | .ok (a, rest) =>
        if rest.length < s.length then readMembers read false a rest else .error .truncated
termination_by s.length

/-- Reads bytes as an array of their numbers. -/
def readBytes : Reader Bytes := fun s =>
  match front? s with
  | none => .error .truncated
  | some (b, s) =>
    if b = 0x5B then
      match readElements (readNatural 255) true s with
      | .error fault => .error fault
      | .ok (ns, s) => (readClosing .array s).map fun s => (ns.map UInt8.ofNat, s)
    else .error (mismatch b s)

/-- Reads a map of texts. Of several members with one name the last counts. -/
def readTextMap : Reader TextMap := fun s =>
  match front? s with
  | none => .error .truncated
  | some (b, s) =>
    if b = 0x7B then
      let member (m : TextMap) (name : String) : Reader TextMap := fun s =>
        match skipColon s >>= readText with
        | .error fault => .error fault
        | .ok (value, s) => .ok (m.insert name value, s)
      match readMembers member true .empty s with
      | .error fault => .error fault
      | .ok (m, s) => (readClosing .object s).map fun s => (m, s)
    else .error (mismatch b s)

/-- Reads a named value: its name, or an object with its name as the only member, which is null. -/
def readNamed {α : Type} [Named α] : Reader α := fun s =>
  match front? s with
  | none => .error .truncated
  | some (b, rest) =>
    if b = 0x22 then readSpelled Named.ofName? s
    else if b = 0x7B then
      match readSpelled Named.ofName? rest with
      | .error fault => .error fault
      | .ok (a, s) => (skipColon s >>= readNull >>= readClosing .object).map fun s => (a, s)
    else .error .malformed

/-- Reads a value or `null`. -/
def readOptional {α : Type} (read : Reader α) : Reader (Option α) := fun s =>
  match front? s with
  | some (0x6E, s) => (word [0x75, 0x6C, 0x6C] s).map fun s => (none, s)
  | _ =>
    match read s with
    | .error fault => .error fault
    | .ok (a, s) => .ok (some a, s)

/-! ### Parts of printers -/

/-- The bytes of a decimal number. -/
def printNatural (n : Nat) : Bytes := bytesOf (.ofList (Text.decimal n))

/-- Pieces with a comma between them. -/
def joinByComma : List Bytes → Bytes
  | [] => []
  | [piece] => piece
  | piece :: pieces => piece ++ 0x2C :: joinByComma pieces

/-- A member of an object. -/
def printMember (name : String) (value : Bytes) : Bytes := quote name ++ 0x3A :: value

/-- An object of the given members. -/
def printObject (members : List Bytes) : Bytes := 0x7B :: joinByComma members ++ [0x7D]

/-- An array of the given elements. -/
def printArray (elements : List Bytes) : Bytes := 0x5B :: joinByComma elements ++ [0x5D]

/-! ### Codecs -/

instance : Codec String where
  read := readText
  print := quote

instance : Codec Bool where
  read := readFlag
  print flag := bytesOf (if flag then "true" else "false")

instance : Codec UInt32 where
  read s := (readNatural (UInt32.size - 1) s).map fun (n, s) => (UInt32.ofNat n, s)
  print n := printNatural n.toNat

instance : Codec Bytes where
  read := readBytes
  print bytes := printArray (bytes.map fun b => printNatural b.toNat)

instance : Codec TextMap where
  read := readTextMap
  print m := printObject (m.entries.map fun e => printMember e.1 (quote e.2))

instance : Codec Uuid where
  read := readSpelled Uuid.ofText?
  print id := quote id.text

instance : Codec Instant where
  read := readSpelled Instant.ofText?
  print t := quote t.text

instance : Codec TimeOfDay where
  read := readSpelled TimeOfDay.ofText?
  print t := quote t.text

instance {α : Type} [Codec α] : Codec (Option α) where
  read := readOptional Codec.read
  print
    | none => bytesOf "null"
    | some a => Codec.print a
  absent := some none

/-- The codec of a type whose values have names. -/
@[reducible]
def namedCodec (α : Type) [Named α] : Codec α where
  read := readNamed
  print a := quote (Named.name a)

end Courier.Json
