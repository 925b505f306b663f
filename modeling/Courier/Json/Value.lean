import Courier.Json.Codec

/-!
# JSON values

A JSON value of any kind whose numbers are integers, and its compact text. The members of an object
stand in the order of their names.

* `Value.print`: the text of a value.
* `Value.object`: the object of a list of members, of which the last with a name counts.
-/

namespace Courier.Json

/-- A JSON value whose numbers are integers. -/
inductive Value
  | null
  | flag (b : Bool)
  | integer (n : Int)
  | text (s : String)
  | array (elements : List Value)
  | record (members : List (String × Value))
  deriving Inhabited

namespace Value

/-- Puts a member into its place in a list of members. -/
def place (name : String) (value : Value) : List (String × Value) → List (String × Value)
  | [] => [(name, value)]
  | m :: ms =>
    if name < m.1 then (name, value) :: m :: ms
    else if name = m.1 then (name, value) :: ms
    else m :: place name value ms

/-- The object of a list of members, of which the last with a name counts. -/
def object (members : List (String × Value)) : Value :=
  record (members.foldl (fun ms m => place m.1 m.2 ms) [])

/-- The bytes of an integer. -/
def printInteger (n : Int) : Bytes :=
  if n < 0 then 0x2D :: printNatural n.natAbs else printNatural n.natAbs

/-- The compact text of a value. -/
def print : Value → Bytes
  | null => bytesOf "null"
  | flag b => Codec.print b
  | integer n => printInteger n
  | text s => quote s
  | array elements => printArray (printAll elements)
  | record members => printObject (printMembers members)
where
  /-- The texts of the elements of an array. -/
  printAll : List Value → List Bytes
    | [] => []
    | v :: vs => v.print :: printAll vs
  /-- The texts of the members of an object. -/
  printMembers : List (String × Value) → List Bytes
    | [] => []
    | (name, v) :: ms => printMember name v.print :: printMembers ms

/-- The object of a map of texts. -/
def ofTextMap (m : TextMap) : Value := record (m.entries.map fun e => (e.1, text e.2))

/-- The entries of a map of texts, if all the members are texts. -/
def textEntries? : List (String × Value) → Option (List (String × String))
  | [] => some []
  | (name, text s) :: ms => (textEntries? ms).map ((name, s) :: ·)
  | _ => none

/-- The map of texts that an object is, if all its members are texts. -/
def textMap? : Value → Option TextMap
  | record members => (textEntries? members).map .ofList
  | _ => none

end Value

end Courier.Json
