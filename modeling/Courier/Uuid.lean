import Courier.Text.Digits

/-!
# Identifiers

An identifier is a number of 128 bits. It is written as 32 hexadecimal digits in groups of
8, 4, 4, 4 and 12, and read in four spellings: with hyphens, without, with hyphens in braces, and
with hyphens after `urn:uuid:`. Identifiers are ordered as numbers.

* `Uuid.text`: the one spelling that is written.
* `Uuid.ofText?`: the four spellings that are read, in letters of either case.
* `Uuid.nth`: a sequence of identifiers that grows with its index, with the version and variant
  marks of time-ordered identifiers.
-/

namespace Courier

/-- How many identifiers there are. -/
def Uuid.size : Nat := 0x1_0000_0000_0000_0000_0000_0000_0000_0000

/-- An identifier of 128 bits. -/
structure Uuid where
  /-- The identifier as a number. -/
  value : Nat
  value_lt : value < Uuid.size
  deriving DecidableEq

namespace Uuid

/-- The identifier whose bits are all zero. -/
def nil : Uuid := ⟨0, by decide⟩

instance : Inhabited Uuid := ⟨nil⟩

/-- The identifier of a number, which is taken modulo the number of identifiers. -/
def ofNat (n : Nat) : Uuid := ⟨n % size, Nat.mod_lt _ (by decide)⟩

/-- The 32 hexadecimal digits of an identifier. -/
def digits (id : Uuid) : List Char := Text.hexOf 32 id.value

/-- Joins groups of characters by hyphens. -/
def hyphenated : List (List Char) → List Char
  | [] => []
  | [group] => group
  | group :: groups => group ++ '-' :: hyphenated groups

/-- Cuts a list of characters into groups of the given lengths. -/
def groups : List Nat → List Char → List (List Char)
  | [], _ => []
  | width :: widths, cs => cs.take width :: groups widths (cs.drop width)

/-- The lengths of the groups of digits. -/
def widths : List Nat := [8, 4, 4, 4, 12]

/-- The characters of an identifier: lower-case digits in groups joined by hyphens. -/
def chars (id : Uuid) : List Char := hyphenated (groups widths id.digits)

/-- The text of an identifier. -/
def text (id : Uuid) : String := .ofList id.chars

instance : ToString Uuid := ⟨text⟩

/-- The digits of a hyphenated spelling: the five groups, when hyphens and nothing else stand
    between them. -/
def unhyphenated? (cs : List Char) : Option (List Char) :=
  if cs.length = 36 ∧ [8, 13, 18, 23].all (fun i => cs[i]? == some '-') then
    some (cs.take 8 ++ (cs.drop 9).take 4 ++ (cs.drop 14).take 4 ++ (cs.drop 19).take 4 ++
      cs.drop 24)
  else none

/-- The identifier that 32 hexadecimal digits say. -/
def ofDigits? (cs : List Char) : Option Uuid :=
  if cs.length = 32 then (Text.hexValue? 0 cs).map ofNat else none

/-- The mark of a name in the name space of identifiers, in lower case. -/
def urn : List Char := "urn:uuid:".toList

/-- The identifier that a list of characters spells. -/
def ofChars? (cs : List Char) : Option Uuid :=
  if (cs.take 9).map Char.toLower = urn then (unhyphenated? (cs.drop 9)).bind ofDigits?
  else if cs.length = 38 ∧ cs.head? = some '\x7b' ∧ cs.getLast? = some '\x7d' then
    (unhyphenated? ((cs.drop 1).take 36)).bind ofDigits?
  else if cs.length = 32 then ofDigits? cs
  else (unhyphenated? cs).bind ofDigits?

/-- The identifier that a text spells. -/
def ofText? (text : String) : Option Uuid := ofChars? text.toList

/-- The order of identifiers, as numbers. -/
def le (a b : Uuid) : Bool := a.value ≤ b.value

/-- The identifier with the given index in a growing sequence: a fixed time of 48 bits, the version
    mark 7, the variant mark, and the index in the low bits. -/
def nth (index : Nat) : Uuid :=
  ofNat (0x019A_0000_0000_7000_8000_0000_0000_0000 + index)

end Uuid

end Courier
