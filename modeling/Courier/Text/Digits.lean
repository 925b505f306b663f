/-!
# Digits

Numbers written in decimal and hexadecimal digits.

* `decimal` writes a number in the fewest decimal digits, `padded` in at least so many.
* `hexOf` writes a number in exactly so many lower-case hexadecimal digits; `hexValue?` reads them.
* `UnsignedFault` and `unsigned?` are the reading of a bounded number from a whole text.
-/

namespace Courier.Text

/-- The digit for a value below 36: decimal first, then lower-case letters. -/
def digitChar (value : Nat) : Char :=
  if value < 10 then Char.ofNat (48 + value) else Char.ofNat (87 + value)

/-- The decimal digits of a number, the fewest that say it. -/
def decimal (n : Nat) : List Char :=
  if n < 10 then [digitChar n] else decimal (n / 10) ++ [digitChar (n % 10)]

/-- The decimal digits of a number, with zeros in front up to a least width. -/
def padded (width n : Nat) : List Char :=
  List.replicate (width - (decimal n).length) '0' ++ decimal n

/-- The lowest `width` digits of a number in hexadecimal, lower case. -/
def hexOf : Nat → Nat → List Char
  | 0, _ => []
  | width + 1, n => hexOf width (n / 16) ++ [digitChar (n % 16)]

/-- The value of a decimal digit. -/
def digitValue? (c : Char) : Option Nat :=
  if '0' ≤ c ∧ c ≤ '9' then some (c.toNat - 48) else none

/-- The value of a hexadecimal digit of either case. -/
def hexDigitValue? (c : Char) : Option Nat :=
  if '0' ≤ c ∧ c ≤ '9' then some (c.toNat - 48)
  else if 'a' ≤ c ∧ c ≤ 'f' then some (c.toNat - 87)
  else if 'A' ≤ c ∧ c ≤ 'F' then some (c.toNat - 55)
  else none

/-- The number that a list of hexadecimal digits says, starting from a value already read. -/
def hexValue? : Nat → List Char → Option Nat
  | value, [] => some value
  | value, c :: cs => (hexDigitValue? c).bind fun d => hexValue? (value * 16 + d) cs

/-- Why a text is not a number in a given range. -/
inductive UnsignedFault
  | empty
  | invalidDigit
  | tooLarge
  deriving DecidableEq

/-- Reads digits onto a value already read. At each digit, a character that is no digit is noticed
    before the number has outgrown its bound, and the bound before the next digit. -/
def unsignedFrom (bound : Nat) : Nat → List Char → Except UnsignedFault Nat
  | value, [] => .ok value
  | value, c :: cs =>
    match digitValue? c with
    | none => .error .invalidDigit
    | some d => if bound < value * 10 + d then .error .tooLarge else
      unsignedFrom bound (value * 10 + d) cs

/-- Reads a whole text as a number of at most `bound`: decimal digits, after an optional plus. -/
def unsigned? (bound : Nat) (text : String) : Except UnsignedFault Nat :=
  match text.toList with
  | [] => .error .empty
  | ['+'] => .error .invalidDigit
  | '+' :: cs => unsignedFrom bound 0 cs
  | cs => unsignedFrom bound 0 cs

/-- The bytes `bytes` in hexadecimal, two digits each. -/
def hexOfBytes (bytes : List UInt8) : String :=
  .ofList (bytes.flatMap fun b => hexOf 2 b.toNat)

end Courier.Text
