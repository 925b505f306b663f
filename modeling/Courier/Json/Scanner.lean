import Courier.Json.Fault
import Courier.Text.Bytes

/-!
# The words of JSON

Scanners over the bytes of a JSON text: white space, the three literal words, and strings. A scanner
gives what it has read and the bytes that remain.

* `quote` writes a text as a JSON string: the quotation mark, the backslash and the control
  characters are escaped, all else stands for itself.
* `unquote` reads the rest of a string whose opening mark has been read, and resolves its escapes.
* `skipString` passes over the rest of a string without asking whether its escapes name characters.
-/

namespace Courier.Json

/-- Reads a value off the front of a text. -/
abbrev Reader (α : Type) := Bytes → Except Fault (α × Bytes)

/-- Whether a byte is white space between the words of a JSON text. -/
def isSpace (b : UInt8) : Bool :=
  b == 0x20 || b == 0x0A || b == 0x0D || b == 0x09

/-- Passes over white space. -/
def skipSpace (s : Bytes) : Bytes :=
  s.dropWhile isSpace

theorem skipSpace_length_le (s : Bytes) : (skipSpace s).length ≤ s.length :=
  (List.dropWhile_sublist isSpace).length_le

/-- Passes over the given bytes. -/
def word : Bytes → Bytes → Except Fault Bytes
  | [], s => .ok s
  | _ :: _, [] => .error .truncated
  | e :: es, b :: s => if b = e then word es s else .error .malformed

theorem word_length_le {es s r : Bytes} (h : word es s = .ok r) : r.length ≤ s.length := by
  fun_induction word es s with
  | case1 s => cases h; exact Nat.le_refl _
  | case2 => cases h
  | case3 e es s ih => exact Nat.le_trans (ih h) (Nat.le_succ _)
  | case4 => cases h

/-! ### Strings -/

/-- The value of a hexadecimal digit. -/
def hexDigit? (b : UInt8) : Option Nat :=
  if 0x30 ≤ b ∧ b ≤ 0x39 then some (b.toNat - 0x30)
  else if 0x61 ≤ b ∧ b ≤ 0x66 then some (b.toNat - 0x57)
  else if 0x41 ≤ b ∧ b ≤ 0x46 then some (b.toNat - 0x37)
  else none

/-- The number that four hexadecimal digits say. -/
def hexUnit? (a b c d : UInt8) : Option Nat := do
  let a ← hexDigit? a
  let b ← hexDigit? b
  let c ← hexDigit? c
  let d ← hexDigit? d
  return a * 4096 + b * 256 + c * 16 + d

/-- The byte that a single letter after a backslash stands for. -/
def escapedByte? (b : UInt8) : Option UInt8 :=
  if b = 0x22 ∨ b = 0x5C ∨ b = 0x2F then some b
  else if b = 0x62 then some 0x08
  else if b = 0x66 then some 0x0C
  else if b = 0x6E then some 0x0A
  else if b = 0x72 then some 0x0D
  else if b = 0x74 then some 0x09
  else none

/-- The first and the second half of a character that is escaped as two units. -/
def isHighUnit (n : Nat) : Bool := 0xD800 ≤ n ∧ n ≤ 0xDBFF
def isLowUnit (n : Nat) : Bool := 0xDC00 ≤ n ∧ n ≤ 0xDFFF

/-- The UTF-8 encoding of a code point. -/
def encodePoint (n : Nat) : Bytes := String.utf8EncodeChar (Char.ofNat n)

/-- The code point that two halves make. -/
def joinUnits (high low : Nat) : Nat := (high - 0xD800) * 0x400 + (low - 0xDC00) + 0x10000

/-- Puts bytes in front of what a scanner has read. -/
def prepend (front : Bytes) : Except Fault (Bytes × Bytes) → Except Fault (Bytes × Bytes)
  | .ok (bytes, rest) => .ok (front ++ bytes, rest)
  | .error fault => .error fault

/-- Reads a string up to its closing mark and resolves its escapes. Half a character alone, an
    unknown escape and a bare control character are malformed. -/
def unescape : Bytes → Except Fault (Bytes × Bytes)
  | [] => .error .truncated
  | 0x22 :: s => .ok ([], s)
  | 0x5C :: 0x75 :: a :: b :: c :: d :: s =>
    match hexUnit? a b c d with
    | none => .error .malformed
    | some n =>
      if isLowUnit n then .error .malformed
      else if isHighUnit n then
        match s with
        | 0x5C :: 0x75 :: a :: b :: c :: d :: s =>
          match hexUnit? a b c d with
          | none => .error .malformed
          | some m =>
            if isLowUnit m then prepend (encodePoint (joinUnits n m)) (unescape s)
            else .error .malformed
        | [] | [0x5C] | 0x5C :: 0x75 :: _ => .error .truncated
        | _ => .error .malformed
      else prepend (encodePoint n) (unescape s)
  | [0x5C] | 0x5C :: 0x75 :: _ => .error .truncated
  | 0x5C :: e :: s =>
    match escapedByte? e with
    | none => .error .malformed
    | some b => prepend [b] (unescape s)
  | b :: s => if b < 0x20 then .error .malformed else prepend [b] (unescape s)

/-- Reads the rest of a string after its opening mark, which must be UTF-8. -/
def unquote : Reader String := fun s =>
  match unescape s with
  | .error fault => .error fault
  | .ok (bytes, rest) =>
    match textOf? bytes with
    | none => .error .malformed
    | some text => .ok (text, rest)

/-- Passes over the rest of a string after its opening mark. -/
def skipString : Bytes → Except Fault Bytes
  | [] => .error .truncated
  | 0x22 :: s => .ok s
  | 0x5C :: 0x75 :: a :: b :: c :: d :: s =>
    if (hexUnit? a b c d).isSome then skipString s else .error .malformed
  | [0x5C] | 0x5C :: 0x75 :: _ => .error .truncated
  | 0x5C :: e :: s => if (escapedByte? e).isSome then skipString s else .error .malformed
  | b :: s => if b < 0x20 then .error .malformed else skipString s

theorem skipString_length_lt {s r : Bytes} (h : skipString s = .ok r) : r.length < s.length := by
  fun_induction skipString s <;> simp_all <;> omega

/-- The lower-case hexadecimal digit of a value below 16. -/
def hexDigit (n : UInt8) : UInt8 := if n < 10 then 0x30 + n else 0x57 + n

/-- A byte of a text as it stands in a JSON string. -/
def escapeByte (b : UInt8) : Bytes :=
  if b = 0x22 then [0x5C, 0x22]
  else if b = 0x5C then [0x5C, 0x5C]
  else if b = 0x08 then [0x5C, 0x62]
  else if b = 0x09 then [0x5C, 0x74]
  else if b = 0x0A then [0x5C, 0x6E]
  else if b = 0x0C then [0x5C, 0x66]
  else if b = 0x0D then [0x5C, 0x72]
  else if b < 0x20 then [0x5C, 0x75, 0x30, 0x30, hexDigit (b / 16), hexDigit (b % 16)]
  else [b]

/-- A text as a JSON string. -/
def quote (text : String) : Bytes :=
  0x22 :: (bytesOf text).flatMap escapeByte ++ [0x22]

end Courier.Json
