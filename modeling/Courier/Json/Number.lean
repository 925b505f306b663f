import Courier.Json.Scanner

/-!
# The numbers of JSON

A number is written as digits without a needless zero in front, with an optional minus, fraction and
exponent. Only one without minus, fraction and exponent can say a natural number; the others are
read just as far as telling their faults needs. Among these faults is a number beyond the range of
binary floating point of 64 bits, so the scanner keeps as many leading digits as fit in 64 bits and
the power of ten that goes with them (`isTooLarge`).
-/

namespace Courier.Json

/-- Whether a byte is a decimal digit. -/
def isDigit (b : UInt8) : Bool := 0x30 ≤ b ∧ b ≤ 0x39

/-- The value of a decimal digit. -/
def digitValue (b : UInt8) : Nat := b.toNat - 0x30

/-- The greatest number of 64 bits. -/
def greatestWord : Nat := UInt64.size - 1

/-- Reads digits onto a value as long as it stays within a bound, and counts them. -/
def takeDigits (bound : Nat) : Nat → Nat → Bytes → Nat × Nat × Bytes
  | value, count, [] => (value, count, [])
  | value, count, b :: s =>
    if isDigit b && value * 10 + digitValue b ≤ bound then
      takeDigits bound (value * 10 + digitValue b) (count + 1) s
    else (value, count, b :: s)

/-- Passes over digits and counts them. -/
def countDigits (s : Bytes) : Nat × Bytes :=
  ((s.takeWhile isDigit).length, s.dropWhile isDigit)

/-- A number rounded to 53 binary digits, ties to the even neighbour. -/
def roundToDouble (n : Nat) : Nat :=
  let unit := 1 <<< (n.log2 - 52)
  let whole := n / unit
  let rest := n % unit
  let up := unit < 2 * rest ∨ (unit = 2 * rest ∧ whole % 2 = 1)
  (if up then whole + 1 else whole) * unit

/-- Whether `value * 10 ^ exponent` lies beyond the range of floating point of 64 bits. -/
def isTooLarge (value : Nat) (exponent : Int) : Bool :=
  if value = 0 ∨ exponent < 0 then false
  else if 308 < exponent then true
  else (1 <<< 1024) - (1 <<< 970) ≤ roundToDouble value * roundToDouble (Nat.pow 10 exponent.toNat)

/-- Ends a number that is not natural. -/
def endNumber (value : Nat) (exponent : Int) (s : Bytes) : Except Fault (Option Nat × Bytes) :=
  if isTooLarge value exponent then .error .malformed else .ok (none, s)

/-- Passes over the sign of an exponent and tells whether it is a minus. -/
def exponentSign : Bytes → Bool × Bytes
  | 0x2B :: s => (false, s)
  | 0x2D :: s => (true, s)
  | s => (false, s)

/-- Reads an exponent after its letter. -/
def exponentPart (value : Nat) (exponent : Int) (s : Bytes) : Except Fault (Option Nat × Bytes) :=
  let (isNegative, s) := exponentSign s
  match s with
  | [] => .error .truncated
  | b :: _ =>
    if !isDigit b then .error .malformed
    else
      let (power, _, rest) := takeDigits 0x7FFF_FFFF 0 0 s
      match countDigits rest with
      | (0, rest) =>
        endNumber value (if isNegative then exponent - power else exponent + power) rest
      | (_, rest) =>
        if value ≠ 0 ∧ !isNegative then .error .malformed else .ok (none, rest)

/-- Reads the exponent where a letter begins one, or ends the number. -/
def exponentOrEnd (value : Nat) (exponent : Int) : Bytes → Except Fault (Option Nat × Bytes)
  | 0x65 :: s | 0x45 :: s => exponentPart value exponent s
  | s => endNumber value exponent s

/-- Reads a fraction after its point. -/
def fractionPart (value : Nat) (exponent : Int) (s : Bytes) : Except Fault (Option Nat × Bytes) :=
  match s with
  | [] => .error .truncated
  | b :: _ =>
    if !isDigit b then .error .malformed
    else
      let (value, taken, rest) := takeDigits greatestWord value 0 s
      exponentOrEnd value (exponent - taken) (countDigits rest).2

/-- Reads what may follow the digits of a number. -/
def afterDigits (isPositive : Bool) (value dropped : Nat) :
    Bytes → Except Fault (Option Nat × Bytes)
  | 0x2E :: s => fractionPart value dropped s
  | 0x65 :: s | 0x45 :: s => exponentPart value dropped s
  | s =>
    if dropped = 0 then .ok (if isPositive then some value else none, s)
    else endNumber value dropped s

/-- Reads a number after its sign: the natural number below `2 ^ 64` that it says, if it says
    one. -/
def number (isPositive : Bool) (s : Bytes) : Except Fault (Option Nat × Bytes) :=
  match s with
  | [] => .error .truncated
  | b :: rest =>
    if b = 0x30 then
      match rest with
      | d :: _ => if isDigit d then .error .malformed else afterDigits isPositive 0 0 rest
      | [] => afterDigits isPositive 0 0 rest
    else if isDigit b then
      let (value, _, rest) := takeDigits greatestWord 0 0 s
      let (dropped, rest) := countDigits rest
      afterDigits isPositive value dropped rest
    else .error .malformed

/-- Passes over an exponent after its letter. -/
def skipExponent (s : Bytes) : Except Fault Bytes :=
  match (exponentSign s).2 with
  | b :: rest => if isDigit b then .ok (rest.dropWhile isDigit) else .error .malformed
  | [] => .error .malformed

/-- Passes over an exponent where a letter begins one. -/
def skipOptionalExponent : Bytes → Except Fault Bytes
  | 0x65 :: s | 0x45 :: s => skipExponent s
  | s => .ok s

/-- Passes over a fraction where a point begins one, and over an exponent. -/
def skipAfterDigits : Bytes → Except Fault Bytes
  | 0x2E :: b :: s =>
    if isDigit b then skipOptionalExponent (s.dropWhile isDigit) else .error .malformed
  | [0x2E] => .error .malformed
  | s => skipOptionalExponent s

/-- Passes over a number after its sign. Its size does not matter, and one that the text cuts short
    is malformed. -/
def skipNumber : Bytes → Except Fault Bytes
  | [] => .error .malformed
  | b :: s =>
    if b = 0x30 then
      match s with
      | d :: _ => if isDigit d then .error .malformed else skipAfterDigits s
      | [] => .ok []
    else if isDigit b then skipAfterDigits (s.dropWhile isDigit)
    else .error .malformed

theorem dropDigits_length_le (s : Bytes) : (s.dropWhile isDigit).length ≤ s.length :=
  (List.dropWhile_sublist isDigit).length_le

theorem exponentSign_length_le (s : Bytes) : (exponentSign s).2.length ≤ s.length := by
  unfold exponentSign; split <;> simp

theorem skipExponent_length_le {s r : Bytes} (h : skipExponent s = .ok r) :
    r.length ≤ s.length := by
  have hs := exponentSign_length_le s
  unfold skipExponent at h
  split at h
  next b rest heq =>
    have hd := dropDigits_length_le rest
    split at h
    · cases h
      simp only [heq, List.length_cons] at hs
      omega
    · cases h
  next => cases h

theorem skipOptionalExponent_length_le {s r : Bytes} (h : skipOptionalExponent s = .ok r) :
    r.length ≤ s.length := by
  unfold skipOptionalExponent at h
  split at h
  case h_3 => cases h; exact Nat.le_refl _
  all_goals exact Nat.le_trans (skipExponent_length_le h) (Nat.le_succ _)

theorem skipAfterDigits_length_le {s r : Bytes} (h : skipAfterDigits s = .ok r) :
    r.length ≤ s.length := by
  unfold skipAfterDigits at h
  split at h
  next b s =>
    split at h
    · have := skipOptionalExponent_length_le h
      have := dropDigits_length_le s
      simp only [List.length_cons]
      omega
    · cases h
  next => cases h
  next => exact skipOptionalExponent_length_le h

theorem skipNumber_length_lt {s r : Bytes} (h : skipNumber s = .ok r) : r.length < s.length := by
  unfold skipNumber at h
  split at h
  next => cases h
  next b s =>
    split at h
    · split at h
      · split at h
        · cases h
        · exact Nat.lt_succ_of_le (skipAfterDigits_length_le h)
      · cases h; simp
    · split at h
      · have := skipAfterDigits_length_le h
        have := dropDigits_length_le s
        simp only [List.length_cons]
        omega
      · cases h

end Courier.Json
