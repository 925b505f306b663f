import Courier.Json.Scanner

/-!
# Strings come back

A text that has been written as a JSON string is read again as it was, whatever characters it has
and whatever follows the string.

* `unescape_escapeByte`: an escape is resolved to the byte that it stands for.
* `unquote_escaped`: the rest of a string after its opening mark is the text that was written.
-/

namespace Courier.Json

/-- A control character that has no escape of its own is written as its code point. -/
theorem encodePoint_control : ∀ n < 32,
    hexUnit? 0x30 0x30 (hexDigit (UInt8.ofNat n / 16)) (hexDigit (UInt8.ofNat n % 16)) = some n ∧
      encodePoint n = [UInt8.ofNat n] := by
  decide +kernel

theorem unescape_control {b : UInt8} (h : b < 0x20) (s : Bytes) :
    unescape (0x5C :: 0x75 :: 0x30 :: 0x30 :: hexDigit (b / 16) :: hexDigit (b % 16) :: s) =
      prepend [b] (unescape s) := by
  have hb := encodePoint_control b.toNat (UInt8.lt_iff_toNat_lt.1 h)
  have hn : b.toNat < 32 := UInt8.lt_iff_toNat_lt.1 h
  rw [UInt8.ofNat_toNat] at hb
  rw [unescape, hb.1]
  have hlow : isLowUnit b.toNat = false := by simp [isLowUnit]; omega
  have hhigh : isHighUnit b.toNat = false := by simp [isHighUnit]; omega
  simp [hlow, hhigh, hb.2]

/-- An escape is resolved to the byte that it stands for. -/
theorem unescape_escapeByte (b : UInt8) (s : Bytes) :
    unescape (escapeByte b ++ s) = prepend [b] (unescape s) := by
  rw [escapeByte]
  split
  next h => subst h; rfl
  split
  next h => subst h; rfl
  split
  next h => subst h; rfl
  split
  next h => subst h; rfl
  split
  next h => subst h; rfl
  split
  next h => subst h; rfl
  split
  next h => subst h; rfl
  split
  next h => exact unescape_control h s
  next h₁ h₂ _ _ _ _ _ h =>
    rw [List.singleton_append, unescape]
    · rw [if_neg h]
    all_goals simp_all

theorem unescape_flatMap (bytes rest : Bytes) :
    unescape (bytes.flatMap escapeByte ++ 0x22 :: rest) = .ok (bytes, rest) := by
  induction bytes with
  | nil => rfl
  | cons b bytes ih =>
    rw [List.flatMap_cons, List.append_assoc, unescape_escapeByte, ih]
    rfl

/-- The rest of a string after its opening mark is the text that was written. -/
theorem unquote_escaped (text : String) (rest : Bytes) :
    unquote ((bytesOf text).flatMap escapeByte ++ 0x22 :: rest) = .ok (text, rest) := by
  rw [unquote, unescape_flatMap]
  simp

end Courier.Json
