import Courier.Uuid
import Mathlib.Data.Nat.ModEq

/-!
# Identifiers come back

An identifier that has been written is read again as it was, and the identifiers of the growing
sequence are different as long as it does not come round.

* `Text.hexValue?_hexOf`: reading digits that have been written.
* `Uuid.ofText?_text`: reading an identifier that has been written.
* `Uuid.nth_injective`: different indices give different identifiers.
-/

namespace Courier

namespace Text

theorem hexDigitValue?_digitChar : ∀ d < 16, hexDigitValue? (digitChar d) = some d := by
  decide +kernel

theorem length_hexOf (width n : Nat) : (hexOf width n).length = width := by
  induction width generalizing n with
  | zero => rfl
  | succ width ih => rw [hexOf, List.length_append, ih, List.length_singleton]

theorem hexValue?_append (value : Nat) (cs cs' : List Char) :
    hexValue? value (cs ++ cs') = (hexValue? value cs).bind fun v => hexValue? v cs' := by
  induction cs generalizing value with
  | nil => rfl
  | cons c cs ih =>
    rw [List.cons_append, hexValue?, hexValue?]
    cases hexDigitValue? c with
    | none => rfl
    | some d => exact ih _

/-- Reading digits that have been written gives the number up to its width. -/
theorem hexValue?_hexOf (width n : Nat) : hexValue? 0 (hexOf width n) = some (n % 16 ^ width) := by
  induction width generalizing n with
  | zero => simp [hexOf, hexValue?, Nat.mod_one]
  | succ width ih =>
    have hd := hexDigitValue?_digitChar (n % 16) (Nat.mod_lt _ (by decide))
    rw [hexOf, hexValue?_append, ih]
    simp only [Option.bind_some, hexValue?, hd]
    -- The last digit is the remainder, and the digits before it are those of the quotient.
    rw [Nat.pow_succ, Nat.mul_comm (16 ^ width), Nat.mod_mul, Nat.mul_comm, Nat.add_comm]

theorem hexOf_ne_urn {width n : Nat} : ∀ c ∈ hexOf width n, c.toLower ≠ 'u' := by
  induction width generalizing n with
  | zero => exact fun _ hc => absurd hc List.not_mem_nil
  | succ width ih =>
    intro c hc
    rcases List.mem_append.1 hc with hc | hc
    · exact ih c hc
    · rw [List.mem_singleton.1 hc]
      have hdigit : ∀ d < 16, (digitChar d).toLower ≠ 'u' := by decide +kernel
      exact hdigit _ (Nat.mod_lt _ (by decide))

end Text

namespace Uuid

theorem length_digits (id : Uuid) : id.digits.length = 32 := Text.length_hexOf 32 id.value

theorem ofNat_value (id : Uuid) : ofNat id.value = id := by
  obtain ⟨value, h⟩ := id
  simp only [ofNat, Nat.mod_eq_of_lt h]

theorem ofDigits?_digits (id : Uuid) : ofDigits? id.digits = some id := by
  rw [ofDigits?, if_pos id.length_digits, digits, Text.hexValue?_hexOf, Option.map_some,
    show 16 ^ 32 = size from rfl, Nat.mod_eq_of_lt id.value_lt, ofNat_value]

/-- The digits are written in their groups. -/
theorem exists_groups (id : Uuid) : ∃ a b c d e : List Char,
    (a.length = 8 ∧ b.length = 4 ∧ c.length = 4 ∧ d.length = 4 ∧ e.length = 12) ∧
      id.digits = a ++ (b ++ (c ++ (d ++ e))) ∧
      id.chars = a ++ '-' :: (b ++ '-' :: (c ++ '-' :: (d ++ '-' :: e))) := by
  have hl := id.length_digits
  have hcut (n m : Nat) :
      id.digits.drop n = (id.digits.drop n).take m ++ id.digits.drop (n + m) := by
    rw [← List.drop_drop, List.take_append_drop]
  refine ⟨id.digits.take 8, (id.digits.drop 8).take 4, (id.digits.drop 12).take 4,
    (id.digits.drop 16).take 4, (id.digits.drop 20).take 12, by simp [hl], ?_, ?_⟩
  · rw [List.take_of_length_le (l := id.digits.drop 20) (by simp [hl]), ← hcut 16, ← hcut 12,
      ← hcut 8, List.take_append_drop]
  · simp [chars, hyphenated, groups, widths]

theorem unhyphenated?_chars (id : Uuid) : unhyphenated? id.chars = some id.digits := by
  obtain ⟨a, b, c, d, e, ⟨ha, hb, hc, hd, he⟩, hdigits, hchars⟩ := id.exists_groups
  rw [hdigits, hchars]
  have hdrop {n : Nat} {l : List Char} (h : l.length ≤ n) : l.drop n = [] :=
    List.drop_eq_nil_of_le h
  simp [unhyphenated?, List.getElem?_append, List.drop_append, ha, hb, hc, hd,
    he, hdrop]

theorem length_chars (id : Uuid) : id.chars.length = 36 := by
  obtain ⟨a, b, c, d, e, ⟨ha, hb, hc, hd, he⟩, -, hchars⟩ := id.exists_groups
  simp [hchars, ha, hb, hc, hd, he]

/-- No digit is a letter of the mark of a name. -/
theorem take_ne_urn (id : Uuid) : (id.chars.take 9).map Char.toLower ≠ urn := by
  obtain ⟨a, b, c, d, e, ⟨ha, -⟩, hdigits, hchars⟩ := id.exists_groups
  obtain ⟨x, a, rfl⟩ := List.exists_cons_of_length_eq_add_one ha
  have hx : x ∈ Text.hexOf 32 id.value := by
    rw [← digits, hdigits]
    exact List.mem_cons_self
  rw [hchars]
  intro h
  exact Text.hexOf_ne_urn x hx (List.cons.inj h).1

/-- Reading an identifier that has been written gives it back. -/
theorem ofText?_text (id : Uuid) : ofText? id.text = some id := by
  rw [ofText?, text, String.toList_ofList, ofChars?, if_neg id.take_ne_urn, length_chars]
  simp [unhyphenated?_chars, ofDigits?_digits]

/-- Different indices give different identifiers, until the sequence comes round. -/
theorem nth_injective {i j : Nat} (hi : i < size) (hj : j < size) (h : nth i = nth j) : i = j := by
  have h : _ % size = _ % size := congrArg value h
  exact Nat.ModEq.eq_of_lt_of_lt (Nat.ModEq.add_left_cancel' _ h) hi hj

end Uuid

end Courier
