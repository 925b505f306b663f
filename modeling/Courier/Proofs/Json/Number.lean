import Courier.Proofs.Json.Record
import Courier.Proofs.Text.Digits

/-!
# Natural numbers come back

A natural number that has been written in JSON is read again as it was, if it is within the bound of
what is to be read.

* `takeDigits_printNatural`: the digits of a number are taken together with their value.
* `readNatural_printNatural`: reading a number that has been written.
-/

namespace Courier.Json

/-- A decimal digit as a byte. -/
def digitByte (d : Nat) : UInt8 := UInt8.ofNat (0x30 + d)

theorem digitByte_spec : ∀ d < 10,
    isDigit (digitByte d) = true ∧ digitValue (digitByte d) = d ∧ (digitByte d = 0x30 ↔ d = 0) ∧
      bytesOf (.ofList [Text.digitChar d]) = [digitByte d] := by
  decide +kernel

theorem bytesOf_ofList_append (cs cs' : List Char) :
    bytesOf (.ofList (cs ++ cs')) = bytesOf (.ofList cs) ++ bytesOf (.ofList cs') := by
  simp [bytesOf]

theorem printNatural_of_lt {n : Nat} (h : n < 10) : printNatural n = [digitByte n] := by
  rw [printNatural, Text.decimal_of_lt h]
  exact (digitByte_spec n h).2.2.2

/-- The digits of a number are those of its tenth part and one more. -/
theorem printNatural_of_le {n : Nat} (h : 10 ≤ n) :
    printNatural n = printNatural (n / 10) ++ [digitByte (n % 10)] := by
  rw [printNatural, Text.decimal_of_le h, bytesOf_ofList_append,
    (digitByte_spec (n % 10) (Nat.mod_lt _ (by decide))).2.2.2]
  rfl

/-- A number begins with a digit, which is a zero only if it is the number. -/
theorem exists_cons_printNatural (n : Nat) :
    ∃ d < 10, ∃ s, printNatural n = digitByte d :: s ∧ (d = 0 → n = 0 ∧ s = []) := by
  induction n using Nat.strong_induction_on with
  | _ n ih =>
    rcases Nat.lt_or_ge n 10 with h | h
    · exact ⟨n, h, [], printNatural_of_lt h, fun h0 => ⟨h0, rfl⟩⟩
    · obtain ⟨d, hd, s, hs, hzero⟩ := ih (n / 10) (by omega)
      refine ⟨d, hd, s ++ [digitByte (n % 10)], ?_, ?_⟩
      · rw [printNatural_of_le h, hs, List.cons_append]
      · intro h0
        have := (hzero h0).1
        omega

/-- The digits of a number within the bound are taken together with their value. -/
theorem takeDigits_printNatural {bound n : Nat} (h : n ≤ bound) (s : Bytes) :
    takeDigits bound 0 0 (printNatural n ++ s) =
      takeDigits bound n (printNatural n).length s := by
  induction n using Nat.strong_induction_on generalizing s with
  | _ n ih =>
    rcases Nat.lt_or_ge n 10 with hn | hn
    · obtain ⟨hdigit, hvalue, -⟩ := digitByte_spec n hn
      rw [printNatural_of_lt hn, List.singleton_append, takeDigits]
      simp [hdigit, hvalue, h]
    · obtain ⟨hdigit, hvalue, -⟩ := digitByte_spec (n % 10) (Nat.mod_lt _ (by decide))
      have hsum : n / 10 * 10 + n % 10 = n := Nat.div_add_mod' n 10
      rw [printNatural_of_le hn, List.append_assoc, ih (n / 10) (by omega) (by omega),
        List.singleton_append, takeDigits]
      simp [hdigit, hvalue, hsum, h]

/-! ### The end of a number -/

theorem IsEnd.not_isDigit {s : Bytes} (h : IsEnd s) : ∀ b ∈ s.head?, isDigit b = false := by
  intro b hb
  rcases h b hb with rfl | rfl | rfl <;> rfl

theorem IsEnd.takeDigits_eq {s : Bytes} (h : IsEnd s) (bound value count : Nat) :
    takeDigits bound value count s = (value, count, s) := by
  rcases s with - | ⟨b, s⟩
  · rfl
  · simp [takeDigits, h.not_isDigit b rfl]

theorem IsEnd.countDigits_eq {s : Bytes} (h : IsEnd s) : countDigits s = (0, s) := by
  rcases s with - | ⟨b, s⟩
  · rfl
  · simp [countDigits, h.not_isDigit b rfl]

/-- Neither a fraction nor an exponent begins at the end of a number. -/
theorem IsEnd.afterDigits_eq {s : Bytes} (h : IsEnd s) (value : Nat) :
    afterDigits true value 0 s = .ok (some value, s) := by
  rcases s with - | ⟨b, s⟩
  · rfl
  · rcases h b rfl with rfl | rfl | rfl <;> rfl

/-! ### Reading -/

theorem number_printNatural {n : Nat} (h : n ≤ greatestWord) {s : Bytes} (hs : IsEnd s) :
    number true (printNatural n ++ s) = .ok (some n, s) := by
  have htake : takeDigits greatestWord 0 0 (printNatural n ++ s) =
      (n, (printNatural n).length, s) := by
    rw [takeDigits_printNatural h, hs.takeDigits_eq]
  obtain ⟨d, hd, t, ht, hzero⟩ := exists_cons_printNatural n
  obtain ⟨hdigit, -, hzeroByte, -⟩ := digitByte_spec d hd
  rw [ht, List.cons_append] at htake ⊢
  rw [number.eq_def]
  dsimp only
  by_cases h0 : digitByte d = 0x30
  · -- A zero stands alone, and no digit follows it.
    obtain ⟨rfl, rfl⟩ := hzero (hzeroByte.1 h0)
    rw [if_pos h0, List.nil_append]
    rcases s with - | ⟨b, s⟩
    · exact hs.afterDigits_eq 0
    · simp only [hs.not_isDigit b rfl, Bool.false_eq_true, if_false]
      exact hs.afterDigits_eq 0
  · rw [if_neg h0, if_pos hdigit]
    simp only [htake, hs.countDigits_eq]
    exact hs.afterDigits_eq n

/-- Reading a number that has been written gives it back. -/
theorem readNatural_printNatural {bound n : Nat} (hb : n ≤ bound) (hw : n ≤ greatestWord)
    {s : Bytes} (hs : IsEnd s) : readNatural bound (printNatural n ++ s) = .ok (n, s) := by
  have hnumber := number_printNatural hw hs
  obtain ⟨d, hd, t, ht, -⟩ := exists_cons_printNatural n
  have hfront : ∀ d < 10, isSpace (digitByte d) = false ∧ digitByte d ≠ 0x2D := by decide +kernel
  have hne := (hfront d hd).2
  rw [ht, List.cons_append] at hnumber ⊢
  rw [readNatural, front?_cons (hfront d hd).1]
  simp only [(digitByte_spec d hd).1, or_true, if_true, ne_eq, hne, not_false_eq_true,
    decide_true, if_false, hnumber, hb]

/-- The greatest number of 32 bits. -/
example : printNatural 4294967295 = bytesOf "4294967295" := by decide +kernel

end Courier.Json
