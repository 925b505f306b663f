import Courier.Time.TimeOfDay
import Mathlib.Algebra.Order.Ring.Nat
import Mathlib.Data.List.TakeWhile

/-!
# Decimal digits come back

A number that has been written in decimal digits is read again as it was, with or without zeros in
front, as long as what follows it does not begin with a digit.

* `Text.number?_padded`: reading a number that has been written.
* `Text.twoDigits?_padded`: reading a number that has been written in two digits.
* `Text.unsigned?_eq_ok_iff`: which texts say a bounded number.
-/

namespace Courier.Text

theorem digitValue?_digitChar : ∀ d < 10, digitValue? (digitChar d) = some d := by decide +kernel

theorem isBlank_digitChar : ∀ d < 10, isBlank (digitChar d) = false := by decide +kernel

/-- The digits of a number are those of its tenth part and one more. -/
theorem decimal_of_le {n : Nat} (h : 10 ≤ n) :
    decimal n = decimal (n / 10) ++ [digitChar (n % 10)] := by
  rw [decimal, if_neg (Nat.not_lt.2 h)]

theorem decimal_of_lt {n : Nat} (h : n < 10) : decimal n = [digitChar n] := by
  rw [decimal, if_pos h]

theorem decimal_ne_nil (n : Nat) : decimal n ≠ [] := by
  rcases Nat.lt_or_ge n 10 with h | h
  · simp [decimal_of_lt h]
  · simp [decimal_of_le h]

theorem exists_digitChar_of_mem_decimal {n : Nat} {c : Char} (h : c ∈ decimal n) :
    ∃ d < 10, c = digitChar d := by
  induction n using Nat.strong_induction_on with
  | _ n ih =>
    rcases Nat.lt_or_ge n 10 with hn | hn
    · rw [decimal_of_lt hn, List.mem_singleton] at h
      exact ⟨n, hn, h⟩
    · rw [decimal_of_le hn, List.mem_append, List.mem_singleton] at h
      rcases h with h | h
      · exact ih (n / 10) (by omega) h
      · exact ⟨n % 10, Nat.mod_lt _ (by decide), h⟩

theorem length_decimal_le {width n : Nat} (hw : 0 < width) (h : n < 10 ^ width) :
    (decimal n).length ≤ width := by
  induction width generalizing n with
  | zero => exact absurd hw (Nat.lt_irrefl 0)
  | succ width ih =>
    rcases Nat.lt_or_ge n 10 with hn | hn
    · rw [decimal_of_lt hn, List.length_singleton]
      omega
    · rw [decimal_of_le hn, List.length_append, List.length_singleton]
      rw [Nat.pow_succ] at h
      have hwidth : 0 < width := by
        rcases Nat.eq_zero_or_pos width with rfl | hpos
        · omega
        · exact hpos
      exact Nat.succ_le_succ (ih hwidth (by omega))

/-! ### Digits with zeros in front -/

theorem padded_ne_nil (width n : Nat) : padded width n ≠ [] := by
  simp [padded, decimal_ne_nil]

theorem length_padded {width n : Nat} (hw : 0 < width) (h : n < 10 ^ width) :
    (padded width n).length = width := by
  have := length_decimal_le hw h
  simp only [padded, List.length_append, List.length_replicate]
  omega

theorem exists_digitChar_of_mem_padded {width n : Nat} {c : Char} (h : c ∈ padded width n) :
    ∃ d < 10, c = digitChar d := by
  rcases List.mem_append.1 h with h | h
  · exact ⟨0, by decide, List.eq_of_mem_replicate h⟩
  · exact exists_digitChar_of_mem_decimal h

/-- No blank is passed over where a number begins. -/
theorem trimStart_padded (width n : Nat) (rest : List Char) :
    trimStart (padded width n ++ rest) = padded width n ++ rest := by
  obtain ⟨c, cs, hc⟩ := List.exists_cons_of_ne_nil (padded_ne_nil width n)
  obtain ⟨d, hd, rfl⟩ := exists_digitChar_of_mem_padded (hc ▸ List.mem_cons_self)
  rw [hc, List.cons_append, trimStart, List.dropWhile_cons_of_neg]
  simp [isBlank_digitChar d hd]

/-- The value of digits that are read one after the other. -/
def valueOf (cs : List Char) : Nat := cs.foldl (fun n c => n * 10 + (digitValue? c).getD 0) 0

theorem valueOf_decimal (n : Nat) : valueOf (decimal n) = n := by
  induction n using Nat.strong_induction_on with
  | _ n ih =>
    rcases Nat.lt_or_ge n 10 with h | h
    · simp [decimal_of_lt h, valueOf, digitValue?_digitChar n h]
    · have ih := ih (n / 10) (by omega)
      have hd := digitValue?_digitChar (n % 10) (Nat.mod_lt _ (by decide))
      rw [valueOf] at ih
      rw [decimal_of_le h, valueOf, List.foldl_append, ih]
      simp only [List.foldl_cons, List.foldl_nil, hd, Option.getD_some]
      omega

theorem valueOf_padded (width n : Nat) : valueOf (padded width n) = n := by
  have hzeros (k : Nat) : valueOf (List.replicate k '0') = 0 := by
    induction k with
    | zero => rfl
    | succ k ih => exact ih
  have h := hzeros (width - (decimal n).length)
  rw [valueOf] at h
  rw [padded, valueOf, List.foldl_append, h]
  exact valueOf_decimal n

/-! ### Reading -/

/-- No digit stands in front. -/
def IsDigitless (cs : List Char) : Prop := ∀ c ∈ cs.head?, digitValue? c = none

/-- A number that has been written is read up to the end of its digits. -/
theorem number?_padded {most width n : Nat} {rest : List Char}
    (hlen : (padded width n).length ≤ most) (hrest : IsDigitless rest) :
    number? most (padded width n ++ rest) = some (n, rest) := by
  have hdigits : ∀ c ∈ padded width n, (digitValue? c).isSome = true := by
    intro c hc
    obtain ⟨d, hd, rfl⟩ := exists_digitChar_of_mem_padded hc
    rw [digitValue?_digitChar d hd]
    rfl
  have hnone : (rest.take (most - (padded width n).length)).takeWhile
      (fun c => (digitValue? c).isSome) = [] := by
    rcases rest with - | ⟨c, rest⟩
    · simp
    · rcases most - (padded width n).length with - | k
      · rfl
      · rw [List.take_succ_cons, List.takeWhile_cons_of_neg]
        simp [hrest c rfl]
  have hfound : ((padded width n ++ rest).take most).takeWhile
      (fun c => (digitValue? c).isSome) = padded width n := by
    rw [List.take_append, List.take_of_length_le hlen, List.takeWhile_append_of_pos hdigits, hnone,
      List.append_nil]
  rw [number?, hfound]
  have hne := padded_ne_nil width n
  have hvalue := valueOf_padded width n
  rw [valueOf] at hvalue
  simp [hne, hvalue]

theorem twoDigits?_padded {n : Nat} {rest : List Char} (h : n < 100) (hrest : IsDigitless rest) :
    twoDigits? (padded 2 n ++ rest) = some (n, rest) := by
  rw [twoDigits?, trimStart_padded]
  exact number?_padded (Nat.le_of_eq (length_padded (by decide) h)) hrest

/-! ### Bounded numbers -/

/-- Digits that say a number. There is at least one of them. -/
structure SaysNumber (digits : List Char) (n : Nat) : Prop where
  ne_nil : digits ≠ []
  isDigit : ∀ c ∈ digits, c.isDigit
  eq_valueOf : n = valueOf digits

theorem digitValue?_isSome (c : Char) : (digitValue? c).isSome = c.isDigit := by
  rw [Bool.eq_iff_iff, digitValue?, Char.isDigit, Bool.and_eq_true, decide_eq_true_iff,
    decide_eq_true_iff]
  change _ ↔ '0' ≤ c ∧ c ≤ '9'
  split
  next h => exact iff_of_true rfl h
  next h => exact iff_of_false Bool.false_ne_true h

/-- A number only grows when more of its digits are read. -/
theorem le_foldl_digits (value : Nat) (cs : List Char) :
    value ≤ cs.foldl (fun n c => n * 10 + (digitValue? c).getD 0) value := by
  induction cs generalizing value with
  | nil => exact Nat.le_refl _
  | cons c cs ih =>
    have hle : value ≤ value * 10 + (digitValue? c).getD 0 := by omega
    exact Nat.le_trans hle (ih _)

theorem unsignedFrom_eq_ok_iff {bound value n : Nat} {cs : List Char} (h : value ≤ bound) :
    unsignedFrom bound value cs = .ok n ↔ (∀ c ∈ cs, c.isDigit) ∧
      n = cs.foldl (fun n c => n * 10 + (digitValue? c).getD 0) value ∧ n ≤ bound := by
  induction cs generalizing value with
  | nil =>
    rw [unsignedFrom, Except.ok.injEq, List.foldl_nil]
    exact ⟨fun heq => ⟨nofun, heq.symm, heq ▸ h⟩, fun heq => heq.2.1.symm⟩
  | cons c cs ih =>
    have hdigit := digitValue?_isSome c
    rw [unsignedFrom, List.forall_mem_cons, List.foldl_cons, ← hdigit]
    cases hc : digitValue? c with
    | none => exact iff_of_false nofun fun hall => Bool.false_ne_true hall.1.1
    | some d =>
      have hle := le_foldl_digits (value * 10 + d) cs
      dsimp only [Option.getD_some]
      split
      next hlt =>
        -- What is too large already stays so, whatever digits follow.
        refine iff_of_false nofun fun hall => ?_
        have := hall.2.1
        have := hall.2.2
        omega
      next hlt =>
        rw [ih (Nat.le_of_not_lt hlt)]
        simp

/-- A text is read as a bounded number exactly if it says one in digits, after an optional plus. -/
theorem unsigned?_eq_ok_iff {bound n : Nat} {text : String} :
    unsigned? bound text = .ok n ↔ ∃ digits, (text.toList = digits ∨ text.toList = '+' :: digits) ∧
      SaysNumber digits n ∧ n ≤ bound := by
  have hplus (digits : List Char) : ¬SaysNumber ('+' :: digits) n := fun h =>
    Bool.false_ne_true (h.isDigit '+' List.mem_cons_self)
  have hfrom (cs : List Char) (hne : cs ≠ []) :
      unsignedFrom bound 0 cs = .ok n ↔ SaysNumber cs n ∧ n ≤ bound := by
    rw [unsignedFrom_eq_ok_iff bound.zero_le]
    exact ⟨fun h => ⟨⟨hne, h.1, h.2.1⟩, h.2.2⟩, fun h => ⟨h.1.isDigit, h.1.eq_valueOf, h.2⟩⟩
  rw [unsigned?]
  split
  next heq =>
    refine iff_of_false nofun ?_
    rintro ⟨digits, hdigits | hdigits, hsays, -⟩
    · exact hsays.ne_nil (hdigits.symm.trans heq)
    · cases heq.symm.trans hdigits
  next heq =>
    refine iff_of_false nofun ?_
    rintro ⟨digits, hdigits | hdigits, hsays, -⟩
    · exact hplus [] (hdigits.symm.trans heq ▸ hsays)
    · cases heq.symm.trans hdigits
      exact hsays.ne_nil rfl
  next cs hne heq =>
    rw [hfrom cs (by rintro rfl; exact hne rfl), heq]
    constructor
    · exact fun h => ⟨cs, .inr rfl, h⟩
    · rintro ⟨digits, hdigits | hdigits, h⟩
      · exact absurd (hdigits ▸ h.1) (hplus cs)
      · cases hdigits
        exact h
  next cs hne hsingle hnot =>
    rw [hfrom _ hne]
    constructor
    · exact fun h => ⟨_, .inl rfl, h⟩
    · rintro ⟨digits, hdigits | hdigits, h⟩
      · exact hdigits ▸ h
      · exact absurd hdigits (hnot digits)

end Courier.Text
