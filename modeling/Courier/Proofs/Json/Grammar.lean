import Courier.Proofs.Json.Truncation
import Mathlib.Data.List.TakeWhile

/-!
# What JSON is

The grammar of JSON texts without white space between their words, marks, numbers and strings. It
says nothing of how a text is read. A value of any depth that is in the grammar is passed over,
inside any brackets, up to where its text ends.

* `IsStringRest`, `IsNumber`, `IsJson`: the grammar.
* `IsBreak`: where a word or a number ends.
* `skipNumber_append_eq`: what follows a break has no part in a number.
* `IsJson.skip`: what is in the grammar is passed over.
-/

namespace Courier.Json

/-! ### The grammar -/

/-- What follows the opening mark of a string, up to its closing one. -/
inductive IsStringRest : Bytes → Prop
  | closing : IsStringRest [0x22]
  | plain {b : UInt8} {s : Bytes} (h : 0x20 ≤ b) (hmark : b ≠ 0x22) (hescape : b ≠ 0x5C)
      (hs : IsStringRest s) : IsStringRest (b :: s)
  | escape {e : UInt8} {s : Bytes} (h : (escapedByte? e).isSome) (hs : IsStringRest s) :
      IsStringRest (0x5C :: e :: s)
  | unit {a b c d : UInt8} {s : Bytes} (h : (hexUnit? a b c d).isSome) (hs : IsStringRest s) :
      IsStringRest (0x5C :: 0x75 :: a :: b :: c :: d :: s)

/-- Digits, of which there is at least one. -/
def AreDigits (ds : Bytes) : Prop := ds ≠ [] ∧ ∀ d ∈ ds, isDigit d = true

/-- The digits of a number in front of its point, without a needless zero. -/
inductive IsWhole : Bytes → Prop
  | zero : IsWhole [0x30]
  | digits {ds : Bytes} (h : AreDigits ds) (hzero : ds.head? ≠ some 0x30) : IsWhole ds

/-- What there may be behind the point of a number, with the point. -/
inductive IsFraction : Bytes → Prop
  | none : IsFraction []
  | digits {ds : Bytes} (h : AreDigits ds) : IsFraction (0x2E :: ds)

/-- What there may be of an exponent, with its letter. -/
inductive IsExponent : Bytes → Prop
  | none : IsExponent []
  | digits {letter : UInt8} {sign ds : Bytes} (hletter : letter = 0x65 ∨ letter = 0x45)
      (hsign : sign = [] ∨ sign = [0x2B] ∨ sign = [0x2D]) (h : AreDigits ds) :
      IsExponent (letter :: (sign ++ ds))

/-- A number, with or without a minus. -/
inductive IsNumber : Bytes → Prop
  | unsigned {whole fraction exponent : Bytes} (hw : IsWhole whole) (hf : IsFraction fraction)
      (he : IsExponent exponent) : IsNumber (whole ++ (fraction ++ exponent))
  | minus {whole fraction exponent : Bytes} (hw : IsWhole whole) (hf : IsFraction fraction)
      (he : IsExponent exponent) : IsNumber (0x2D :: (whole ++ (fraction ++ exponent)))

/-- A member of an object, as what follows the opening mark of its name, and its value. -/
structure Member where
  name : Bytes
  value : Bytes

/-- The text of a member. -/
def Member.text (m : Member) : Bytes := 0x22 :: (m.name ++ 0x3A :: m.value)

/-- A JSON value. -/
inductive IsJson : Bytes → Prop
  | word {w : Bytes} (h : w = bytesOf "null" ∨ w = bytesOf "true" ∨ w = bytesOf "false") : IsJson w
  | number {w : Bytes} (h : IsNumber w) : IsJson w
  | string {s : Bytes} (h : IsStringRest s) : IsJson (0x22 :: s)
  | array {xs : List Bytes} (h : ∀ x ∈ xs, IsJson x) : IsJson (printArray xs)
  | object {ms : List Member} (hnames : ∀ m ∈ ms, IsStringRest m.name)
      (hvalues : ∀ m ∈ ms, IsJson m.value) : IsJson (printObject (ms.map Member.text))

/-! ### Breaks -/

/-- A byte that stands for itself between the words, numbers and strings of a text. -/
def isMark (b : UInt8) : Bool :=
  b == 0x5B || b == 0x5D || b == 0x7B || b == 0x7D || b == 0x2C || b == 0x3A

/-- A byte that may be part of a word or a number. -/
def isPlain (b : UInt8) : Bool := !isSpace b && !isMark b && b != 0x22

theorem eq_of_isPlain {b : UInt8} (h : isPlain b = true) :
    isSpace b = false ∧ isMark b = false ∧ b ≠ 0x22 := by
  simpa [isPlain, and_assoc] using h

/-- The end of a text, or a byte that ends a word and a number. -/
def IsBreak (s : Bytes) : Prop := ∀ b ∈ s.head?, isPlain b = false

theorem IsEnd.isBreak {s : Bytes} (h : IsEnd s) : IsBreak s := by
  intro b hb
  rcases h b hb with rfl | rfl | rfl
  · rfl
  · rfl
  · rfl

theorem isBreak_nil : IsBreak [] := fun _ hb => nomatch hb

theorem isBreak_cons {b : UInt8} (h : isPlain b = false) (s : Bytes) : IsBreak (b :: s) := by
  intro b' hb
  cases hb
  exact h

/-- The bytes that are not plain. -/
def unplain : List UInt8 :=
  [0x20, 0x0A, 0x0D, 0x09, 0x5B, 0x5D, 0x7B, 0x7D, 0x2C, 0x3A, 0x22]

theorem mem_unplain {b : UInt8} (h : isPlain b = false) : b ∈ unplain := by
  by_contra hb
  simp only [unplain, List.mem_cons, List.not_mem_nil, or_false, not_or] at hb
  simp [isPlain, isSpace, isMark, hb] at h

theorem of_isPlain_eq_false {b : UInt8} (p : UInt8 → Prop) [DecidablePred p]
    (hp : unplain.all (p ·) = true) (h : isPlain b = false) : p b :=
  of_decide_eq_true (List.all_eq_true.1 hp b (mem_unplain h))

theorem isPlain_of_isDigit {b : UInt8} (h : isDigit b = true) : isPlain b = true := by
  by_contra hplain
  have hdigit := of_isPlain_eq_false (isDigit · = false) rfl (Bool.eq_false_iff.2 hplain)
  cases h.symm.trans hdigit

/-! ### Numbers

What follows a break has no part in a number: a number is passed over, or is found to be none, as if
it stood alone. -/

section Number

theorem dropDigits_of_head? {s : Bytes} (h : ∀ b ∈ s.head?, isDigit b = false) :
    s.dropWhile isDigit = s := by
  rcases s with - | ⟨b, s⟩
  · rfl
  · exact List.dropWhile_cons_of_neg (Bool.eq_false_iff.1 (h b rfl))

theorem exponentSign_cons (b : UInt8) (s : Bytes) :
    (exponentSign (b :: s)).2 = if b = 0x2B ∨ b = 0x2D then s else b :: s := by
  rw [exponentSign.eq_def]
  split <;> simp_all

theorem skipOptionalExponent_cons (b : UInt8) (s : Bytes) :
    skipOptionalExponent (b :: s) =
      if b = 0x65 ∨ b = 0x45 then skipExponent s else .ok (b :: s) := by
  rw [skipOptionalExponent.eq_def]
  split <;> simp_all

theorem skipAfterDigits_cons {b : UInt8} (h : b ≠ 0x2E) (s : Bytes) :
    skipAfterDigits (b :: s) = skipOptionalExponent (b :: s) := by
  rw [skipAfterDigits.eq_def]
  split <;> simp_all

theorem skipNumber_cons (b : UInt8) (s : Bytes) :
    skipNumber (b :: s) =
      if b = 0x30 then if s.head?.any isDigit then .error .malformed else skipAfterDigits s
      else if isDigit b then skipAfterDigits (s.dropWhile isDigit) else .error .malformed := by
  rcases s with - | ⟨d, s⟩
  · rfl
  · rfl

variable {u w : Bytes} (hu : IsBreak u)

include hu

theorem IsBreak.not_isDigit {b : UInt8} (hb : u.head? = some b) : ¬ isDigit b = true := by
  intro hdigit
  have hplain := isPlain_of_isDigit hdigit
  rw [hu b hb] at hplain
  cases hplain

theorem IsBreak.dropDigits : (w ++ u).dropWhile isDigit = w.dropWhile isDigit ++ u := by
  have hdrop : u.dropWhile isDigit = u :=
    dropDigits_of_head? fun b hb => Bool.eq_false_iff.2 (hu.not_isDigit hb)
  rw [List.dropWhile_append]
  split
  next hempty => rw [hdrop, List.isEmpty_iff.1 hempty, List.nil_append]
  next => rfl

theorem IsBreak.any_head? : (w ++ u).head?.any isDigit = w.head?.any isDigit := by
  rcases w with - | ⟨d, w⟩
  · rw [List.nil_append, List.head?_nil, Option.any_none, Option.any_eq_false]
    exact fun d hd => Bool.eq_false_iff.2 (hu.not_isDigit hd)
  · rfl

theorem skipExponent_append_eq : skipExponent (w ++ u) = (skipExponent w).map (· ++ u) := by
  have hsign : (exponentSign (w ++ u)).2 = (exponentSign w).2 ++ u := by
    rcases w with - | ⟨b, w⟩
    · rcases u with - | ⟨b, u⟩
      · rfl
      · have hb := of_isPlain_eq_false (fun b => ¬ (b = 0x2B ∨ b = 0x2D)) rfl (hu b rfl)
        exact (exponentSign_cons _ _).trans (if_neg hb)
    · rw [List.cons_append, exponentSign_cons, exponentSign_cons]
      split
      · rfl
      · rfl
  rw [skipExponent, skipExponent, hsign]
  rcases (exponentSign w).2 with - | ⟨b, t⟩
  · rcases u with - | ⟨b, u⟩
    · rfl
    · exact if_neg (hu.not_isDigit rfl)
  · rw [List.cons_append]
    dsimp only
    rw [hu.dropDigits]
    split
    · rfl
    · rfl

theorem skipOptionalExponent_append_eq :
    skipOptionalExponent (w ++ u) = (skipOptionalExponent w).map (· ++ u) := by
  rcases w with - | ⟨b, w⟩
  · rcases u with - | ⟨b, u⟩
    · rfl
    · have hb := of_isPlain_eq_false (fun b => ¬ (b = 0x65 ∨ b = 0x45)) rfl (hu b rfl)
      exact (skipOptionalExponent_cons _ _).trans (if_neg hb)
  · rw [List.cons_append, skipOptionalExponent_cons, skipOptionalExponent_cons]
    split
    · exact skipExponent_append_eq hu
    · rfl

theorem skipAfterDigits_append_eq :
    skipAfterDigits (w ++ u) = (skipAfterDigits w).map (· ++ u) := by
  rcases w with - | ⟨b, w⟩
  · rcases u with - | ⟨b, u⟩
    · rfl
    · have hb := of_isPlain_eq_false (· ≠ 0x2E) rfl (hu b rfl)
      exact (skipAfterDigits_cons hb _).trans (skipOptionalExponent_append_eq (w := []) hu)
  by_cases hpoint : b = 0x2E
  · subst hpoint
    rcases w with - | ⟨d, w⟩
    · rcases u with - | ⟨d, u⟩
      · rfl
      · exact if_neg (hu.not_isDigit rfl)
    · rw [List.cons_append, List.cons_append, skipAfterDigits, skipAfterDigits, hu.dropDigits]
      split
      · exact skipOptionalExponent_append_eq hu
      · rfl
  · rw [List.cons_append, skipAfterDigits_cons hpoint, skipAfterDigits_cons hpoint]
    exact skipOptionalExponent_append_eq (w := b :: w) hu

theorem skipNumber_append_eq : skipNumber (w ++ u) = (skipNumber w).map (· ++ u) := by
  rcases w with - | ⟨b, w⟩
  · rcases u with - | ⟨b, u⟩
    · rfl
    · have hb := of_isPlain_eq_false (· ≠ 0x30) rfl (hu b rfl)
      rw [List.nil_append, skipNumber_cons, if_neg hb, if_neg (hu.not_isDigit rfl)]
      rfl
  rw [List.cons_append, skipNumber_cons, skipNumber_cons, hu.any_head?, hu.dropDigits,
    skipAfterDigits_append_eq hu, skipAfterDigits_append_eq hu]
  split_ifs
  · rfl
  · rfl
  · rfl
  · rfl

end Number

section Grammar

variable {ds whole fraction exponent : Bytes}

theorem AreDigits.exists_cons (h : AreDigits ds) :
    ∃ d t, ds = d :: t ∧ isDigit d = true ∧ t.dropWhile isDigit = [] := by
  obtain ⟨d, t, rfl⟩ := List.exists_cons_of_ne_nil h.1
  obtain ⟨hd, ht⟩ := List.forall_mem_cons.1 h.2
  exact ⟨d, t, rfl, hd, List.dropWhile_eq_nil_iff.2 ht⟩

/-- Behind digits stands no digit. -/
theorem IsFraction.head?_append (hf : IsFraction fraction) (he : IsExponent exponent) :
    ∀ b ∈ (fraction ++ exponent).head?, isDigit b = false := by
  cases hf with
  | none =>
    cases he with
    | none => exact fun b hb => nomatch hb
    | digits hletter =>
      rintro b ⟨⟩
      rcases hletter with rfl | rfl
      · rfl
      · rfl
  | digits =>
    rintro b ⟨⟩
    rfl

theorem IsExponent.skip (h : IsExponent exponent) : skipOptionalExponent exponent = .ok [] := by
  cases h with
  | none => rfl
  | @digits letter sign ds hletter hsign h =>
    obtain ⟨d, t, rfl, hd, ht⟩ := h.exists_cons
    have hne : ¬ (d = 0x2B ∨ d = 0x2D) := by
      rintro (rfl | rfl)
      · cases hd
      · cases hd
    have hdigits : (exponentSign (sign ++ d :: t)).2 = d :: t := by
      rcases hsign with rfl | rfl | rfl
      · exact (exponentSign_cons d t).trans (if_neg hne)
      · rfl
      · rfl
    rw [skipOptionalExponent_cons, if_pos hletter, skipExponent, hdigits]
    exact (if_pos hd).trans (by rw [ht])

theorem IsFraction.skip (hf : IsFraction fraction) (he : IsExponent exponent) :
    skipAfterDigits (fraction ++ exponent) = .ok [] := by
  cases hf with
  | none =>
    have hskip := he.skip
    cases he with
    | none => rfl
    | digits hletter =>
      refine (skipAfterDigits_cons ?_ _).trans hskip
      rcases hletter with rfl | rfl <;> decide
  | @digits ds h =>
    obtain ⟨d, t, rfl, hd, ht⟩ := h.exists_cons
    have hdrop : (t ++ exponent).dropWhile isDigit = exponent := by
      rw [List.dropWhile_append, ht, if_pos List.isEmpty_nil]
      exact dropDigits_of_head? (IsFraction.none.head?_append he)
    rw [List.cons_append, List.cons_append, skipAfterDigits, if_pos hd, hdrop]
    exact he.skip

theorem IsWhole.skip (hw : IsWhole whole) (hf : IsFraction fraction) (he : IsExponent exponent) :
    skipNumber (whole ++ (fraction ++ exponent)) = .ok [] := by
  have hafter := hf.skip he
  have hhead := hf.head?_append he
  cases hw with
  | zero =>
    have hhead : (fraction ++ exponent).head?.any isDigit = false :=
      (Option.any_eq_false _ _).2 hhead
    rw [List.singleton_append, skipNumber_cons, if_pos rfl, hhead]
    exact hafter
  | digits h hzero =>
    obtain ⟨d, t, rfl, hd, ht⟩ := h.exists_cons
    have hne : d ≠ 0x30 := fun heq => hzero (congrArg some heq)
    rw [List.cons_append, skipNumber_cons, if_neg hne, if_pos hd, List.dropWhile_append, ht,
      if_pos List.isEmpty_nil, dropDigits_of_head? hhead]
    exact hafter

theorem AreDigits.all_plain (h : AreDigits ds) : ∀ c ∈ ds, isPlain c = true :=
  fun c hc => isPlain_of_isDigit (h.2 c hc)

/-- No byte of a number ends it. -/
theorem IsNumber.all_plain {w : Bytes} (h : IsNumber w) : ∀ c ∈ w, isPlain c = true := by
  have hwhole : ∀ {whole}, IsWhole whole → ∀ c ∈ whole, isPlain c = true := by
    rintro whole (- | ⟨h, -⟩)
    · exact List.forall_mem_singleton.2 rfl
    · exact h.all_plain
  have hfraction : ∀ {fraction}, IsFraction fraction → ∀ c ∈ fraction, isPlain c = true := by
    rintro fraction (- | h)
    · exact fun c hc => nomatch hc
    · exact List.forall_mem_cons.2 ⟨rfl, h.all_plain⟩
  have hexponent : ∀ {exponent}, IsExponent exponent → ∀ c ∈ exponent, isPlain c = true := by
    rintro exponent (- | ⟨hletter, hsign, h⟩)
    · exact fun c hc => nomatch hc
    · refine List.forall_mem_cons.2 ⟨?_, List.forall_mem_append.2 ⟨?_, h.all_plain⟩⟩
      · rcases hletter with rfl | rfl <;> rfl
      · rcases hsign with rfl | rfl | rfl <;> exact List.all_eq_true.1 rfl
  cases h with
  | unsigned hw hf he =>
    exact List.forall_mem_append.2
      ⟨hwhole hw, List.forall_mem_append.2 ⟨hfraction hf, hexponent he⟩⟩
  | minus hw hf he =>
    exact List.forall_mem_cons.2 ⟨rfl, List.forall_mem_append.2
      ⟨hwhole hw, List.forall_mem_append.2 ⟨hfraction hf, hexponent he⟩⟩⟩

theorem skipScalar_of_isDigit {b : UInt8} (h : isDigit b = true) (s : Bytes) :
    skipScalar b s = skipNumber (b :: s) := by
  have hother : ∀ c : UInt8, isDigit c = false → b ≠ c := by
    rintro c hc rfl
    cases h.symm.trans hc
  rw [skipScalar, if_neg (hother _ rfl), if_neg (hother _ rfl), if_neg (hother _ rfl),
    if_neg (hother _ rfl), if_neg (hother _ rfl)]

theorem ofByte?_of_isPlain {b : UInt8} (h : isPlain b = true) : Bracket.ofByte? b = none := by
  obtain ⟨-, hmark, -⟩ := eq_of_isPlain h
  have hb : b ≠ 0x5B ∧ b ≠ 0x7B := by
    constructor <;> (rintro rfl; cases hmark)
  rw [Bracket.ofByte?, if_neg hb.1, if_neg hb.2]

/-- A number is passed over, up to a break. -/
theorem IsNumber.skipScalar {w u : Bytes} (h : IsNumber w) (hu : IsBreak u) :
    ∃ b t, w = b :: t ∧ isPlain b = true ∧ Json.skipScalar b (t ++ u) = .ok u := by
  cases h with
  | @unsigned whole fraction exponent hw hf he =>
    have hskip := hw.skip hf he
    obtain ⟨d, t, hdt, hd⟩ : ∃ d t, whole = d :: t ∧ isDigit d = true := by
      cases hw with
      | zero => exact ⟨0x30, [], rfl, rfl⟩
      | digits h =>
        obtain ⟨d, t, rfl, hd, -⟩ := h.exists_cons
        exact ⟨d, t, rfl, hd⟩
    subst hdt
    refine ⟨d, _, rfl, isPlain_of_isDigit hd, ?_⟩
    have hnumber : skipNumber (d :: (t ++ (fraction ++ exponent)) ++ u) = .ok u := by
      rw [skipNumber_append_eq hu, ← List.cons_append, hskip]
      rfl
    rw [skipScalar_of_isDigit hd]
    exact hnumber
  | @minus whole fraction exponent hw hf he =>
    have hnumber : skipNumber (whole ++ (fraction ++ exponent) ++ u) = .ok u := by
      rw [skipNumber_append_eq hu, hw.skip hf he]
      rfl
    exact ⟨_, _, rfl, rfl, hnumber⟩

end Grammar

/-! ### Values -/

theorem IsStringRest.skipString {s : Bytes} (h : IsStringRest s) (u : Bytes) :
    Json.skipString (s ++ u) = .ok u := by
  induction h with
  | closing => rfl
  | plain h hmark hescape hs ih =>
    exact (skipString_plain hmark hescape (UInt8.not_lt.2 h) _).trans ih
  | @escape e s h hs ih =>
    have hletter : e ≠ 0x75 := by
      rintro rfl
      cases h
    exact (skipString_escape hletter h _).trans ih
  | unit h hs ih => exact (skipString_unit h _).trans ih

/-- The byte that opens a bracket. -/
def Bracket.opening : Bracket → UInt8
  | .array => 0x5B
  | .object => 0x7B

theorem Bracket.ofByte?_opening (bracket : Bracket) : ofByte? bracket.opening = some bracket := by
  rcases bracket with - | -
  · rfl
  · rfl

/-- A piece of an array or an object: an element, or a member with its name. It does not begin like
    the end of the array or the object, and it is passed over. -/
structure IsPiece (bracket : Bracket) (piece : Bytes) : Prop where
  front : ∃ b s, piece = b :: s ∧ isSpace b = false ∧ b ≠ bracket.closing
  skip : ∀ stack u, IsBreak u →
    (skipName bracket (piece ++ u) >>= Json.skip .before (bracket :: stack)) =
      Json.skip .after (bracket :: stack) u

section Pieces

variable {bracket : Bracket} {pieces : List Bytes} (stack : List Bracket) (u : Bytes)

theorem isBreak_pieces : IsBreak (pieces.flatMap (0x2C :: ·) ++ bracket.closing :: u) :=
  (isEnd_flatMap pieces (isEnd_closing bracket u)).isBreak

theorem isSpace_closing (bracket : Bracket) : isSpace bracket.closing = false := by
  rcases bracket with - | -
  · rfl
  · rfl

/-- Pieces are passed over one after the other, with the bracket behind them. -/
theorem skip_pieces (h : ∀ piece ∈ pieces, IsPiece bracket piece) :
    skip .after (bracket :: stack) (pieces.flatMap (0x2C :: ·) ++ bracket.closing :: u) =
      skip .after stack u := by
  induction pieces with
  | nil => exact skip_closing (front?_cons (isSpace_closing bracket) u)
  | cons piece pieces ih =>
    obtain ⟨hpiece, hpieces⟩ := List.forall_mem_cons.1 h
    rw [List.flatMap_cons, List.append_assoc, List.cons_append, skip_after (front?_cons rfl _),
      if_neg (comma_ne_closing bracket), if_pos rfl, hpiece.skip _ _ (isBreak_pieces u)]
    exact ih hpieces

/-- An array or an object is passed over. -/
theorem skip_brackets (h : ∀ piece ∈ pieces, IsPiece bracket piece) :
    skip .before stack (bracket.opening :: (joinByComma pieces ++ bracket.closing :: u)) =
      skip .after stack u := by
  have hopening : isSpace bracket.opening = false := by
    rcases bracket with - | -
    · rfl
    · rfl
  rw [skip_bracket (front?_cons hopening _) bracket.ofByte?_opening]
  rcases pieces with - | ⟨piece, pieces⟩
  · rw [joinByComma, List.nil_append, skipOpening, front?_cons (isSpace_closing bracket)]
    dsimp only
    rw [if_pos rfl]
    rfl
  · -- The first piece is found behind the bracket, and the others are passed over after it.
    obtain ⟨hpiece, hpieces⟩ := List.forall_mem_cons.1 h
    obtain ⟨b, s, hbs, hspace, hne⟩ := hpiece.front
    have hbreak : IsBreak (pieces.flatMap (0x2C :: ·) ++ bracket.closing :: u) := isBreak_pieces u
    have hskip := hpiece.skip stack _ hbreak
    rw [skip_pieces stack u hpieces] at hskip
    rw [joinByComma_cons, List.append_assoc]
    generalize pieces.flatMap (0x2C :: ·) ++ bracket.closing :: u = rest at hskip ⊢
    have hfront : front? (piece ++ rest) = some (b, s ++ rest) := by
      rw [hbs, List.cons_append, front?_cons hspace]
    rw [skipOpening, hfront]
    dsimp only
    rw [if_neg hne, ← hskip]
    rcases skipName bracket (piece ++ rest) with fault | t
    · rfl
    · rfl

end Pieces

/-- A value begins with a byte that is neither white space nor ends an array. -/
theorem IsJson.front {x : Bytes} (h : IsJson x) :
    ∃ b s, x = b :: s ∧ isSpace b = false ∧ b ≠ 0x5D := by
  cases h with
  | word h => rcases h with rfl | rfl | rfl <;> exact ⟨_, _, rfl, rfl, by decide⟩
  | number h =>
    obtain ⟨b, s, rfl, hb, -⟩ := h.skipScalar isBreak_nil
    refine ⟨b, s, rfl, (eq_of_isPlain hb).1, ?_⟩
    rintro rfl
    cases hb
  | string h => exact ⟨_, _, rfl, rfl, by decide⟩
  | array h => exact ⟨_, _, rfl, rfl, by decide⟩
  | object hnames hvalues => exact ⟨_, _, rfl, rfl, by decide⟩

/-- A value is passed over inside any brackets. -/
theorem IsJson.skip {x u : Bytes} (h : IsJson x) (hu : IsBreak u) (stack : List Bracket) :
    Json.skip .before stack (x ++ u) = Json.skip .after stack u := by
  induction h generalizing u stack with
  | word h =>
    rcases h with rfl | rfl | rfl
    · exact skip_scalar (front?_cons rfl _) rfl rfl
    · exact skip_scalar (front?_cons rfl _) rfl rfl
    · exact skip_scalar (front?_cons rfl _) rfl rfl
  | number h =>
    obtain ⟨b, t, rfl, hb, hskip⟩ := h.skipScalar hu
    exact skip_scalar (front?_cons (eq_of_isPlain hb).1 _) (ofByte?_of_isPlain hb) hskip
  | string h => exact skip_scalar (front?_cons rfl _) rfl (h.skipString u)
  | @array xs h ih =>
    have hpieces : ∀ x ∈ xs, IsPiece .array x := fun x hx =>
      ⟨(h x hx).front, fun stack u hu => ih x hx hu (.array :: stack)⟩
    rw [printArray, List.append_assoc]
    exact skip_brackets stack u hpieces
  | @object ms hnames hvalues ih =>
    have hpieces : ∀ piece ∈ ms.map Member.text, IsPiece .object piece := by
      intro piece hpiece
      obtain ⟨m, hm, rfl⟩ := List.mem_map.1 hpiece
      refine ⟨⟨_, _, rfl, rfl, by decide⟩, fun stack u hu => ?_⟩
      have hname : skipName .object (m.text ++ u) = .ok (m.value ++ u) := by
        have hstring := (hnames m hm).skipString (0x3A :: (m.value ++ u))
        rw [Member.text, List.cons_append, List.append_assoc, List.cons_append, skipName,
          front?_cons rfl]
        dsimp only
        rw [if_pos rfl, hstring, ok_bind, skipColon, front?_cons rfl]
        rfl
      rw [hname]
      exact ih m hm hu (.object :: stack)
    rw [printObject, List.append_assoc]
    exact skip_brackets stack u hpieces

end Courier.Json
