import Courier.Proofs.Json.Codec
import Courier.Proofs.Json.Grammar

/-!
# All that is read can be passed over

Values of every type that is read from JSON can be passed over, with the same bytes remaining. Of a
natural number only the digits are read, whatever follows them that is part of no number.

* `skipNumber_of_number`: what is read of a natural number.
* `PassesOver`: numbers, flags, bytes, maps of texts and named values.
* `PassesOver.exists_front`: where something is read, there is a first byte.
-/

namespace Courier.Json

/-! ### What remains -/

section Skip

variable {place : Place} {stack : List Bracket} {bracket : Bracket} {s t u rest : Bytes} {b : UInt8}

theorem skip_length_le (h : skip place stack s = .ok rest) : rest.length ≤ s.length := by
  fun_induction skip place stack s
  case case1 =>
    cases h
    exact Nat.le_refl _
  case case3 s bracket stack t hfront ih =>
    exact Nat.le_trans (ih h) (Nat.le_of_lt (front?_length_lt hfront))
  case case5 s bracket stack t u hname hfront _ ih =>
    have hlt := front?_length_lt hfront
    exact Nat.le_trans (ih h) (Nat.le_trans (skipName_length_le hname) (Nat.le_of_lt hlt))
  case case9 s stack b t hfront bracket hb u hopening ih =>
    have hlt := front?_length_lt hfront
    exact Nat.le_trans (ih h) (Nat.le_trans (skipOpening_length_le hopening) (Nat.le_of_lt hlt))
  case case10 s stack b t hfront bracket hb u hopening ih =>
    have hlt := front?_length_lt hfront
    exact Nat.le_trans (ih h) (Nat.le_trans (skipOpening_length_le hopening) (Nat.le_of_lt hlt))
  case case12 s stack b t hfront hb u hscalar ih =>
    have hlt := front?_length_lt hfront
    exact Nat.le_trans (ih h) (Nat.le_trans (skipScalar_length_le hscalar) (Nat.le_of_lt hlt))
  all_goals cases h

/-- A value that is passed over has a first byte. -/
theorem exists_front_of_skip (h : skip .before stack s = .ok rest) :
    ∃ b t, front? s = some (b, t) ∧ rest.length ≤ t.length := by
  rw [skip] at h
  split at h
  next => cases h
  next b t hfront =>
    refine ⟨b, t, hfront, ?_⟩
    split at h
    next =>
      split at h
      next => cases h
      next hopening => exact Nat.le_trans (skip_length_le h) (skipOpening_length_le hopening)
      next hopening => exact Nat.le_trans (skip_length_le h) (skipOpening_length_le hopening)
    next =>
      split at h
      next => cases h
      next hscalar => exact Nat.le_trans (skip_length_le h) (skipScalar_length_le hscalar)

/-- A value is passed over inside brackets as it is outside them. -/
theorem skip_inside (h : skipValue s = .ok rest) (stack : List Bracket) :
    skip .before stack s = skip .after stack rest :=
  skip_frame h stack

/-- What happens at the front of a word, a number or a string. -/
theorem skip_eq_skipScalar (hfront : front? s = some (b, t)) (hb : Bracket.ofByte? b = none) :
    skip .before stack s = skipScalar b t >>= skip .after stack := by
  rw [skip]
  split
  next hnone => cases hfront.symm.trans hnone
  next hsome =>
    cases hfront.symm.trans hsome
    simp only [hb]
    rcases skipScalar b t with fault | rest
    · rfl
    · rfl

theorem isSpace_of_front? (h : front? s = some (b, t)) : isSpace b = false := by
  rw [front?] at h
  split at h
  next => cases h
  next hs =>
    cases h
    have hhead := List.head?_dropWhile_not isSpace s
    rw [skipSpace] at hs
    rw [hs] at hhead
    simpa using hhead

/-- A run over a value begins where its first byte is. -/
theorem skip_front (hfront : front? s = some (b, t)) :
    skip .before stack (b :: t) = skip .before stack s := by
  have hfront' : front? (b :: t) = some (b, t) := front?_cons (isSpace_of_front? hfront) t
  rcases hb : Bracket.ofByte? b with - | bracket
  · rw [skip_eq_skipScalar hfront hb, skip_eq_skipScalar hfront' hb]
  · rw [skip_bracket hfront hb, skip_bracket hfront' hb]

end Skip

/-! ### Natural numbers -/

/-- What does not go on with a fraction or an exponent. -/
def EndsNatural (s : Bytes) : Prop := ∀ b ∈ s.head?, b ≠ 0x2E ∧ b ≠ 0x65 ∧ b ≠ 0x45

section Number

variable {isPositive : Bool} {value dropped n : Nat} {exponent : Int} {s rest : Bytes} {b : UInt8}

theorem endNumber_ne_some : endNumber value exponent s ≠ .ok (some n, rest) := by
  rw [endNumber]
  split <;> exact nofun

theorem exponentPart_ne_some : exponentPart value exponent s ≠ .ok (some n, rest) := by
  rw [exponentPart]
  rcases exponentSign s with ⟨isNegative, - | ⟨b, t⟩⟩
  · exact nofun
  · intro h
    dsimp only at h
    split at h
    next => cases h
    next =>
      split at h
      next => exact endNumber_ne_some h
      next => split at h <;> cases h

theorem exponentOrEnd_ne_some : exponentOrEnd value exponent s ≠ .ok (some n, rest) := by
  rw [exponentOrEnd.eq_def]
  split
  next => exact exponentPart_ne_some
  next => exact exponentPart_ne_some
  next => exact endNumber_ne_some

theorem fractionPart_ne_some : fractionPart value exponent s ≠ .ok (some n, rest) := by
  rcases s with - | ⟨b, s⟩
  · exact nofun
  · intro h
    rw [fractionPart.eq_def] at h
    dsimp only at h
    split at h
    next => cases h
    next => exact exponentOrEnd_ne_some h

theorem afterDigits_of_endsNatural (h : EndsNatural s) :
    afterDigits isPositive value dropped s =
      if dropped = 0 then .ok (if isPositive then some value else none, s)
      else endNumber value dropped s := by
  rw [afterDigits.eq_def]
  split
  next => exact absurd rfl (h _ rfl).1
  next => exact absurd rfl (h _ rfl).2.1
  next => exact absurd rfl (h _ rfl).2.2
  next => rfl

theorem afterDigits_eq_some
    (h : afterDigits isPositive value dropped s = .ok (some n, rest)) :
    isPositive = true ∧ dropped = 0 ∧ n = value ∧ rest = s ∧ EndsNatural s := by
  -- Of a number with a fraction or an exponent no natural number is made.
  have hends : EndsNatural s := by
    rw [afterDigits.eq_def] at h
    split at h
    next => exact absurd h fractionPart_ne_some
    next => exact absurd h exponentPart_ne_some
    next => exact absurd h exponentPart_ne_some
    next hpoint hsmall hcapital =>
      rintro b hb
      obtain ⟨t, rfl⟩ := List.head?_eq_some_iff.1 hb
      exact ⟨fun hb => hpoint t (hb ▸ rfl), fun hb => hsmall t (hb ▸ rfl),
        fun hb => hcapital t (hb ▸ rfl)⟩
  rw [afterDigits_of_endsNatural hends] at h
  split at h
  next hdropped =>
    split at h
    next hpositive =>
      cases h
      exact ⟨hpositive, hdropped, rfl, rfl, hends⟩
    next => cases h
  next => exact absurd h endNumber_ne_some

/-- The digits that are taken of a number are passed over with those behind them. -/
theorem dropDigits_takeDigits (bound value count : Nat) (s : Bytes) :
    (takeDigits bound value count s).2.2.dropWhile isDigit = s.dropWhile isDigit := by
  fun_induction takeDigits bound value count s with
  | case1 => rfl
  | case2 value count b s h ih =>
    rw [Bool.and_eq_true] at h
    rw [ih, List.dropWhile_cons_of_pos h.1]
  | case3 => rfl

theorem number_cons (isPositive : Bool) (b : UInt8) (s : Bytes) :
    number isPositive (b :: s) =
      if b = 0x30 then
        if s.head?.any isDigit then .error .malformed else afterDigits isPositive 0 0 s
      else if isDigit b then
        afterDigits isPositive (takeDigits greatestWord 0 0 (b :: s)).1
          (countDigits (takeDigits greatestWord 0 0 (b :: s)).2.2).1 (s.dropWhile isDigit)
      else .error .malformed := by
  rw [number.eq_def]
  dsimp only
  split
  next =>
    rcases s with - | ⟨d, s⟩
    · rfl
    · rfl
  next =>
    split
    next hdigit =>
      rw [countDigits]
      dsimp only
      rw [dropDigits_takeDigits, List.dropWhile_cons_of_pos hdigit]
    next => rfl

theorem skipAfterDigits_of_endsNatural (h : EndsNatural s) : skipAfterDigits s = .ok s := by
  rcases s with - | ⟨b, s⟩
  · rfl
  · obtain ⟨hpoint, hsmall, hcapital⟩ := h b rfl
    rw [skipAfterDigits_cons hpoint, skipOptionalExponent_cons, if_neg (by simp [hsmall, hcapital])]

/-- A natural number is passed over. -/
theorem skipNumber_of_number (h : number isPositive s = .ok (some n, rest)) :
    isPositive = true ∧ skipNumber s = .ok rest := by
  rcases s with - | ⟨b, s⟩
  · cases h
  rw [number_cons] at h
  rw [skipNumber_cons]
  split_ifs at h with hzero hnext hdigit
  · obtain ⟨hpositive, -, -, rfl, hends⟩ := afterDigits_eq_some h
    rw [if_pos hzero, if_neg hnext]
    exact ⟨hpositive, skipAfterDigits_of_endsNatural hends⟩
  · obtain ⟨hpositive, -, -, rfl, hends⟩ := afterDigits_eq_some h
    rw [if_neg hzero, if_pos hdigit]
    exact ⟨hpositive, skipAfterDigits_of_endsNatural hends⟩

end Number

section Readers

variable {α : Type} {s t rest : Bytes} {b : UInt8}

theorem exists_of_readNatural {bound n : Nat} (h : readNatural bound s = .ok (n, rest)) :
    ∃ b t, front? s = some (b, t) ∧ isDigit b = true ∧ b ≠ 0x2D ∧
      number true (b :: t) = .ok (some n, rest) ∧ n ≤ bound := by
  rw [readNatural] at h
  split at h
  next => cases h
  next b t hfront =>
    split at h
    next hb =>
      split at h
      next => cases h
      next => cases h
      next n' rest' hnumber =>
        split at h
        next hle =>
          cases h
          -- Behind a minus no natural number is read.
          have hpositive := (skipNumber_of_number hnumber).1
          have hminus : b ≠ 0x2D := of_decide_eq_true hpositive
          rw [hpositive, if_neg hminus] at hnumber
          exact ⟨b, t, hfront, hb.resolve_left hminus, hminus, hnumber, hle⟩
        next => cases h
    next => cases h

theorem readNatural_passesOver (bound : Nat) : PassesOver (readNatural bound) := by
  intro s n rest h
  obtain ⟨b, t, hfront, hdigit, -, hnumber, -⟩ := exists_of_readNatural h
  have hskip := (skipNumber_of_number hnumber).2
  exact skipValue_scalar hfront (ofByte?_of_isPlain (isPlain_of_isDigit hdigit))
    ((skipScalar_of_isDigit hdigit t).trans hskip)

theorem exists_of_readFlag {flag : Bool} (h : readFlag s = .ok (flag, rest)) :
    (flag = true ∧ ∃ t, front? s = some (0x74, t) ∧ word [0x72, 0x75, 0x65] t = .ok rest) ∨
      (flag = false ∧ ∃ t, front? s = some (0x66, t) ∧
        word [0x61, 0x6C, 0x73, 0x65] t = .ok rest) := by
  rw [readFlag] at h
  split at h
  next => cases h
  next b t hfront =>
    split at h
    next htrue =>
      obtain ⟨rest', hword, hrest⟩ := exists_of_map_eq_ok h
      cases hrest
      exact .inl ⟨rfl, t, htrue ▸ hfront, hword⟩
    next =>
      split at h
      next hfalse =>
        obtain ⟨rest', hword, hrest⟩ := exists_of_map_eq_ok h
        cases hrest
        exact .inr ⟨rfl, t, hfalse ▸ hfront, hword⟩
      next => cases h

theorem readFlag_passesOver : PassesOver readFlag := by
  intro s flag rest h
  rcases exists_of_readFlag h with ⟨-, t, hfront, hword⟩ | ⟨-, t, hfront, hword⟩
  · exact skipValue_scalar hfront rfl hword
  · exact skipValue_scalar hfront rfl hword

theorem exists_of_readNull (h : readNull s = .ok rest) :
    ∃ t, front? s = some (0x6E, t) ∧ word [0x75, 0x6C, 0x6C] t = .ok rest := by
  rw [readNull] at h
  split at h
  next => cases h
  next b t hfront =>
    split at h
    next hnull => exact ⟨t, hnull ▸ hfront, h⟩
    next => cases h

theorem skipValue_of_readNull (h : readNull s = .ok rest) : skipValue s = .ok rest := by
  obtain ⟨t, hfront, hword⟩ := exists_of_readNull h
  exact skipValue_scalar hfront rfl hword

/-- What is made of what is read is passed over with it. -/
theorem PassesOver.map {β : Type} {read : Reader α} (hread : PassesOver read) (f : α → β) :
    PassesOver fun s => (read s).map fun (a, s) => (f a, s) := by
  intro s b rest h
  obtain ⟨⟨a, rest'⟩, ha, hb⟩ := exists_of_map_eq_ok h
  cases hb
  exact hread ha

/-- Where something is read there is a first byte. -/
theorem PassesOver.exists_front {read : Reader α} (hread : PassesOver read) {a : α}
    (h : read s = .ok (a, rest)) : ∃ b t, front? s = some (b, t) ∧ rest.length ≤ t.length :=
  exists_front_of_skip (hread h)

theorem PassesOver.length_le {read : Reader α} (hread : PassesOver read) {a : α}
    (hb : isSpace b = false) (h : read (b :: t) = .ok (a, rest)) : rest.length ≤ t.length := by
  obtain ⟨c, u, hfront, hle⟩ := hread.exists_front h
  cases (front?_cons hb t).symm.trans hfront
  exact hle

/-! ### Elements -/

theorem nextElement_first (h : nextElement true s = .ok (some t)) :
    ∃ b u, front? s = some (b, u) ∧ b ≠ 0x5D ∧ t = b :: u := by
  rw [nextElement] at h
  split at h
  next => cases h
  next b u hfront =>
    split at h
    next => cases h
    next hbracket =>
      rw [if_pos rfl] at h
      cases h
      exact ⟨b, u, hfront, hbracket, rfl⟩

theorem nextElement_later (h : nextElement false s = .ok (some t)) :
    ∃ u b v, front? s = some (0x2C, u) ∧ front? u = some (b, v) ∧ b ≠ 0x5D ∧ t = b :: v := by
  rw [nextElement] at h
  split at h
  next => cases h
  next b u hfront =>
    split at h
    next => cases h
    rw [if_neg Bool.false_ne_true] at h
    split at h
    next hcomma =>
      split at h
      next => cases h
      next b' v hfront' =>
        split at h
        next => cases h
        next hbracket =>
          cases h
          exact ⟨u, b', v, hcomma ▸ hfront, hfront', hbracket, rfl⟩
    next => cases h

/-- Either there are no more elements, or one is read and then those after it. -/
theorem readElements_cases {read : Reader α} {isFirst : Bool} {as : List α}
    (h : readElements read isFirst s = .ok (as, rest)) :
    (nextElement isFirst s = .ok none ∧ as = [] ∧ rest = s) ∨
      ∃ t a u as', nextElement isFirst s = .ok (some t) ∧ read t = .ok (a, u) ∧
        u.length < s.length ∧ readElements read false u = .ok (as', rest) ∧ as = a :: as' := by
  rw [readElements] at h
  split at h
  next => cases h
  next hnone =>
    cases h
    exact .inl ⟨hnone, rfl, rfl⟩
  next t hsome =>
    split at h
    next => cases h
    next a u ha =>
      split at h
      next hlength =>
        obtain ⟨⟨as', rest'⟩, has, hrest⟩ := exists_of_map_eq_ok h
        cases hrest
        exact .inr ⟨t, a, u, as', hsome, ha, hlength, has, rfl⟩
      next => cases h

section Elements

variable {read : Reader α} (hread : PassesOver read) {as : List α} {rest' : Bytes}
  (hclosing : readClosing .array rest = .ok rest')

include hread hclosing

/-- Elements after the first are passed over with their closing bracket. -/
theorem skip_later_elements (h : readElements read false s = .ok (as, rest)) :
    skip .after [.array] s = .ok rest' := by
  generalize hlength : s.length = length
  induction length using Nat.strongRecOn generalizing as s with
  | _ length ih =>
    subst hlength
    rcases readElements_cases h with ⟨-, -, rfl⟩ | ⟨t, a, u, as', hnext, ha, hlt, has, -⟩
    · rw [skip_closing (readClosing_eq_ok hclosing), skip]
    · obtain ⟨w, b, v, hcomma, hfront, -, rfl⟩ := nextElement_later hnext
      have hvalue : skipValue w = .ok u := (skip_front hfront).symm.trans (hread ha)
      have hname : skipName .array w = .ok w := rfl
      rw [skip_comma hcomma hname, skip_inside hvalue [.array]]
      exact ih _ hlt has rfl

/-- An array whose elements are read is passed over. -/
theorem skip_array (hfront : front? t = some (0x5B, s))
    (h : readElements read true s = .ok (as, rest)) : skipValue t = .ok rest' := by
  rcases readElements_cases h with ⟨-, -, rfl⟩ | ⟨u, a, v, as', hnext, ha, -, has, -⟩
  · have hopening : skipOpening .array rest = .ok (.after, rest') := by
      simp [skipOpening, readClosing_eq_ok hclosing]
    rw [skipValue, skip_empty hfront rfl hopening, skip]
  · obtain ⟨b, w, hfront', hbracket, rfl⟩ := nextElement_first hnext
    have hopening : skipOpening .array s = .ok (.before, s) := by
      rw [skipOpening, hfront']
      exact if_neg hbracket
    have hvalue : skipValue s = .ok v := (skip_front hfront').symm.trans (hread ha)
    rw [skipValue, skip_opening hfront rfl hopening, skip_inside hvalue [.array]]
    exact skip_later_elements hread hclosing has

end Elements

theorem exists_of_readBytes {bytes : Bytes} (h : readBytes s = .ok (bytes, rest)) :
    ∃ t ns u, front? s = some (0x5B, t) ∧ readElements (readNatural 255) true t = .ok (ns, u) ∧
      readClosing .array u = .ok rest ∧ ns.map UInt8.ofNat = bytes := by
  rw [readBytes] at h
  split at h
  next => cases h
  next b t hfront =>
    split at h
    next hbracket =>
      split at h
      next => cases h
      next ns u hns =>
        obtain ⟨rest', hclosing, hrest⟩ := exists_of_map_eq_ok h
        cases hrest
        exact ⟨t, ns, u, hbracket ▸ hfront, hns, hclosing, rfl⟩
    next => cases h

theorem readBytes_passesOver : PassesOver readBytes := by
  intro s bytes rest h
  obtain ⟨t, ns, u, hfront, hns, hclosing, -⟩ := exists_of_readBytes h
  exact skip_array (readNatural_passesOver 255) hclosing hfront hns

/-! ### Strings and members -/

theorem exists_of_unquote {text : String} (h : unquote s = .ok (text, rest)) :
    ∃ bytes, unescape s = .ok (bytes, rest) ∧ textOf? bytes = some text := by
  rw [unquote] at h
  split at h
  next => cases h
  next bytes rest' hbytes =>
    split at h
    next => cases h
    next text' htext =>
      cases h
      exact ⟨bytes, hbytes, htext⟩

theorem unquote_length_lt {text : String} (h : unquote s = .ok (text, rest)) :
    rest.length < s.length := by
  obtain ⟨bytes, hbytes, -⟩ := exists_of_unquote h
  exact skipString_length_lt (skipString_of_unescape hbytes)

theorem exists_of_readText {text : String} (h : readText s = .ok (text, rest)) :
    ∃ t, front? s = some (0x22, t) ∧ unquote t = .ok (text, rest) := by
  rw [readText] at h
  split at h
  next => cases h
  next b t hfront =>
    split at h
    next hmark => exact ⟨t, hmark ▸ hfront, h⟩
    next => cases h

theorem exists_of_readSpelled {ofText? : String → Option α} {a : α}
    (h : readSpelled ofText? s = .ok (a, rest)) :
    ∃ text, readText s = .ok (text, rest) ∧ ofText? text = some a := by
  rw [readSpelled] at h
  split at h
  next => cases h
  next text rest' htext =>
    split at h
    next => cases h
    next a' ha =>
      cases h
      exact ⟨text, htext, ha⟩

theorem readEntry_passesMembers : PassesMembers readEntry := by
  intro m name s m' rest h
  rw [readEntry] at h
  split at h
  next => cases h
  next value rest' hvalue =>
    cases h
    obtain ⟨t, hcolon, htext⟩ := exists_of_bind_eq_ok hvalue
    rw [hcolon]
    exact readText_passesOver htext

theorem exists_of_readTextMap {m : TextMap} (h : readTextMap s = .ok (m, rest)) :
    ∃ t u, front? s = some (0x7B, t) ∧ readMembers readEntry true .empty t = .ok (m, u) ∧
      readClosing .object u = .ok rest := by
  rw [readTextMap] at h
  split at h
  next => cases h
  next b t hfront =>
    split at h
    next hbracket =>
      dsimp only at h
      split at h
      next => cases h
      next m' u hmembers =>
        obtain ⟨rest', hclosing, hrest⟩ := exists_of_map_eq_ok h
        cases hrest
        exact ⟨t, u, hbracket ▸ hfront, hmembers, hclosing⟩
    next => cases h

theorem readTextMap_passesOver : PassesOver readTextMap := by
  intro s m rest h
  obtain ⟨t, u, hfront, hmembers, hclosing⟩ := exists_of_readTextMap h
  exact skip_object readEntry_passesMembers hclosing hfront hmembers

/-- A named value is a name, or an object with the name as its only member. -/
theorem exists_of_readNamed [Named α] {a : α} (h : readNamed s = .ok (a, rest)) :
    readSpelled Named.ofName? s = .ok (a, rest) ∨
      ∃ t u v w, front? s = some (0x7B, t) ∧ readSpelled Named.ofName? t = .ok (a, u) ∧
        skipColon u = .ok v ∧ readNull v = .ok w ∧ readClosing .object w = .ok rest := by
  rw [readNamed] at h
  split at h
  next => cases h
  next b t hfront =>
    split at h
    next => exact .inl h
    next =>
      split at h
      next hbracket =>
        split at h
        next => cases h
        next a' u hname =>
          obtain ⟨rest', hend, hrest⟩ := exists_of_map_eq_ok h
          cases hrest
          obtain ⟨w, hvalue, hclosing⟩ := exists_of_bind_eq_ok hend
          obtain ⟨v, hcolon, hnull⟩ := exists_of_bind_eq_ok hvalue
          exact .inr ⟨t, u, v, w, hbracket ▸ hfront, hname, hcolon, hnull, hclosing⟩
      next => cases h

theorem readNamed_passesOver [Named α] : PassesOver (readNamed (α := α)) := by
  intro s a rest h
  rcases exists_of_readNamed h with h | ⟨t, u, v, w, hfront, hname, hcolon, hnull, hclosing⟩
  · exact readSpelled_passesOver _ h
  · obtain ⟨text, htext, -⟩ := exists_of_readSpelled hname
    obtain ⟨q, hmark, hquote⟩ := exists_of_readText htext
    obtain ⟨bytes, hbytes, -⟩ := exists_of_unquote hquote
    have hskip : skipName .object t = .ok v := by
      rw [skipName, hmark]
      dsimp only
      rw [if_pos rfl, skipString_of_unescape hbytes]
      exact hcolon
    have hopening : skipOpening .object t = .ok (.before, v) := by
      rw [skipOpening, hmark, hskip]
      rfl
    rw [skipValue, skip_opening hfront rfl hopening,
      skip_inside (skipValue_of_readNull hnull) [.object],
      skip_closing (readClosing_eq_ok hclosing), skip]

end Readers

end Courier.Json
