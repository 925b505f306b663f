import Courier.Proofs.Fallible
import Courier.Proofs.Json.Record

/-!
# What is cut short is not read

A run that passes over a value inside brackets goes the same way when more bytes follow, because it
ends with a byte that it has read. What is read as a record in an object has a value that can be
passed over, with the same bytes remaining. So a record in an object ends where its value ends, and
of what has been written of a record, nothing that is cut short is read as a record of any type.

* `skip_append`: passing over a value, with more bytes behind it.
* `skip_frame`: passing over a value inside more brackets.
* `PassesOver`: what is read can be passed over.
* `skipValue_of_readRecord`: so it is with records in objects.
* `Model.parse_truncated`: what is cut short is not read.
-/

namespace Courier.Json

/-! ### Strings -/

section Strings

variable {a b c d e : UInt8} {s rest bytes : Bytes}

theorem skipString_unit (h : (hexUnit? a b c d).isSome) (s : Bytes) :
    skipString (0x5C :: 0x75 :: a :: b :: c :: d :: s) = skipString s := by
  rw [skipString, if_pos h]

theorem skipString_escape (hletter : e ≠ 0x75) (h : (escapedByte? e).isSome) (s : Bytes) :
    skipString (0x5C :: e :: s) = skipString s := by
  rw [skipString, if_pos h]
  · exact fun _ _ _ _ _ hu _ => hletter hu
  · exact hletter

theorem skipString_plain (hmark : b ≠ 0x22) (hescape : b ≠ 0x5C) (h : ¬ b < 0x20) (s : Bytes) :
    skipString (b :: s) = skipString s := by
  rw [skipString, if_neg h]
  all_goals simp [hmark, hescape]

/-- What begins no escape, whether something follows or not, is no backslash. -/
theorem ne_escape (hlast : b = 0x5C → s = [] → False)
    (hescape : ∀ (e : UInt8) (t : Bytes), b = 0x5C → s = e :: t → False) : b ≠ 0x5C := by
  intro hb
  rcases s with - | ⟨e, t⟩
  · exact hlast hb rfl
  · exact hescape e t hb rfl

theorem exists_of_prepend {front : Bytes} {read : Except Fault (Bytes × Bytes)}
    (h : prepend front read = .ok (bytes, rest)) : ∃ bytes', read = .ok (bytes', rest) := by
  rcases read with fault | ⟨bytes', rest'⟩
  · cases h
  · cases h
    exact ⟨bytes', rfl⟩

/-- A string whose escapes can be resolved can be passed over. -/
theorem skipString_of_unescape (h : unescape s = .ok (bytes, rest)) : skipString s = .ok rest := by
  fun_induction unescape s generalizing bytes
  case case2 =>
    cases h
    rfl
  case case6 a b c d n hunit _ _ a' b' c' d' s m hunit' _ ih =>
    obtain ⟨bytes', h'⟩ := exists_of_prepend h
    rw [skipString_unit (by simp [hunit]), skipString_unit (by simp [hunit'])]
    exact ih h'
  case case12 a b c d s n hunit _ _ ih =>
    obtain ⟨bytes', h'⟩ := exists_of_prepend h
    rw [skipString_unit (by simp [hunit])]
    exact ih h'
  case case16 e s _ hletter b hescaped ih =>
    obtain ⟨bytes', h'⟩ := exists_of_prepend h
    rw [skipString_escape hletter (by simp [hescaped])]
    exact ih h'
  case case18 b s hmark _ hlast _ hescape hplain ih =>
    obtain ⟨bytes', h'⟩ := exists_of_prepend h
    rw [skipString_plain hmark (ne_escape hlast hescape) hplain]
    exact ih h'
  all_goals cases h

end Strings

/-! ### More bytes behind -/

section Append

variable {s r rest : Bytes} {b : UInt8}

theorem front?_append (h : front? s = some (b, rest)) : front? (s ++ r) = some (b, rest ++ r) := by
  rw [front?] at h
  split at h
  next => cases h
  next hspace =>
    cases h
    rw [skipSpace] at hspace
    rw [front?, skipSpace, List.dropWhile_append, hspace]
    rfl

theorem word_append {es : Bytes} (h : word es s = .ok rest) :
    word es (s ++ r) = .ok (rest ++ r) := by
  fun_induction word es s with
  | case1 s =>
    cases h
    rfl
  | case2 => cases h
  | case3 e es s ih =>
    rw [List.cons_append, word, if_pos rfl]
    exact ih h
  | case4 => cases h

theorem skipString_append (h : skipString s = .ok rest) :
    skipString (s ++ r) = .ok (rest ++ r) := by
  fun_induction skipString s
  case case2 =>
    cases h
    rfl
  case case3 a b c d s hunit ih => exact (skipString_unit hunit _).trans (ih h)
  case case7 e s _ hletter hescaped ih => exact (skipString_escape hletter hescaped _).trans (ih h)
  case case10 b s hmark _ hlast _ hescape hplain ih =>
    exact (skipString_plain hmark (ne_escape hlast hescape) hplain _).trans (ih h)
  all_goals cases h

theorem skipColon_append (h : skipColon s = .ok rest) : skipColon (s ++ r) = .ok (rest ++ r) := by
  rw [skipColon] at h
  split at h
  next => cases h
  next b s' hfront =>
    rw [skipColon, front?_append hfront]
    split at h
    next hcolon =>
      cases h
      exact if_pos hcolon
    next => cases h

theorem skipName_append {bracket : Bracket} (h : skipName bracket s = .ok rest) :
    skipName bracket (s ++ r) = .ok (rest ++ r) := by
  rcases bracket with - | -
  · cases h
    rfl
  rw [skipName] at h
  split at h
  next => cases h
  next b s' hfront =>
    rw [skipName, front?_append hfront]
    split at h
    next hmark =>
      obtain ⟨t, hstring, hcolon⟩ := exists_of_bind_eq_ok h
      refine (if_pos hmark).trans ?_
      rw [skipString_append hstring]
      exact skipColon_append hcolon
    next => cases h

theorem skipOpening_append {bracket : Bracket} {place : Place}
    (h : skipOpening bracket s = .ok (place, rest)) :
    skipOpening bracket (s ++ r) = .ok (place, rest ++ r) := by
  rw [skipOpening] at h
  split at h
  next => cases h
  next b s' hfront =>
    rw [skipOpening, front?_append hfront]
    split at h
    next hclosing =>
      cases h
      exact if_pos hclosing
    next hclosing =>
      refine (if_neg hclosing).trans ?_
      obtain ⟨t, hname, ht⟩ := exists_of_map_eq_ok h
      cases ht
      rw [skipName_append hname]
      rfl

/-! A number ends where something else begins, so that more bytes behind that make no difference. -/

section Number

variable (hrest : rest ≠ [])

include hrest

theorem dropDigits_append (h : s.dropWhile isDigit = rest) :
    (s ++ r).dropWhile isDigit = rest ++ r := by
  rw [List.dropWhile_append, h]
  exact if_neg (by simpa using hrest)

omit hrest in
theorem exponentSign_append (h : (exponentSign s).2 = b :: rest) :
    (exponentSign (s ++ r)).2 = b :: (rest ++ r) := by
  rw [exponentSign.eq_def] at h
  split at h
  next => exact congrArg (· ++ r) h
  next => exact congrArg (· ++ r) h
  next hplus hminus =>
    subst h
    rw [List.cons_append, exponentSign]
    · exact fun t ht => hplus rest (congrArg (· :: rest) (List.cons.inj ht).1)
    · exact fun t ht => hminus rest (congrArg (· :: rest) (List.cons.inj ht).1)

theorem skipExponent_append (h : skipExponent s = .ok rest) :
    skipExponent (s ++ r) = .ok (rest ++ r) := by
  rw [skipExponent] at h
  split at h
  next b t hsign =>
    rw [skipExponent, exponentSign_append hsign]
    split at h
    next hdigit =>
      cases h
      refine (if_pos hdigit).trans ?_
      rw [dropDigits_append hrest rfl]
    next => cases h
  next => cases h

/-- Where something remains, something was there. -/
theorem ne_nil_of_length_le (h : rest.length ≤ s.length) : s ≠ [] := by
  rintro rfl
  exact hrest (List.length_eq_zero_iff.1 (Nat.le_zero.1 h))

theorem skipOptionalExponent_append (h : skipOptionalExponent s = .ok rest) :
    skipOptionalExponent (s ++ r) = .ok (rest ++ r) := by
  rw [skipOptionalExponent.eq_def] at h
  split at h
  next => exact skipExponent_append hrest h
  next => exact skipExponent_append hrest h
  next hsmall hcapital =>
    cases h
    obtain ⟨b, t, rfl⟩ := List.exists_cons_of_ne_nil hrest
    rw [List.cons_append, skipOptionalExponent]
    · exact fun u hu => hsmall t (congrArg (· :: t) (List.cons.inj hu).1)
    · exact fun u hu => hcapital t (congrArg (· :: t) (List.cons.inj hu).1)

theorem skipAfterDigits_append (h : skipAfterDigits s = .ok rest) :
    skipAfterDigits (s ++ r) = .ok (rest ++ r) := by
  rw [skipAfterDigits.eq_def] at h
  split at h
  next b t =>
    split at h
    next hdigit =>
      have hne := ne_nil_of_length_le hrest (skipOptionalExponent_length_le h)
      rw [List.cons_append, List.cons_append, skipAfterDigits, if_pos hdigit,
        dropDigits_append hne rfl]
      exact skipOptionalExponent_append hrest h
    next => cases h
  next => cases h
  next hpoint hlast =>
    have hne := ne_nil_of_length_le hrest (skipOptionalExponent_length_le h)
    obtain ⟨b, t, rfl⟩ := List.exists_cons_of_ne_nil hne
    have hb : b ≠ 0x2E := by
      rintro rfl
      rcases t with - | ⟨d, t⟩
      · exact hlast rfl
      · exact hpoint d t rfl
    have happend := skipOptionalExponent_append hrest (r := r) h
    rw [List.cons_append] at happend ⊢
    rw [skipAfterDigits]
    · exact happend
    · exact fun _ _ hu => hb (List.cons.inj hu).1
    · exact fun hu => hb (List.cons.inj hu).1

theorem skipNumber_append (h : skipNumber s = .ok rest) :
    skipNumber (s ++ r) = .ok (rest ++ r) := by
  have hlength := skipNumber_length_lt h
  -- A number that ends with its first byte leaves nothing behind, unlike this one.
  rcases s with - | ⟨b, - | ⟨d, t⟩⟩
  · cases hlength
  · exact absurd (List.length_eq_zero_iff.1 (Nat.lt_one_iff.1 hlength)) hrest
  rw [skipNumber] at h
  rw [List.cons_append, List.cons_append, skipNumber]
  split at h
  next hzero =>
    rw [if_pos hzero]
    split at h
    next => cases h
    next hdigit => exact (if_neg hdigit).trans (skipAfterDigits_append hrest h)
  next hzero =>
    rw [if_neg hzero]
    split at h
    next hdigit =>
      have hne := ne_nil_of_length_le hrest (skipAfterDigits_length_le h)
      rw [if_pos hdigit, ← List.cons_append, dropDigits_append hne rfl]
      exact skipAfterDigits_append hrest h
    next => cases h

theorem skipScalar_append (h : skipScalar b s = .ok rest) :
    skipScalar b (s ++ r) = .ok (rest ++ r) := by
  rw [skipScalar] at h ⊢
  split at h
  next hnull => exact (if_pos hnull).trans (word_append h)
  next hnull =>
  rw [if_neg hnull]
  split at h
  next htrue => exact (if_pos htrue).trans (word_append h)
  next htrue =>
  rw [if_neg htrue]
  split at h
  next hfalse => exact (if_pos hfalse).trans (word_append h)
  next hfalse =>
  rw [if_neg hfalse]
  split at h
  next hminus => exact (if_pos hminus).trans (skipNumber_append hrest h)
  next hminus =>
  rw [if_neg hminus]
  split at h
  next hmark => exact (if_pos hmark).trans (skipString_append h)
  next hmark => exact (if_neg hmark).trans (skipNumber_append hrest h)

end Number

end Append

/-! ### One step after the other -/

section Skip

variable {place : Place} {stack stack' : List Bracket} {bracket : Bracket} {b : UInt8}
  {s t r rest : Bytes}

theorem comma_ne_closing (bracket : Bracket) : 0x2C ≠ bracket.closing := by
  cases bracket <;> decide

/-- What happens inside a bracket once a value has been passed over. -/
theorem skip_after (hfront : front? s = some (b, t)) :
    skip .after (bracket :: stack) s =
      if b = bracket.closing then skip .after stack t
      else if b = 0x2C then skipName bracket t >>= skip .before (bracket :: stack)
      else .error .malformed := by
  rw [skip]
  split
  next hnone => cases hfront.symm.trans hnone
  next hsome =>
    cases hfront.symm.trans hsome
    rcases skipName bracket t with fault | rest
    · rfl
    · rfl

/-- What happens at the front of an array or an object. -/
theorem skip_bracket (hfront : front? s = some (b, t)) (hb : Bracket.ofByte? b = some bracket) :
    skip .before stack s = skipOpening bracket t >>= fun (place, rest) =>
      skip place (if place = .before then bracket :: stack else stack) rest := by
  rw [skip]
  split
  next hnone => cases hfront.symm.trans hnone
  next hsome =>
    cases hfront.symm.trans hsome
    simp only [hb]
    rcases skipOpening bracket t with fault | ⟨- | -, rest⟩
    · rfl
    · rfl
    · rfl

theorem skip_closing (hfront : front? s = some (bracket.closing, rest)) :
    skip .after (bracket :: stack) s = skip .after stack rest := by
  rw [skip_after hfront, if_pos rfl]

theorem skip_comma (hfront : front? s = some (0x2C, t)) (hname : skipName bracket t = .ok rest) :
    skip .after (bracket :: stack) s = skip .before (bracket :: stack) rest := by
  rw [skip_after hfront, if_neg (comma_ne_closing bracket), if_pos rfl, hname, ok_bind]

theorem skip_opening (hfront : front? s = some (b, t)) (hb : Bracket.ofByte? b = some bracket)
    (hopening : skipOpening bracket t = .ok (.before, rest)) :
    skip .before stack s = skip .before (bracket :: stack) rest := by
  rw [skip_bracket hfront hb, hopening]
  rfl

theorem skip_empty (hfront : front? s = some (b, t)) (hb : Bracket.ofByte? b = some bracket)
    (hopening : skipOpening bracket t = .ok (.after, rest)) :
    skip .before stack s = skip .after stack rest := by
  rw [skip_bracket hfront hb, hopening]
  rfl

theorem skip_scalar (hfront : front? s = some (b, t)) (hb : Bracket.ofByte? b = none)
    (hscalar : skipScalar b t = .ok rest) : skip .before stack s = skip .after stack rest := by
  rw [skip]
  split
  next hnone => cases hfront.symm.trans hnone
  next hsome =>
    cases hfront.symm.trans hsome
    simp only [hb]
    split
    next hfault => cases hscalar.symm.trans hfault
    next hok =>
      cases hscalar.symm.trans hok
      rfl

/-- A run that goes on inside brackets has something in front of it. -/
theorem ne_nil_of_skip_after (hstack : stack ≠ []) (h : skip .after stack s = .ok rest) :
    s ≠ [] := by
  rintro rfl
  obtain ⟨bracket, stack, rfl⟩ := List.exists_cons_of_ne_nil hstack
  rw [skip] at h
  cases h

/-- A run that ends with a bracket goes the same way when more bytes follow. -/
theorem skip_append (hinside : place = .after ∨ stack ≠ []) (h : skip place stack s = .ok rest) :
    skip place stack (s ++ r) = .ok (rest ++ r) := by
  fun_induction skip place stack s
  case case1 =>
    cases h
    rw [skip]
  case case3 s bracket stack t hfront ih =>
    exact (skip_closing (front?_append hfront)).trans (ih (.inl rfl) h)
  case case5 s bracket stack t u hname hfront _ ih =>
    exact (skip_comma (front?_append hfront) (skipName_append hname)).trans
      (ih (.inr (List.cons_ne_nil _ _)) h)
  case case9 s stack b t hfront bracket hb u hopening ih =>
    exact (skip_empty (front?_append hfront) hb (skipOpening_append hopening)).trans
      (ih (.inl rfl) h)
  case case10 s stack b t hfront bracket hb u hopening ih =>
    exact (skip_opening (front?_append hfront) hb (skipOpening_append hopening)).trans
      (ih (.inr (List.cons_ne_nil _ _)) h)
  case case12 s stack b t hfront hb u hscalar ih =>
    have hstack : stack ≠ [] := hinside.resolve_left nofun
    have hscalar := skipScalar_append (r := r) (ne_nil_of_skip_after hstack h) hscalar
    exact (skip_scalar (front?_append hfront) hb hscalar).trans (ih (.inl rfl) h)
  all_goals cases h

/-- An array or an object ends with a bracket. -/
theorem skipValue_append (hfront : front? s = some (b, t)) (hb : Bracket.ofByte? b = some bracket)
    (h : skipValue s = .ok rest) : skipValue (s ++ r) = .ok (rest ++ r) := by
  rw [skipValue] at h ⊢
  rcases hopening : skipOpening bracket t with fault | ⟨- | -, u⟩
  · rw [skip_bracket hfront hb, hopening] at h
    cases h
  · rw [skip_opening hfront hb hopening] at h
    rw [skip_opening (front?_append hfront) hb (skipOpening_append hopening)]
    exact skip_append (.inr (List.cons_ne_nil _ _)) h
  · rw [skip_empty hfront hb hopening] at h
    rw [skip_empty (front?_append hfront) hb (skipOpening_append hopening)]
    exact skip_append (.inl rfl) h

/-- Inside more brackets, a value is passed over as it is without them. -/
theorem skip_frame (h : skip place stack s = .ok rest) (stack' : List Bracket) :
    skip place (stack ++ stack') s = skip .after stack' rest := by
  fun_induction skip place stack s
  case case1 =>
    cases h
    rfl
  case case3 s bracket stack t hfront ih => exact (skip_closing hfront).trans (ih h)
  case case5 s bracket stack t u hname hfront _ ih =>
    exact (skip_comma hfront hname).trans (ih h)
  case case9 s stack b t hfront bracket hb u hopening ih =>
    exact (skip_empty hfront hb hopening).trans (ih h)
  case case10 s stack b t hfront bracket hb u hopening ih =>
    exact (skip_opening hfront hb hopening).trans (ih h)
  case case12 s stack b t hfront hb u hscalar ih =>
    exact (skip_scalar hfront hb hscalar).trans (ih h)
  all_goals cases h

end Skip

/-! ### What is read can be passed over -/

/-- What is read can be passed over, with the same bytes remaining. -/
def PassesOver {α : Type} (read : Reader α) : Prop :=
  ∀ ⦃s a rest⦄, read s = .ok (a, rest) → skipValue s = .ok rest

section PassesOver

variable {α : Type} {s t rest : Bytes} {b : UInt8}

theorem skipValue_scalar (hfront : front? s = some (b, t)) (hb : Bracket.ofByte? b = none)
    (hscalar : skipScalar b t = .ok rest) : skipValue s = .ok rest := by
  rw [skipValue, skip_scalar hfront hb hscalar, skip]

theorem readText_passesOver : PassesOver readText := by
  intro s text rest h
  rw [readText] at h
  split at h
  next => cases h
  next b t hfront =>
    split at h
    next hmark =>
      subst hmark
      rw [unquote] at h
      split at h
      next => cases h
      next bytes rest' hbytes =>
        split at h
        next => cases h
        next =>
          cases h
          exact skipValue_scalar hfront rfl (skipString_of_unescape hbytes)
    next => cases h

theorem readSpelled_passesOver (ofText? : String → Option α) :
    PassesOver (readSpelled ofText?) := by
  intro s a rest h
  rw [readSpelled] at h
  split at h
  next => cases h
  next text rest' htext =>
    split at h
    next => cases h
    next =>
      cases h
      exact readText_passesOver htext

theorem PassesOver.optional {read : Reader α} (hread : PassesOver read) :
    PassesOver (readOptional read) := by
  intro s a rest h
  rw [readOptional] at h
  split at h
  next t hfront =>
    obtain ⟨rest', hword, hrest⟩ := exists_of_map_eq_ok h
    cases hrest
    exact skipValue_scalar hfront rfl hword
  next =>
    split at h
    next => cases h
    next a rest' ha =>
      cases h
      exact hread ha

/-! ### Members and records -/

theorem readClosing_eq_ok {bracket : Bracket} (h : readClosing bracket s = .ok rest) :
    front? s = some (bracket.closing, rest) := by
  rw [readClosing] at h
  split at h
  next => cases h
  next b t hfront =>
    split at h
    next hclosing =>
      cases h
      rw [hfront, hclosing]
    next => cases h

theorem nextMember_first (h : nextMember true s = .ok (some t)) : front? s = some (0x22, t) := by
  rw [nextMember] at h
  split at h
  next => cases h
  next b t' hfront =>
    split at h
    next => cases h
    rw [if_pos rfl] at h
    split at h
    next hmark =>
      cases h
      exact hmark ▸ hfront
    next => cases h

theorem nextMember_later (h : nextMember false s = .ok (some t)) :
    ∃ u, front? s = some (0x2C, u) ∧ front? u = some (0x22, t) := by
  rw [nextMember] at h
  split at h
  next => cases h
  next b u hfront =>
    split at h
    next => cases h
    rw [if_neg Bool.false_ne_true] at h
    split at h
    next hcomma =>
      split at h
      next => cases h
      next b' t' hfront' =>
        split at h
        next hmark =>
          cases h
          exact ⟨u, hcomma ▸ hfront, hmark ▸ hfront'⟩
        next => cases h
    next => cases h

/-- What is read of a member after its name can be passed over. -/
def PassesMembers (read : α → String → Reader α) : Prop :=
  ∀ ⦃a name s a' rest⦄, read a name s = .ok (a', rest) → (skipColon s >>= skipValue) = .ok rest

theorem readSlot_passesMembers {fs : List Field} (hfs : ∀ f ∈ fs, PassesOver f.codec.read) :
    PassesMembers (readSlot fs) := by
  induction fs with
  | nil =>
    intro slots name s slots' rest h
    obtain ⟨rest', hskip, hrest⟩ := exists_of_map_eq_ok h
    cases hrest
    exact hskip
  | cons f fs ih =>
    rintro ⟨slot, slots⟩ name s slots' rest h
    rw [readSlot] at h
    split at h
    next =>
      split at h
      next => cases h
      next =>
        beta_reduce at h
        split at h
        next => cases h
        next value rest' hvalue =>
          cases h
          obtain ⟨t, hcolon, hread⟩ := exists_of_bind_eq_ok hvalue
          rw [hcolon]
          exact hfs f List.mem_cons_self hread
    next =>
      obtain ⟨⟨slots'', rest'⟩, hslots, hrest⟩ := exists_of_map_eq_ok h
      cases hrest
      exact ih (fun f hf => hfs f (List.mem_cons_of_mem _ hf)) hslots

/-- The name of a member and what is read after it are passed over. -/
theorem skip_member {read : α → String → Reader α} (hread : PassesMembers read) {a a' : α}
    {name : String} {u : Bytes} (hname : unquote t = .ok (name, u))
    (hmember : read a name u = .ok (a', rest)) (stack : List Bracket) :
    ∃ v, (skipString t >>= skipColon) = .ok v ∧ skip .before stack v = skip .after stack rest := by
  obtain ⟨v, hcolon, hvalue⟩ := exists_of_bind_eq_ok (hread hmember)
  rw [unquote] at hname
  split at hname
  next => cases hname
  next bytes u' hbytes =>
    split at hname
    next => cases hname
    next =>
      cases hname
      refine ⟨v, ?_, skip_frame hvalue stack⟩
      rw [skipString_of_unescape hbytes]
      exact hcolon

/-- Either there are no more members, or one is read and then those after it. -/
theorem readMembers_cases {read : α → String → Reader α} {isFirst : Bool} {a a' : α}
    (h : readMembers read isFirst a s = .ok (a', rest)) :
    (nextMember isFirst s = .ok none ∧ rest = s) ∨
      ∃ t name u a'' s', nextMember isFirst s = .ok (some t) ∧ unquote t = .ok (name, u) ∧
        read a name u = .ok (a'', s') ∧ s'.length < s.length ∧
        readMembers read false a'' s' = .ok (a', rest) := by
  rw [readMembers] at h
  split at h
  next => cases h
  next hnone =>
    cases h
    exact .inl ⟨hnone, rfl⟩
  next t hsome =>
    split at h
    next => cases h
    next name u hname =>
      split at h
      next => cases h
      next a'' s' hmember =>
        split at h
        next hlength => exact .inr ⟨t, name, u, a'', s', hsome, hname, hmember, hlength, h⟩
        next => cases h

section Members

variable {read : α → String → Reader α} (hread : PassesMembers read) {a a' : α} {rest' : Bytes}
  (hclosing : readClosing .object rest = .ok rest')

include hread hclosing

/-- Members after the first are passed over with their closing bracket. -/
theorem skip_later (h : readMembers read false a s = .ok (a', rest)) :
    skip .after [.object] s = .ok rest' := by
  generalize hlength : s.length = length
  induction length using Nat.strongRecOn generalizing a s with
  | _ length ih =>
    subst hlength
    rcases readMembers_cases h with ⟨-, rfl⟩ | ⟨t, name, u, a'', s', hnext, hname, hmember, hlt, h⟩
    · rw [skip_closing (readClosing_eq_ok hclosing), skip]
    · obtain ⟨w, hcomma, hmark⟩ := nextMember_later hnext
      obtain ⟨v, hcolon, hvalue⟩ := skip_member hread hname hmember [.object]
      have hskip : skipName .object w = .ok v := by
        simpa [skipName, hmark] using hcolon
      rw [skip_comma hcomma hskip, hvalue]
      exact ih _ hlt h rfl

/-- An object whose members are read is passed over. -/
theorem skip_object (hfront : front? t = some (0x7B, s))
    (h : readMembers read true a s = .ok (a', rest)) : skipValue t = .ok rest' := by
  rcases readMembers_cases h with ⟨hnone, rfl⟩ | ⟨u, name, w, a'', s', hnext, hname, hmember, -, h⟩
  · have hopening : skipOpening .object rest = .ok (.after, rest') := by
      simp [skipOpening, readClosing_eq_ok hclosing]
    rw [skipValue, skip_empty hfront rfl hopening, skip]
  · obtain ⟨v, hcolon, hvalue⟩ := skip_member hread hname hmember [.object]
    have hopening : skipOpening .object s = .ok (.before, v) := by
      have hmark := nextMember_first hnext
      have hskip : skipName .object s = .ok v := by
        simpa [skipName, hmark] using hcolon
      rw [skipOpening, hmark, hskip]
      rfl
    rw [skipValue, skip_opening hfront rfl hopening, hvalue]
    exact skip_later hread hclosing h

end Members

/-- A record that is read from an object is passed over. -/
theorem skipValue_of_readRecord {fs : List Field} (hfs : ∀ f ∈ fs, PassesOver f.codec.read)
    {record : Record fs} (hfront : front? s = some (0x7B, t))
    (h : readRecord fs s = .ok (record, rest)) : skipValue s = .ok rest := by
  rw [readRecord, hfront] at h
  simp only [if_true] at h
  split at h
  next => cases h
  next slots u hmembers =>
    split at h
    next => cases h
    next =>
      obtain ⟨rest', hclosing, hrest⟩ := exists_of_map_eq_ok h
      cases hrest
      exact skip_object (readSlot_passesMembers hfs) hclosing hfront hmembers

end PassesOver

namespace Model

variable {α β : Type} [Model α] [Model β]

/-- **What is cut short is not read.** Of what has been written of a record of one type, nothing
    that is cut short is read as a record of another type or the same. -/
theorem parse_truncated (hα : ∀ f ∈ fields α, PassesOver f.codec.read)
    (hβ : ∀ f ∈ fields β, PassesOver f.codec.read) (hn : ((fields β).map (·.name)).Nodup) {b : β}
    (hk : Kept (fields β) (toRecord b)) {s r : Bytes} (hs : s ++ r = print b) (hr : r ≠ [])
    (a : α) : parse s ≠ .ok a := by
  intro hparse
  have hfull : readRecord (fields β) (print b) = .ok (toRecord b, []) := by
    have h := readRecord_print hk hn []
    rwa [List.append_nil] at h
  have hskip : skipValue (print b) = .ok [] :=
    skipValue_of_readRecord hβ (front?_cons rfl _) hfull
  rw [parse, Model.read] at hparse
  split at hparse
  next => cases hparse
  next a' rest hread =>
    obtain ⟨⟨record, rest'⟩, hrecord, -⟩ := exists_of_map_eq_ok hread
    rcases s with - | ⟨c, s⟩
    · cases hrecord
    · obtain ⟨rfl, -⟩ : c = 0x7B ∧ _ := List.cons.inj hs
      have hfront : front? (0x7B :: s) = some (0x7B, s) := front?_cons rfl s
      have hskipped := skipValue_of_readRecord hα hfront hrecord
      have happend := skipValue_append (r := r) hfront rfl hskipped
      rw [hs, hskip, Except.ok.injEq] at happend
      exact hr (List.append_eq_nil_iff.1 happend.symm).2

end Model

end Courier.Json
