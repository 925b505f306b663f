import Courier.Proofs.Json.Passing

/-!
# White space makes no difference

Two texts that differ in nothing but the white space between their words, marks, numbers and strings
are scanned in the same way, and what remains of them differs in nothing else. A word or a number
ends where a byte stands that can be no part of it, and such a byte must stand there in both texts.

* `Respaced`: texts that differ in white space, up to given ends.
* `Respaced.front`: their first byte that is no white space.
* `SteadyScan`, `steadyScan_skip`: what is passed over in one is passed over in the other.
* `IsJson.leads`: a value of the grammar may stand in front of both.
-/

namespace Courier.Json

/-- Two texts that differ in nothing but the white space between words, marks, numbers and strings,
    up to what stands at the end of each. -/
inductive Respaced (r r' : Bytes) : Bytes → Bytes → Prop
  | rest : Respaced r r' r r'
  | left {b : UInt8} {s s' : Bytes} (h : isSpace b = true) (hs : Respaced r r' s s') :
      Respaced r r' (b :: s) s'
  | right {b : UInt8} {s s' : Bytes} (h : isSpace b = true) (hs : Respaced r r' s s') :
      Respaced r r' s (b :: s')
  | mark {b : UInt8} {s s' : Bytes} (h : isMark b = true) (hs : Respaced r r' s s') :
      Respaced r r' (b :: s) (b :: s')
  | string {q s s' : Bytes} (h : IsStringRest q) (hs : Respaced r r' s s') :
      Respaced r r' (0x22 :: (q ++ s)) (0x22 :: (q ++ s'))
  | plain {b : UInt8} {w s s' : Bytes} (h : ∀ c ∈ b :: w, isPlain c = true) (hb : IsBreak s)
      (hb' : IsBreak s') (hs : Respaced r r' s s') : Respaced r r' (b :: (w ++ s)) (b :: (w ++ s'))

/-- What follows the first byte of a mark, a word, a number or a string in two such texts. -/
inductive Led (r r' : Bytes) : UInt8 → Bytes → Bytes → Prop
  | mark {b : UInt8} {s s' : Bytes} (h : isMark b = true) (hs : Respaced r r' s s') :
      Led r r' b s s'
  | string {q s s' : Bytes} (h : IsStringRest q) (hs : Respaced r r' s s') :
      Led r r' 0x22 (q ++ s) (q ++ s')
  | plain {b : UInt8} {w s s' : Bytes} (h : ∀ c ∈ b :: w, isPlain c = true) (hb : IsBreak s)
      (hb' : IsBreak s') (hs : Respaced r r' s s') : Led r r' b (w ++ s) (w ++ s')

section Respaced

variable {r r' s s' t t' rest : Bytes} {b : UInt8}

theorem Respaced.symm (h : Respaced r r' s s') : Respaced r' r s' s := by
  induction h with
  | rest => exact .rest
  | left h hs ih => exact .right h ih
  | right h hs ih => exact .left h ih
  | mark h hs ih => exact .mark h ih
  | string h hs ih => exact .string h ih
  | plain h hb hb' hs ih => exact .plain h hb' hb ih

theorem Led.cons (h : Led r r' b t t') : Respaced r r' (b :: t) (b :: t') := by
  cases h with
  | mark h hs => exact .mark h hs
  | string h hs => exact .string h hs
  | plain h hb hb' hs => exact .plain h hb hb' hs

theorem front?_space (hb : isSpace b = true) (s : Bytes) : front? (b :: s) = front? s := by
  rw [front?, front?, skipSpace, skipSpace, List.dropWhile_cons_of_pos hb]

theorem isSpace_of_isMark (h : isMark b = true) : isSpace b = false := by
  simp only [isMark, Bool.or_eq_true, beq_iff_eq] at h
  rcases h with ((((rfl | rfl) | rfl) | rfl) | rfl) | rfl <;> rfl

/-- The first byte of such texts is the same, if it stands in front of their ends. -/
theorem Respaced.front (h : Respaced r r' s s') (hfront : front? s = some (b, t))
    (hr : r.length ≤ t.length) : ∃ t', front? s' = some (b, t') ∧ Led r r' b t t' := by
  induction h with
  | rest => exact absurd (front?_length_lt hfront) (Nat.not_lt.2 hr)
  | left h hs ih =>
    rw [front?_space h] at hfront
    exact ih hfront
  | right h hs ih =>
    rw [front?_space h]
    exact ih hfront
  | mark h hs =>
    have hspace := isSpace_of_isMark h
    rw [front?_cons hspace] at hfront
    cases hfront
    exact ⟨_, front?_cons hspace _, .mark h hs⟩
  | string h hs =>
    cases hfront
    exact ⟨_, rfl, .string h hs⟩
  | plain h hb hb' hs =>
    have hspace := (eq_of_isPlain (h _ List.mem_cons_self)).1
    rw [front?_cons hspace] at hfront
    cases hfront
    exact ⟨_, front?_cons hspace _, .plain h hb hb' hs⟩

/-- More of a word or a number may stand in front of both texts. -/
theorem Respaced.append_plain {w : Bytes} (hw : ∀ c ∈ w, isPlain c = true) (hb : IsBreak s)
    (hb' : IsBreak s') (h : Respaced r r' s s') : Respaced r r' (w ++ s) (w ++ s') := by
  rcases w with - | ⟨c, w⟩
  · exact h
  · exact .plain hw hb hb' h

/-! ### Words, numbers and strings -/

theorem Led.of_mark (h : Led r r' b t t') (hb : isMark b = true) : Respaced r r' t t' := by
  cases h with
  | mark h hs => exact hs
  | string h hs => cases hb
  | plain h hbreak hbreak' hs =>
    obtain ⟨-, hmark, -⟩ := eq_of_isPlain (h b List.mem_cons_self)
    cases hb.symm.trans hmark

theorem Led.skipString (h : Led r r' 0x22 t t') (hskip : Json.skipString t = .ok rest) :
    ∃ rest', Json.skipString t' = .ok rest' ∧ Respaced r r' rest rest' := by
  cases h with
  | mark h hs => cases h
  | @string q s s' h hs =>
    cases (h.skipString s).symm.trans hskip
    exact ⟨s', h.skipString s', hs⟩
  | plain h => cases h 0x22 List.mem_cons_self

theorem word_self (es s : Bytes) : word es (es ++ s) = .ok s := by
  induction es with
  | nil => rfl
  | cons e es ih =>
    rw [List.cons_append, word, if_pos rfl]
    exact ih

/-- A word that is in front of a text ends at a break or before it. -/
theorem exists_of_word {es w : Bytes} (hes : ∀ e ∈ es, isPlain e = true) (hb : IsBreak s)
    (h : word es (w ++ s) = .ok rest) : ∃ w', w = es ++ w' ∧ rest = w' ++ s := by
  induction es generalizing w with
  | nil =>
    cases h
    exact ⟨w, rfl, rfl⟩
  | cons e es ih =>
    obtain ⟨he, hes⟩ := List.forall_mem_cons.1 hes
    rcases w with - | ⟨c, w⟩
    · -- The word would have to go on behind the break.
      rcases s with - | ⟨c, s⟩
      · cases h
      · rw [List.nil_append, word] at h
        split at h
        next heq =>
          cases heq
          cases he.symm.trans (hb _ rfl)
        next => cases h
    · rw [List.cons_append, word] at h
      split at h
      next heq =>
        cases heq
        obtain ⟨w', rfl, hrest⟩ := ih hes h
        exact ⟨w', rfl, hrest⟩
      next => cases h

theorem Led.word {es : Bytes} (h : Led r r' b t t') (hes : ∀ e ∈ b :: es, isPlain e = true)
    (hword : Json.word es t = .ok rest) :
    ∃ rest', Json.word es t' = .ok rest' ∧ Respaced r r' rest rest' := by
  obtain ⟨hplain, hes⟩ := List.forall_mem_cons.1 hes
  obtain ⟨-, hmark, hquote⟩ := eq_of_isPlain hplain
  cases h with
  | mark h hs => cases h.symm.trans hmark
  | string h hs => exact absurd rfl hquote
  | @plain _ w s s' h hb hb' hs =>
    obtain ⟨w', rfl, rfl⟩ := exists_of_word hes hb hword
    refine ⟨w' ++ s', ?_, hs.append_plain (fun c hc => ?_) hb hb'⟩
    · rw [List.append_assoc, word_self]
    · exact h c (List.mem_cons_of_mem _ (List.mem_append_right _ hc))

theorem exponentSign_suffix (s : Bytes) : (exponentSign s).2 <:+ s := by
  rcases s with - | ⟨b, s⟩
  · exact List.suffix_rfl
  · rw [exponentSign_cons]
    split
    · exact List.suffix_cons b s
    · exact List.suffix_rfl

theorem skipExponent_suffix (h : skipExponent s = .ok rest) : rest <:+ s := by
  rw [skipExponent] at h
  split at h
  next b t hsign =>
    split at h
    next =>
      cases h
      have hsuffix := exponentSign_suffix s
      rw [hsign] at hsuffix
      exact (List.dropWhile_suffix isDigit).trans ((List.suffix_cons b t).trans hsuffix)
    next => cases h
  next => cases h

theorem skipOptionalExponent_suffix (h : skipOptionalExponent s = .ok rest) : rest <:+ s := by
  rcases s with - | ⟨b, s⟩
  · cases h
    exact List.suffix_rfl
  · rw [skipOptionalExponent_cons] at h
    split at h
    next => exact (skipExponent_suffix h).trans (List.suffix_cons b s)
    next =>
      cases h
      exact List.suffix_rfl

theorem skipAfterDigits_suffix (h : skipAfterDigits s = .ok rest) : rest <:+ s := by
  rw [skipAfterDigits.eq_def] at h
  split at h
  next d t =>
    split at h
    next =>
      have hdrop : t.dropWhile isDigit <:+ 0x2E :: d :: t :=
        (List.dropWhile_suffix isDigit).trans
          ((List.suffix_cons d t).trans (List.suffix_cons _ _))
      exact (skipOptionalExponent_suffix h).trans hdrop
    next => cases h
  next => cases h
  next => exact skipOptionalExponent_suffix h

theorem skipNumber_suffix (h : skipNumber s = .ok rest) : rest <:+ s := by
  rcases s with - | ⟨b, s⟩
  · cases h
  · rw [skipNumber_cons] at h
    refine List.IsSuffix.trans ?_ (List.suffix_cons b s)
    split_ifs at h
    · exact skipAfterDigits_suffix h
    · exact (skipAfterDigits_suffix h).trans (List.dropWhile_suffix isDigit)

/-- A number ends at a break or before it, whatever follows. -/
theorem exists_of_skipNumber {w : Bytes} (hb : IsBreak s) (h : skipNumber (w ++ s) = .ok rest) :
    ∃ w', rest = w' ++ s ∧ w' <:+ w ∧ ∀ s', IsBreak s' → skipNumber (w ++ s') = .ok (w' ++ s') := by
  rw [skipNumber_append_eq hb] at h
  obtain ⟨w', hw', rfl⟩ := exists_of_map_eq_ok h
  refine ⟨w', rfl, skipNumber_suffix hw', fun s' hb' => ?_⟩
  rw [skipNumber_append_eq hb', hw']
  rfl

/-- A word, a number or a string is passed over in both texts. -/
theorem Led.skipScalar (h : Led r r' b t t') (hskip : Json.skipScalar b t = .ok rest) :
    ∃ rest', Json.skipScalar b t' = .ok rest' ∧ Respaced r r' rest rest' := by
  rw [Json.skipScalar] at hskip
  split at hskip
  next hnull =>
    subst hnull
    exact h.word (List.all_eq_true.1 rfl) hskip
  next hnull =>
  split at hskip
  next htrue =>
    subst htrue
    exact h.word (List.all_eq_true.1 rfl) hskip
  next htrue =>
  split at hskip
  next hfalse =>
    subst hfalse
    exact h.word (List.all_eq_true.1 rfl) hskip
  next hfalse =>
  split at hskip
  next hminus =>
    subst hminus
    cases h with
    | mark h => cases h
    | @plain _ w s s' h hb hb' hs =>
      obtain ⟨w', rfl, hsuffix, hskip'⟩ := exists_of_skipNumber hb hskip
      have hplain : ∀ c ∈ w', isPlain c = true := fun c hc =>
        h c (List.mem_cons_of_mem _ (hsuffix.subset hc))
      exact ⟨w' ++ s', hskip' s' hb', hs.append_plain hplain hb hb'⟩
  next hminus =>
  split at hskip
  next hmark =>
    subst hmark
    exact h.skipString hskip
  next hmark =>
  cases h with
  | mark h hs =>
    -- A mark begins no number.
    simp only [isMark, Bool.or_eq_true, beq_iff_eq] at h
    rcases h with ((((rfl | rfl) | rfl) | rfl) | rfl) | rfl <;> cases hskip
  | string h hs => exact absurd rfl hmark
  | @plain _ w s s' h hb hb' hs =>
    obtain ⟨w', rfl, hsuffix, hskip'⟩ := exists_of_skipNumber (w := b :: w) hb hskip
    have hplain : ∀ c ∈ w', isPlain c = true := fun c hc => h c (hsuffix.subset hc)
    refine ⟨w' ++ s', ?_, hs.append_plain hplain hb hb'⟩
    rw [Json.skipScalar, if_neg hnull, if_neg htrue, if_neg hfalse, if_neg hminus, if_neg hmark]
    exact hskip' s' hb'

end Respaced

/-! ### Values -/

/-- What is passed over in front of one end is passed over in front of the other, whatever white
    space there is. -/
def SteadyScan (scan : Bytes → Except Fault Bytes) : Prop :=
  ∀ ⦃r r' s s' rest⦄, Respaced r r' s s' → scan s = .ok rest → r.length ≤ rest.length →
    ∃ rest', scan s' = .ok rest' ∧ Respaced r r' rest rest'

section SteadyScan

variable {place : Place} {stack : List Bracket} {bracket : Bracket} {r r' s s' t u rest : Bytes}
  {b : UInt8}

theorem steadyScan_skipColon : SteadyScan skipColon := by
  intro r r' s s' rest hs h hr
  rw [skipColon] at h
  split at h
  next => cases h
  next b t hfront =>
    split at h
    next hcolon =>
      cases h
      subst hcolon
      obtain ⟨t', hfront', hled⟩ := hs.front hfront hr
      refine ⟨t', ?_, hled.of_mark rfl⟩
      rw [skipColon, hfront']
      rfl
    next => cases h

theorem steadyScan_skipName (bracket : Bracket) : SteadyScan (skipName bracket) := by
  intro r r' s s' rest hs h hr
  rcases bracket with - | -
  · cases h
    exact ⟨s', rfl, hs⟩
  rw [skipName] at h
  split at h
  next => cases h
  next b t hfront =>
    split at h
    next hmark =>
      subst hmark
      obtain ⟨u, hstring, hcolon⟩ := exists_of_bind_eq_ok h
      have hu := skipColon_length_lt hcolon
      have ht := skipString_length_lt hstring
      obtain ⟨t', hfront', hled⟩ := hs.front hfront (by omega)
      obtain ⟨u', hstring', hs'⟩ := hled.skipString hstring
      obtain ⟨rest', hcolon', hrest⟩ := steadyScan_skipColon hs' hcolon hr
      refine ⟨rest', ?_, hrest⟩
      rw [skipName, hfront']
      dsimp only
      rw [if_pos rfl, hstring', ok_bind, hcolon']
    next => cases h

/-- The name of a member ends behind its first byte. -/
theorem skipName_length_le_front (h : skipName .object s = .ok rest)
    (hfront : front? s = some (b, t)) : rest.length ≤ t.length := by
  rw [skipName, hfront] at h
  dsimp only at h
  split at h
  next =>
    obtain ⟨u, hstring, hcolon⟩ := exists_of_bind_eq_ok h
    have hu := skipColon_length_lt hcolon
    have ht := skipString_length_lt hstring
    omega
  next => cases h

theorem isMark_of_ofByte? (h : Bracket.ofByte? b = some bracket) : isMark b = true := by
  rw [Bracket.ofByte?] at h
  split_ifs at h with harray hobject
  · rw [harray]
    rfl
  · rw [hobject]
    rfl

theorem isMark_closing (bracket : Bracket) : isMark bracket.closing = true := by
  rcases bracket with - | -
  · rfl
  · rfl

/-- An array or an object without anything in it. -/
theorem Respaced.skipOpening_after (hs : Respaced r r' s s')
    (h : skipOpening bracket s = .ok (.after, rest)) (hr : r.length ≤ rest.length) :
    ∃ rest', skipOpening bracket s' = .ok (.after, rest') ∧ Respaced r r' rest rest' := by
  rw [skipOpening] at h
  split at h
  next => cases h
  next b t hfront =>
    split at h
    next hclosing =>
      cases h
      subst hclosing
      obtain ⟨t', hfront', hled⟩ := hs.front hfront hr
      refine ⟨t', ?_, hled.of_mark (isMark_closing bracket)⟩
      rw [skipOpening, hfront']
      exact if_pos rfl
    next =>
      obtain ⟨u, -, hu⟩ := exists_of_map_eq_ok h
      cases hu

/-- An array or an object in which something begins. -/
theorem Respaced.skipOpening_before (hs : Respaced r r' s s')
    (h : skipOpening bracket s = .ok (.before, rest)) (hfront : front? rest = some (b, t))
    (hr : r.length ≤ t.length) :
    ∃ rest', skipOpening bracket s' = .ok (.before, rest') ∧ Respaced r r' rest rest' := by
  have hlt := front?_length_lt hfront
  rw [skipOpening] at h
  split at h
  next => cases h
  next c u hfront' =>
    split at h
    next => cases h
    next hclosing =>
      obtain ⟨v, hname, hv⟩ := exists_of_map_eq_ok h
      cases hv
      have hu : r.length ≤ u.length := by
        rcases bracket with - | -
        · cases hname
          cases hfront'.symm.trans hfront
          exact hr
        · have hle := skipName_length_le_front hname hfront'
          omega
      obtain ⟨u', hfront'', -⟩ := hs.front hfront' hu
      obtain ⟨rest', hname', hrest⟩ := steadyScan_skipName bracket hs hname (by omega)
      refine ⟨rest', ?_, hrest⟩
      rw [skipOpening, hfront'', hname']
      exact if_neg hclosing

theorem steadyScan_skip (place : Place) (stack : List Bracket) : SteadyScan (skip place stack) := by
  intro r r' s s' rest hs h hr
  -- The run ends where the given end begins or in front of it, so that each byte that is found on
  -- the way stands in front of that end, and is found in the other text too.
  fun_induction skip place stack s generalizing s'
  case case1 =>
    cases h
    exact ⟨s', by rw [skip], hs⟩
  case case3 s bracket stack t hfront ih =>
    obtain ⟨t', hfront', hled⟩ := hs.front hfront (Nat.le_trans hr (skip_length_le h))
    rw [skip_closing hfront']
    exact ih (hled.of_mark (isMark_closing bracket)) h
  case case5 s bracket stack t u hname hfront _ ih =>
    have hu := Nat.le_trans hr (skip_length_le h)
    have ht := Nat.le_trans hu (skipName_length_le hname)
    obtain ⟨t', hfront', hled⟩ := hs.front hfront ht
    obtain ⟨u', hname', hs'⟩ := steadyScan_skipName bracket (hled.of_mark rfl) hname hu
    rw [skip_comma hfront' hname']
    exact ih hs' h
  case case9 s stack b t hfront bracket hb u hopening ih =>
    have hu := Nat.le_trans hr (skip_length_le h)
    obtain ⟨t', hfront', hled⟩ := hs.front hfront (Nat.le_trans hu (skipOpening_length_le hopening))
    obtain ⟨u', hopening', hs'⟩ :=
      (hled.of_mark (isMark_of_ofByte? hb)).skipOpening_after hopening hu
    rw [skip_empty hfront' hb hopening']
    exact ih hs' h
  case case10 s stack b t hfront bracket hb u hopening ih =>
    obtain ⟨c, v, hfrontu, hv⟩ := exists_front_of_skip h
    have hu := Nat.le_trans hr (skip_length_le h)
    obtain ⟨t', hfront', hled⟩ := hs.front hfront (Nat.le_trans hu (skipOpening_length_le hopening))
    obtain ⟨u', hopening', hs'⟩ :=
      (hled.of_mark (isMark_of_ofByte? hb)).skipOpening_before hopening hfrontu
        (Nat.le_trans hr hv)
    rw [skip_opening hfront' hb hopening']
    exact ih hs' h
  case case12 s stack b t hfront hb u hscalar ih =>
    have hu := Nat.le_trans hr (skip_length_le h)
    have ht := Nat.le_trans hu (skipScalar_length_le hscalar)
    obtain ⟨t', hfront', hled⟩ := hs.front hfront ht
    obtain ⟨u', hscalar', hs'⟩ := hled.skipScalar hscalar
    rw [skip_scalar hfront' hb hscalar']
    exact ih hs' h
  all_goals cases h

end SteadyScan

/-! ### Values in front of two texts -/

/-- A text that may stand in front of both of two texts. -/
def Leads (x : Bytes) : Prop :=
  ∀ ⦃r r' u u'⦄, Respaced r r' u u' → IsBreak u → IsBreak u' → Respaced r r' (x ++ u) (x ++ u')

section Leads

variable {r r' u u' : Bytes} (bracket : Bracket) {pieces : List Bytes}

theorem Respaced.append_pieces (h : ∀ piece ∈ pieces, Leads piece) (hs : Respaced r r' u u') :
    Respaced r r' (pieces.flatMap (0x2C :: ·) ++ bracket.closing :: u)
      (pieces.flatMap (0x2C :: ·) ++ bracket.closing :: u') := by
  induction pieces with
  | nil => exact .mark (isMark_closing bracket) hs
  | cons piece pieces ih =>
    obtain ⟨hpiece, hpieces⟩ := List.forall_mem_cons.1 h
    rw [List.flatMap_cons, List.append_assoc, List.append_assoc]
    exact .mark rfl (hpiece (ih hpieces) (isBreak_pieces u) (isBreak_pieces u'))

theorem Respaced.append_brackets (h : ∀ piece ∈ pieces, Leads piece) (hs : Respaced r r' u u') :
    Respaced r r' (bracket.opening :: (joinByComma pieces ++ bracket.closing :: u))
      (bracket.opening :: (joinByComma pieces ++ bracket.closing :: u')) := by
  refine .mark (isMark_of_ofByte? bracket.ofByte?_opening) ?_
  rcases pieces with - | ⟨piece, pieces⟩
  · exact .mark (isMark_closing bracket) hs
  · obtain ⟨hpiece, hpieces⟩ := List.forall_mem_cons.1 h
    rw [joinByComma_cons, List.append_assoc, List.append_assoc]
    exact hpiece (hs.append_pieces bracket hpieces) (isBreak_pieces u) (isBreak_pieces u')

end Leads

theorem leads_plain {w : Bytes} (h : ∀ c ∈ w, isPlain c = true) : Leads w :=
  fun _ _ _ _ hs hb hb' => hs.append_plain h hb hb'

theorem leads_member {m : Member} (hname : IsStringRest m.name) (hvalue : Leads m.value) :
    Leads m.text := by
  intro r r' u u' hs hb hb'
  rw [Member.text, List.cons_append, List.cons_append, List.append_assoc, List.append_assoc]
  exact .string hname (.mark rfl (hvalue hs hb hb'))

/-- A value may stand in front of both texts. -/
theorem IsJson.leads {x : Bytes} (h : IsJson x) : Leads x := by
  induction h with
  | word h =>
    rcases h with rfl | rfl | rfl
    · exact leads_plain (by decide +kernel)
    · exact leads_plain (by decide +kernel)
    · exact leads_plain (by decide +kernel)
  | number h => exact leads_plain h.all_plain
  | string h =>
    intro r r' u u' hs _ _
    exact .string h hs
  | array h ih =>
    intro r r' u u' hs _ _
    rw [printArray, List.append_assoc, List.append_assoc]
    exact hs.append_brackets .array ih
  | @object ms hnames hvalues ih =>
    have hpieces : ∀ piece ∈ ms.map Member.text, Leads piece := by
      intro piece hpiece
      obtain ⟨m, hm, rfl⟩ := List.mem_map.1 hpiece
      exact leads_member (hnames m hm) (ih m hm)
    intro r r' u u' hs _ _
    rw [printObject, List.append_assoc, List.append_assoc]
    exact hs.append_brackets .object hpieces

end Courier.Json
