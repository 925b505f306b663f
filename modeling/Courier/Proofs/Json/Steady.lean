import Courier.Proofs.Json.Spacing

/-!
# Values are read whatever their layout

What is read of one text is read of another one that differs from it in nothing but white space, and
what remains of the two differs in nothing else. A string is read up to its closing mark and a
natural number up to its last digit, so that it does not matter what follows them either.

* `exists_of_unescape`, `exists_of_number`: strings and natural numbers, whatever follows them.
* `LayoutFree`: readers for which the layout of what they read makes no difference.
* `LayoutFree.elements`, `LayoutFreeMembers.members`: the elements of an array and the members of an
  object.
-/

namespace Courier.Json

/-! ### Strings -/

section Strings

variable {s rest bytes : Bytes}

theorem unescape_closing (s : Bytes) : unescape (0x22 :: s) = .ok ([], s) := by
  rw [unescape]

theorem unescape_escape {e b : UInt8} (hletter : e ≠ 0x75) (h : escapedByte? e = some b)
    (s : Bytes) : unescape (0x5C :: e :: s) = prepend [b] (unescape s) := by
  rw [unescape]
  · simp only [h]
  · exact fun _ _ _ _ _ hu _ => hletter hu
  · exact hletter

theorem unescape_plain {b : UInt8} (hmark : b ≠ 0x22) (hescape : b ≠ 0x5C) (h : ¬ b < 0x20)
    (s : Bytes) : unescape (b :: s) = prepend [b] (unescape s) := by
  rw [unescape, if_neg h]
  all_goals simp [hmark, hescape]

theorem unescape_unit {a b c d : UInt8} {n : Nat} (hunit : hexUnit? a b c d = some n)
    (hlow : ¬ isLowUnit n = true) (hhigh : ¬ isHighUnit n = true) (s : Bytes) :
    unescape (0x5C :: 0x75 :: a :: b :: c :: d :: s) = prepend (encodePoint n) (unescape s) := by
  rw [unescape, hunit]
  exact (if_neg hlow).trans (if_neg hhigh)

theorem unescape_pair {a b c d a' b' c' d' : UInt8} {n m : Nat} (hunit : hexUnit? a b c d = some n)
    (hlow : ¬ isLowUnit n = true) (hhigh : isHighUnit n = true)
    (hunit' : hexUnit? a' b' c' d' = some m) (hlow' : isLowUnit m = true) (s : Bytes) :
    unescape (0x5C :: 0x75 :: a :: b :: c :: d ::
      0x5C :: 0x75 :: a' :: b' :: c' :: d' :: s) =
        prepend (encodePoint (joinUnits n m)) (unescape s) := by
  rw [unescape, hunit]
  refine (if_neg hlow).trans ((if_pos hhigh).trans ?_)
  simp only [hunit', hlow', if_true]

theorem prepend_eq_ok {front : Bytes} {read : Except Fault (Bytes × Bytes)}
    (h : prepend front read = .ok (bytes, rest)) :
    ∃ bytes', read = .ok (bytes', rest) ∧ bytes = front ++ bytes' := by
  rcases read with fault | ⟨bytes', rest'⟩
  · cases h
  · cases h
    exact ⟨bytes', rfl, rfl⟩

/-- Of a string that is read, the escapes are resolved whatever follows it. -/
theorem exists_of_unescape (h : unescape s = .ok (bytes, rest)) :
    ∃ q, s = q ++ rest ∧ ∀ u, unescape (q ++ u) = .ok (bytes, u) := by
  fun_induction unescape s generalizing bytes
  case case2 s =>
    cases h
    exact ⟨[0x22], rfl, fun u => by rw [List.singleton_append, unescape_closing]⟩
  case case6 a b c d n hunit hlow hhigh a' b' c' d' s m hunit' hlow' ih =>
    obtain ⟨bytes', h', hbytes⟩ := prepend_eq_ok h
    obtain ⟨q, rfl, hq⟩ := ih h'
    refine ⟨0x5C :: 0x75 :: a :: b :: c :: d :: 0x5C :: 0x75 :: a' :: b' :: c' :: d' :: q, rfl,
      fun u => ?_⟩
    simp only [List.cons_append]
    rw [unescape_pair hunit hlow hhigh hunit' hlow', hq, prepend, hbytes]
  case case12 a b c d s n hunit hlow hhigh ih =>
    obtain ⟨bytes', h', hbytes⟩ := prepend_eq_ok h
    obtain ⟨q, rfl, hq⟩ := ih h'
    refine ⟨0x5C :: 0x75 :: a :: b :: c :: d :: q, rfl, fun u => ?_⟩
    simp only [List.cons_append]
    rw [unescape_unit hunit hlow hhigh, hq, prepend, hbytes]
  case case16 e s hlast hletter b hescaped ih =>
    obtain ⟨bytes', h', hbytes⟩ := prepend_eq_ok h
    obtain ⟨q, rfl, hq⟩ := ih h'
    refine ⟨0x5C :: e :: q, rfl, fun u => ?_⟩
    rw [List.cons_append, List.cons_append, unescape_escape hletter hescaped, hq, prepend, hbytes]
  case case18 b s hmark _ hlast _ hescape hplain ih =>
    obtain ⟨bytes', h', hbytes⟩ := prepend_eq_ok h
    obtain ⟨q, rfl, hq⟩ := ih h'
    refine ⟨b :: q, rfl, fun u => ?_⟩
    rw [List.cons_append, unescape_plain hmark (ne_escape hlast hescape) hplain, hq, prepend,
      hbytes]
  all_goals cases h

end Strings

section Quote

variable {q s rest : Bytes} {text : String}

/-- A string is read in the same way when more bytes follow. -/
theorem unquote_append (h : unquote s = .ok (text, rest)) (r : Bytes) :
    unquote (s ++ r) = .ok (text, rest ++ r) := by
  obtain ⟨bytes, hbytes, htext⟩ := exists_of_unquote h
  obtain ⟨q, rfl, hany⟩ := exists_of_unescape hbytes
  rw [List.append_assoc, unquote, hany]
  simp only [htext]

/-- A string of the grammar is read up to its end, whatever follows it. -/
theorem IsStringRest.unquote (hq : IsStringRest q) (h : Json.unquote (q ++ s) = .ok (text, rest)) :
    rest = s ∧ ∀ s', Json.unquote (q ++ s') = .ok (text, s') := by
  obtain ⟨bytes, hbytes, htext⟩ := exists_of_unquote h
  -- What is read of the string is what is passed over, which is all of it.
  cases (hq.skipString s).symm.trans (skipString_of_unescape hbytes)
  obtain ⟨q', hq', hany⟩ := exists_of_unescape hbytes
  obtain rfl := List.append_cancel_right hq'
  refine ⟨rfl, fun s' => ?_⟩
  rw [Json.unquote, hany]
  simp only [htext]

end Quote

section Led

variable {r r' s s' t t' rest : Bytes} {b : UInt8}

theorem Led.unquote {text : String} (h : Led r r' 0x22 t t')
    (hquote : Json.unquote t = .ok (text, rest)) :
    ∃ rest', Json.unquote t' = .ok (text, rest') ∧ Respaced r r' rest rest' := by
  cases h with
  | mark h hs => cases h
  | @string q s s' h hs =>
    obtain ⟨rfl, hany⟩ := h.unquote hquote
    exact ⟨s', hany s', hs⟩
  | plain h => cases h 0x22 List.mem_cons_self

/-! ### Natural numbers -/

theorem IsBreak.takeDigits {w u : Bytes} (hu : IsBreak u) (bound value count : Nat) :
    takeDigits bound value count (w ++ u) =
      ((takeDigits bound value count w).1, (takeDigits bound value count w).2.1,
        (takeDigits bound value count w).2.2 ++ u) := by
  induction w generalizing value count with
  | nil =>
    rcases u with - | ⟨b, u⟩
    · rfl
    · have hb : isDigit b = false := Bool.eq_false_iff.2 (hu.not_isDigit rfl)
      simp [Json.takeDigits, hb]
  | cons b w ih =>
    rw [List.cons_append, Json.takeDigits, Json.takeDigits]
    split
    · exact ih _ _
    · rfl

theorem IsBreak.countDigits {w u : Bytes} (hu : IsBreak u) :
    (countDigits (w ++ u)).1 = (countDigits w).1 := by
  have hnone : u.takeWhile isDigit = [] := by
    rcases u with - | ⟨b, u⟩
    · rfl
    · exact List.takeWhile_cons_of_neg (hu.not_isDigit rfl)
  rw [Json.countDigits, Json.countDigits, List.takeWhile_append, hnone]
  split
  next hall => rw [List.append_nil, hall]
  next => rfl

/-- A natural number that ends in front of a break ends in front of another one. -/
theorem EndsNatural.append {w : Bytes} (h : EndsNatural (w ++ s)) (hb' : IsBreak s') :
    EndsNatural (w ++ s') := by
  rcases w with - | ⟨c, w⟩
  · exact fun b hhead =>
      of_isPlain_eq_false (fun b => b ≠ 0x2E ∧ b ≠ 0x65 ∧ b ≠ 0x45) rfl (hb' b hhead)
  · exact h

/-- A natural number is read up to a break or before it, whatever follows. -/
theorem exists_of_number {isPositive : Bool} {w : Bytes} {n : Nat} (hb : IsBreak s)
    (h : number isPositive (w ++ s) = .ok (some n, rest)) :
    ∃ w', rest = w' ++ s ∧ w' <:+ w ∧
      ∀ s', IsBreak s' → number isPositive (w ++ s') = .ok (some n, w' ++ s') := by
  rcases w with - | ⟨c, w⟩
  · rcases s with - | ⟨c, s⟩
    · cases h
    · have hzero := of_isPlain_eq_false (· ≠ 0x30) rfl (hb c rfl)
      rw [List.nil_append, number_cons, if_neg hzero, if_neg (hb.not_isDigit rfl)] at h
      cases h
  rw [List.cons_append, number_cons, hb.any_head?, hb.dropDigits, ← List.cons_append,
    hb.takeDigits] at h
  dsimp only at h
  rw [hb.countDigits] at h
  split_ifs at h with hzero hnext hdigit
  · obtain ⟨rfl, -, rfl, rfl, hends⟩ := afterDigits_eq_some h
    refine ⟨w, rfl, List.suffix_cons c w, fun s' hb' => ?_⟩
    rw [List.cons_append, number_cons, if_pos hzero, hb'.any_head?, if_neg hnext,
      afterDigits_of_endsNatural (hends.append hb')]
    rfl
  · obtain ⟨rfl, hdropped, rfl, rfl, hends⟩ := afterDigits_eq_some h
    refine ⟨w.dropWhile isDigit, rfl, (List.dropWhile_suffix isDigit).trans (List.suffix_cons c w),
      fun s' hb' => ?_⟩
    rw [List.cons_append, number_cons, if_neg hzero, if_pos hdigit, hb'.dropDigits,
      ← List.cons_append, hb'.takeDigits]
    dsimp only
    rw [hb'.countDigits, hdropped, afterDigits_of_endsNatural (hends.append hb')]
    rfl

end Led

/-! ### Readers -/

/-- What is read in front of one end is read in front of the other, whatever white space there
    is. -/
def Steady {α : Type} (read : Reader α) : Prop :=
  ∀ ⦃r r' s s' a rest⦄, Respaced r r' s s' → read s = .ok (a, rest) → r.length ≤ rest.length →
    ∃ rest', read s' = .ok (a, rest') ∧ Respaced r r' rest rest'

/-- A reader for which the layout of what it reads makes no difference. -/
structure LayoutFree {α : Type} (read : Reader α) : Prop where
  passesOver : PassesOver read
  steady : Steady read

section Readers

variable {α : Type}

theorem steady_readText : Steady readText := by
  intro r r' s s' text rest hs h hr
  obtain ⟨t, hfront, hquote⟩ := exists_of_readText h
  obtain ⟨t', hfront', hled⟩ :=
    hs.front hfront (Nat.le_trans hr (Nat.le_of_lt (unquote_length_lt hquote)))
  obtain ⟨rest', hquote', hrest⟩ := hled.unquote hquote
  refine ⟨rest', ?_, hrest⟩
  rw [readText, hfront']
  exact (if_pos rfl).trans hquote'

theorem layoutFree_readText : LayoutFree readText := ⟨readText_passesOver, steady_readText⟩

theorem layoutFree_readSpelled (ofText? : String → Option α) :
    LayoutFree (readSpelled ofText?) where
  passesOver := readSpelled_passesOver ofText?
  steady := by
    intro r r' s s' a rest hs h hr
    obtain ⟨text, htext, ha⟩ := exists_of_readSpelled h
    obtain ⟨rest', htext', hrest⟩ := steady_readText hs htext hr
    refine ⟨rest', ?_, hrest⟩
    rw [readSpelled, htext']
    simp only [ha]

theorem layoutFree_readNatural (bound : Nat) : LayoutFree (readNatural bound) where
  passesOver := readNatural_passesOver bound
  steady := by
    intro r r' s s' n rest hs h hr
    obtain ⟨b, t, hfront, hdigit, hminus, hnumber, hle⟩ := exists_of_readNatural h
    obtain ⟨-, hmark, hquote⟩ := eq_of_isPlain (isPlain_of_isDigit hdigit)
    have hlt := skipNumber_length_lt (skipNumber_of_number hnumber).2
    obtain ⟨t', hfront', hled⟩ := hs.front hfront (Nat.le_trans hr (Nat.le_of_lt_succ hlt))
    cases hled with
    | mark h => cases h.symm.trans hmark
    | string => exact absurd rfl hquote
    | @plain _ w u u' hplain hb hb' hu =>
      obtain ⟨w', rfl, hsuffix, hany⟩ := exists_of_number (w := b :: w) hb hnumber
      refine ⟨w' ++ u', ?_, hu.append_plain (fun c hc => hplain c (hsuffix.subset hc)) hb hb'⟩
      rw [readNatural, hfront']
      dsimp only
      rw [if_pos (Or.inr hdigit), if_neg hminus, decide_eq_true hminus, ← List.cons_append,
        hany u' hb']
      exact if_pos hle

theorem layoutFree_readFlag : LayoutFree readFlag where
  passesOver := readFlag_passesOver
  steady := by
    intro r r' s s' flag rest hs h hr
    rcases exists_of_readFlag h with ⟨rfl, t, hfront, hword⟩ | ⟨rfl, t, hfront, hword⟩
    all_goals
      obtain ⟨t', hfront', hled⟩ := hs.front hfront (Nat.le_trans hr (word_length_le hword))
      obtain ⟨rest', hword', hrest⟩ := hled.word (List.all_eq_true.1 rfl) hword
      refine ⟨rest', ?_, hrest⟩
      rw [readFlag, hfront']
      dsimp only
      rw [hword']
      rfl

theorem steadyScan_readNull : SteadyScan readNull := by
  intro r r' s s' rest hs h hr
  obtain ⟨t, hfront, hword⟩ := exists_of_readNull h
  obtain ⟨t', hfront', hled⟩ := hs.front hfront (Nat.le_trans hr (word_length_le hword))
  obtain ⟨rest', hword', hrest⟩ := hled.word (List.all_eq_true.1 rfl) hword
  refine ⟨rest', ?_, hrest⟩
  rw [readNull, hfront']
  exact (if_pos rfl).trans hword'

theorem steadyScan_readClosing (bracket : Bracket) : SteadyScan (readClosing bracket) := by
  intro r r' s s' rest hs h hr
  obtain ⟨t', hfront', hled⟩ := hs.front (readClosing_eq_ok h) hr
  refine ⟨t', ?_, hled.of_mark (isMark_closing bracket)⟩
  rw [readClosing, hfront']
  exact if_pos rfl

theorem LayoutFree.map {β : Type} {read : Reader α} (hread : LayoutFree read) (f : α → β) :
    LayoutFree fun s => (read s).map fun (a, s) => (f a, s) where
  passesOver := hread.passesOver.map f
  steady := by
    intro r r' s s' b rest hs h hr
    obtain ⟨⟨a, rest⟩, ha, hb⟩ := exists_of_map_eq_ok h
    cases hb
    obtain ⟨rest', ha', hrest⟩ := hread.steady hs ha hr
    exact ⟨rest', congrArg (Except.map _) ha', hrest⟩

theorem LayoutFree.optional {read : Reader α} (hread : LayoutFree read) :
    LayoutFree (readOptional read) where
  passesOver := hread.passesOver.optional
  steady := by
    intro r r' s s' a rest hs h hr
    rw [readOptional] at h
    split at h
    next t hfront =>
      obtain ⟨rest', hword, hrest⟩ := exists_of_map_eq_ok h
      cases hrest
      obtain ⟨t', hfront', hled⟩ := hs.front hfront (Nat.le_trans hr (word_length_le hword))
      obtain ⟨rest', hword', hrest⟩ := hled.word (List.all_eq_true.1 rfl) hword
      refine ⟨rest', ?_, hrest⟩
      rw [readOptional, hfront']
      exact congrArg (Except.map _) hword'
    next hnull =>
      split at h
      next => cases h
      next a rest' ha =>
        cases h
        obtain ⟨b, t, hfront, hle⟩ := hread.passesOver.exists_front ha
        obtain ⟨t', hfront', -⟩ := hs.front hfront (Nat.le_trans hr hle)
        obtain ⟨rest', ha', hrest⟩ := hread.steady hs ha hr
        -- The first byte is the same, so that there is no null in the other text either.
        have hb : b ≠ 0x6E := fun hb => hnull t (hb ▸ hfront)
        refine ⟨rest', ?_, hrest⟩
        rw [readOptional, hfront']
        split
        next heq => exact absurd (congrArg Prod.fst (Option.some.inj heq)) hb
        next => rw [ha']

end Readers

/-! ### Arrays -/

section Elements

variable {α : Type} {read : Reader α} {isFirst : Bool} {r r' s s' t u rest : Bytes} {b : UInt8}
  {a : α} {as : List α}

theorem nextElement_eq_some (h : nextElement isFirst s = .ok (some t)) :
    ∃ b u, t = b :: u ∧ isSpace b = false ∧ u.length < s.length := by
  rcases isFirst with - | -
  · obtain ⟨v, b, u, hcomma, hfront, -, rfl⟩ := nextElement_later h
    exact ⟨b, u, rfl, isSpace_of_front? hfront,
      Nat.lt_trans (front?_length_lt hfront) (front?_length_lt hcomma)⟩
  · obtain ⟨b, u, hfront, -, rfl⟩ := nextElement_first h
    exact ⟨b, u, rfl, isSpace_of_front? hfront, front?_length_lt hfront⟩

theorem Respaced.nextElement_none (hs : Respaced r r' s s') (hfront : front? s = some (0x5D, t))
    (hr : r.length ≤ t.length) (isFirst : Bool) : nextElement isFirst s' = .ok none := by
  obtain ⟨t', hfront', -⟩ := hs.front hfront hr
  rw [nextElement, hfront']
  exact if_pos rfl

theorem Respaced.nextElement_some (hs : Respaced r r' s s')
    (h : nextElement isFirst s = .ok (some (b :: t))) (hr : r.length ≤ t.length) :
    ∃ t', nextElement isFirst s' = .ok (some (b :: t')) ∧ Led r r' b t t' := by
  rcases isFirst with - | -
  · obtain ⟨u, c, v, hcomma, hfront, hbracket, heq⟩ := nextElement_later h
    cases heq
    obtain ⟨u', hcomma', hu⟩ :=
      hs.front hcomma (Nat.le_trans hr (Nat.le_of_lt (front?_length_lt hfront)))
    obtain ⟨t', hfront', hled⟩ := (hu.of_mark rfl).front hfront hr
    refine ⟨t', ?_, hled⟩
    rw [nextElement, hcomma']
    simp only [hfront', if_neg hbracket]
    rfl
  · obtain ⟨c, v, hfront, hbracket, heq⟩ := nextElement_first h
    cases heq
    obtain ⟨t', hfront', hled⟩ := hs.front hfront hr
    refine ⟨t', ?_, hled⟩
    rw [nextElement, hfront']
    exact (if_neg hbracket).trans (if_pos rfl)

theorem readElements_length_le (h : readElements read isFirst s = .ok (as, rest)) :
    rest.length ≤ s.length := by
  generalize hlength : s.length = length
  induction length using Nat.strongRecOn generalizing isFirst as s with
  | _ length ih =>
    subst hlength
    rcases readElements_cases h with ⟨-, -, rfl⟩ | ⟨t, a, u, as', -, -, hlt, has, -⟩
    · exact Nat.le_refl _
    · exact Nat.le_trans (ih _ hlt has rfl) (Nat.le_of_lt hlt)

theorem readElements_some (hnext : nextElement isFirst s = .ok (some t)) (ha : read t = .ok (a, u))
    (hlt : u.length < s.length) :
    readElements read isFirst s =
      (readElements read false u).map fun (as, rest) => (a :: as, rest) := by
  rw [readElements, hnext]
  simp only [ha, if_pos hlt]

/-- Elements are read in front of both ends, with the bracket that closes their array. -/
theorem LayoutFree.elements (hread : LayoutFree read) (hs : Respaced r r' s s')
    (h : readElements read isFirst s = .ok (as, u)) (hclosing : readClosing .array u = .ok rest)
    (hr : r.length ≤ rest.length) :
    ∃ u', readElements read isFirst s' = .ok (as, u') ∧ Respaced r r' u u' := by
  have hbracket := readClosing_eq_ok hclosing
  have hu := front?_length_lt hbracket
  generalize hlength : s.length = length
  induction length using Nat.strongRecOn generalizing isFirst as s s' with
  | _ length ih =>
    subst hlength
    rcases readElements_cases h with ⟨-, rfl, rfl⟩ | ⟨t, a, v, as', hnext, ha, hlt, has, rfl⟩
    · refine ⟨s', ?_, hs⟩
      rw [readElements, hs.nextElement_none hbracket hr]
    · obtain ⟨b, w, rfl, hspace, -⟩ := nextElement_eq_some hnext
      have hv := readElements_length_le has
      have hw := hread.passesOver.length_le hspace ha
      obtain ⟨w', hnext', hled⟩ := hs.nextElement_some hnext (by omega)
      obtain ⟨v', ha', hs'⟩ := hread.steady hled.cons ha (by omega)
      -- The elements of the other text are read only as long as it gets shorter.
      have hlt' : v'.length < s'.length := by
        obtain ⟨_, _, heq, -, hlt'⟩ := nextElement_eq_some hnext'
        cases heq
        exact Nat.lt_of_le_of_lt (hread.passesOver.length_le hspace ha') hlt'
      obtain ⟨u', has', hrest⟩ := ih _ hlt hs' has rfl
      refine ⟨u', ?_, hrest⟩
      rw [readElements_some hnext' ha' hlt', has']
      rfl

theorem layoutFree_readBytes : LayoutFree readBytes where
  passesOver := readBytes_passesOver
  steady := by
    intro r r' s s' bytes rest hs h hr
    obtain ⟨t, ns, u, hfront, hns, hclosing, rfl⟩ := exists_of_readBytes h
    have hu := front?_length_lt (readClosing_eq_ok hclosing)
    have ht := readElements_length_le hns
    obtain ⟨t', hfront', hled⟩ := hs.front hfront (by omega)
    obtain ⟨u', hns', hu'⟩ :=
      (layoutFree_readNatural 255).elements (hled.of_mark rfl) hns hclosing hr
    obtain ⟨rest', hclosing', hrest⟩ := steadyScan_readClosing .array hu' hclosing hr
    refine ⟨rest', ?_, hrest⟩
    rw [readBytes, hfront']
    simp only [if_true, hns', hclosing']
    rfl

end Elements

/-! ### Objects -/

section Members

variable {α : Type} {read : α → String → Reader α} {isFirst : Bool} {r r' s s' t u rest : Bytes}
  {a a' a'' : α} {name : String}

theorem nextMember_eq_some (h : nextMember isFirst s = .ok (some t)) : t.length < s.length := by
  rcases isFirst with - | -
  · obtain ⟨u, hcomma, hmark⟩ := nextMember_later h
    exact Nat.lt_trans (front?_length_lt hmark) (front?_length_lt hcomma)
  · exact front?_length_lt (nextMember_first h)

theorem Respaced.nextMember_none (hs : Respaced r r' s s') (hfront : front? s = some (0x7D, t))
    (hr : r.length ≤ t.length) (isFirst : Bool) : nextMember isFirst s' = .ok none := by
  obtain ⟨t', hfront', -⟩ := hs.front hfront hr
  rw [nextMember, hfront']
  exact if_pos rfl

theorem Respaced.nextMember_some (hs : Respaced r r' s s')
    (h : nextMember isFirst s = .ok (some t)) (hr : r.length ≤ t.length) :
    ∃ t', nextMember isFirst s' = .ok (some t') ∧ Led r r' 0x22 t t' := by
  rcases isFirst with - | -
  · obtain ⟨u, hcomma, hmark⟩ := nextMember_later h
    obtain ⟨u', hcomma', hu⟩ :=
      hs.front hcomma (Nat.le_trans hr (Nat.le_of_lt (front?_length_lt hmark)))
    obtain ⟨t', hmark', hled⟩ := (hu.of_mark rfl).front hmark hr
    refine ⟨t', ?_, hled⟩
    rw [nextMember, hcomma']
    simp only [hmark']
    rfl
  · obtain ⟨t', hmark', hled⟩ := hs.front (nextMember_first h) hr
    refine ⟨t', ?_, hled⟩
    rw [nextMember, hmark']
    rfl

theorem PassesMembers.length_lt (hread : PassesMembers read)
    (h : read a name s = .ok (a', rest)) : rest.length < s.length := by
  obtain ⟨t, hcolon, hvalue⟩ := exists_of_bind_eq_ok (hread h)
  exact Nat.lt_of_le_of_lt (skip_length_le hvalue) (skipColon_length_lt hcolon)

theorem readMembers_length_le (h : readMembers read isFirst a s = .ok (a', rest)) :
    rest.length ≤ s.length := by
  generalize hlength : s.length = length
  induction length using Nat.strongRecOn generalizing isFirst a s with
  | _ length ih =>
    subst hlength
    rcases readMembers_cases h with ⟨-, rfl⟩ | ⟨t, name, u, a'', s', -, -, -, hlt, h⟩
    · exact Nat.le_refl _
    · exact Nat.le_trans (ih _ hlt h rfl) (Nat.le_of_lt hlt)

theorem readMembers_some (hnext : nextMember isFirst s = .ok (some t))
    (hname : unquote t = .ok (name, u)) (hmember : read a name u = .ok (a', rest))
    (hlt : rest.length < s.length) :
    readMembers read isFirst a s = readMembers read false a' rest := by
  rw [readMembers, hnext]
  simp only [hname, hmember, if_pos hlt]

/-- A reader of members for which the layout of a member makes no difference. -/
structure LayoutFreeMembers (read : α → String → Reader α) : Prop where
  passesMembers : PassesMembers read
  steady : ∀ a name, Steady (read a name)

/-- Members are read in front of both ends, with the bracket that closes their object. -/
theorem LayoutFreeMembers.members (hread : LayoutFreeMembers read) (hs : Respaced r r' s s')
    (h : readMembers read isFirst a s = .ok (a', u)) (hclosing : readClosing .object u = .ok rest)
    (hr : r.length ≤ rest.length) :
    ∃ u', readMembers read isFirst a s' = .ok (a', u') ∧ Respaced r r' u u' := by
  have hbracket := readClosing_eq_ok hclosing
  have hu := front?_length_lt hbracket
  generalize hlength : s.length = length
  induction length using Nat.strongRecOn generalizing isFirst a s s' with
  | _ length ih =>
    subst hlength
    rcases readMembers_cases h with
      ⟨hnone, rfl⟩ | ⟨t, name, v, a'', w, hnext, hname, hmember, hlt, h⟩
    · rw [readMembers, hnone] at h
      cases h
      refine ⟨s', ?_, hs⟩
      rw [readMembers, hs.nextMember_none hbracket hr]
    · have hw := readMembers_length_le h
      have hv := hread.passesMembers.length_lt hmember
      have ht := unquote_length_lt hname
      obtain ⟨t', hnext', hled⟩ := hs.nextMember_some hnext (by omega)
      obtain ⟨v', hname', hv'⟩ := hled.unquote hname
      obtain ⟨w', hmember', hw'⟩ := hread.steady _ _ hv' hmember (by omega)
      -- The members of the other text are read only as long as it gets shorter.
      have hlt' : w'.length < s'.length := by
        have hlt' := nextMember_eq_some hnext'
        have hv' := hread.passesMembers.length_lt hmember'
        have ht' := unquote_length_lt hname'
        omega
      obtain ⟨u', h', hrest⟩ := ih _ hlt hw' h rfl
      refine ⟨u', ?_, hrest⟩
      rw [readMembers_some hnext' hname' hmember' hlt', h']

/-- The value of a member, with its colon. -/
theorem LayoutFree.colon {read : Reader α} (hread : LayoutFree read) :
    Steady fun s => skipColon s >>= read := by
  intro r r' s s' a rest hs h hr
  obtain ⟨t, hcolon, ha⟩ := exists_of_bind_eq_ok h
  have ht := skip_length_le (hread.passesOver ha)
  obtain ⟨t', hcolon', ht'⟩ := steadyScan_skipColon hs hcolon (Nat.le_trans hr ht)
  obtain ⟨rest', ha', hrest⟩ := hread.steady ht' ha hr
  refine ⟨rest', ?_, hrest⟩
  dsimp only
  rw [hcolon', ok_bind, ha']

theorem layoutFreeMembers_readEntry : LayoutFreeMembers readEntry where
  passesMembers := readEntry_passesMembers
  steady m name := by
    intro r r' s s' m' rest hs h hr
    rw [readEntry] at h
    split at h
    next => cases h
    next value rest' hvalue =>
      cases h
      obtain ⟨rest', hvalue', hrest⟩ := layoutFree_readText.colon hs hvalue hr
      refine ⟨rest', ?_, hrest⟩
      rw [readEntry]
      simp only [hvalue']

theorem layoutFree_readTextMap : LayoutFree readTextMap where
  passesOver := readTextMap_passesOver
  steady := by
    intro r r' s s' m rest hs h hr
    obtain ⟨t, u, hfront, hmembers, hclosing⟩ := exists_of_readTextMap h
    have hu := front?_length_lt (readClosing_eq_ok hclosing)
    have ht := readMembers_length_le hmembers
    obtain ⟨t', hfront', hled⟩ := hs.front hfront (by omega)
    obtain ⟨u', hmembers', hu'⟩ :=
      layoutFreeMembers_readEntry.members (hled.of_mark rfl) hmembers hclosing hr
    obtain ⟨rest', hclosing', hrest⟩ := steadyScan_readClosing .object hu' hclosing hr
    refine ⟨rest', ?_, hrest⟩
    rw [readTextMap, hfront']
    simp only [if_true]
    generalize hresult : readMembers _ true TextMap.empty t' = result
    obtain rfl : result = .ok (m, u') := hresult.symm.trans hmembers'
    simp only [hclosing']
    rfl

theorem layoutFree_readNamed [Named α] : LayoutFree (readNamed (α := α)) where
  passesOver := readNamed_passesOver
  steady := by
    intro r r' s s' a rest hs h hr
    rcases exists_of_readNamed h with h | ⟨t, u, v, w, hfront, hname, hcolon, hnull, hclosing⟩
    · obtain ⟨text, htext, -⟩ := exists_of_readSpelled h
      obtain ⟨t, hmark, hquote⟩ := exists_of_readText htext
      have ht := unquote_length_lt hquote
      obtain ⟨t', hmark', -⟩ := hs.front hmark (by omega)
      obtain ⟨rest', h', hrest⟩ := (layoutFree_readSpelled _).steady hs h hr
      refine ⟨rest', ?_, hrest⟩
      rw [readNamed, hmark']
      exact (if_pos rfl).trans h'
    · have hw := front?_length_lt (readClosing_eq_ok hclosing)
      have hv := skip_length_le (skipValue_of_readNull hnull)
      have hu := skipColon_length_lt hcolon
      have ht := skip_length_le (readSpelled_passesOver _ hname)
      obtain ⟨t', hfront', hled⟩ := hs.front hfront (by omega)
      obtain ⟨u', hname', hu'⟩ :=
        (layoutFree_readSpelled _).steady (hled.of_mark rfl) hname (by omega)
      obtain ⟨v', hcolon', hv'⟩ := steadyScan_skipColon hu' hcolon (by omega)
      obtain ⟨w', hnull', hw'⟩ := steadyScan_readNull hv' hnull (by omega)
      obtain ⟨rest', hclosing', hrest⟩ := steadyScan_readClosing .object hw' hclosing hr
      refine ⟨rest', ?_, hrest⟩
      rw [readNamed, hfront']
      simp only [if_true, hname', hcolon', ok_bind, hnull', hclosing']
      rfl

end Members

end Courier.Json
