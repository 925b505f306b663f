import Courier.Proofs.Json.Layout

/-!
# Members in any order

A member of an object that has the name of a field fills the slot of that field, and no member
changes what another one does. So the members of an object that is read as a record may change
places, and members with other names may be put between them, whatever they hold. Two members with
the name of one field are never read.

* `Spells`: a text is an object of given members.
* `Takes`, `TakesAll`: what members do to the slots of the fields.
* `TakesAll.perm`, `TakesAll.append_foreign`: members in another order, and more of them.
* `Model.parse_of_perm`, `Model.parse_ne_of_twice`: what that means for a text.
-/

namespace Courier.Json

/-! ### Texts of objects -/

/-- A member is well-formed. -/
structure Member.WellFormed (m : Member) : Prop where
  name : IsStringRest m.name
  value : IsJson m.value

/-- The name of a member says a text. -/
def Member.Says (m : Member) (name : String) : Prop := unquote m.name = .ok (name, [])

/-- A text is an object of the given members in their order, with any white space. -/
structure Spells (ms : List Member) (s : Bytes) : Prop where
  wellFormed : ∀ m ∈ ms, m.WellFormed
  respaced : Respaced [] [] (printObject (ms.map Member.text)) s

/-- What is in the grammar is spelled by itself. -/
theorem IsJson.respaced_self {x : Bytes} (h : IsJson x) : Respaced [] [] x x := by
  have hself := h.leads .rest isBreak_nil isBreak_nil
  rwa [List.append_nil] at hself

theorem spells_self {ms : List Member} (h : ∀ m ∈ ms, m.WellFormed) :
    Spells ms (printObject (ms.map Member.text)) :=
  ⟨h, (IsJson.object (fun m hm => (h m hm).name) fun m hm => (h m hm).value).respaced_self⟩

section Names

variable {m : Member} {name name' : String} {s rest : Bytes}

theorem Member.Says.unique (h : m.Says name) (h' : m.Says name') : name = name' := by
  rw [Says, h, Except.ok.injEq, Prod.mk.injEq] at h'
  exact h'.1

/-- What is read of the name of a member is what it says, and what follows it remains. -/
theorem Member.WellFormed.says_name (hm : m.WellFormed)
    (h : unquote (m.name ++ s) = .ok (name, rest)) : m.Says name ∧ rest = s := by
  obtain ⟨hrest, hany⟩ := hm.name.unquote h
  have hself := hany []
  rw [List.append_nil] at hself
  exact ⟨hself, hrest⟩

end Names

/-! ### Slots -/

section Takes

variable {fs : List Field}

/-- A member of the given name and value takes the slots from one state to another. -/
def Takes (fs : List Field) (slots : Slots fs) (name : String) (value : Bytes)
    (slots' : Slots fs) : Prop :=
  ∀ s, IsEnd s → readSlot fs slots name (0x3A :: (value ++ s)) = .ok (slots', s)

/-- The value of a member is read as a value of a field. -/
def ReadsAs (f : Field) (value : Bytes) (a : f.type) : Prop :=
  ∀ s, IsEnd s → f.codec.read (value ++ s) = .ok (a, s)

theorem isEnd_nil : IsEnd [] := fun _ hb => nomatch hb

theorem skipColon_colon (s : Bytes) : skipColon (0x3A :: s) = .ok s := by
  rw [skipColon, front?_cons rfl]
  rfl

variable {f : Field} {slot slot' : Option f.type} {slots slots' slots'' : Slots fs}
  {name name' : String} {value value' s : Bytes}

theorem readSlot_hit (hname : name = f.name) :
    readSlot (f :: fs) (none, slots) name (0x3A :: s) =
      (f.codec.read s).map fun (a, s) => ((some a, slots), s) := by
  refine (if_pos hname).trans ?_
  rw [skipColon_colon, ok_bind]
  rcases f.codec.read s with fault | ⟨a, rest⟩
  · rfl
  · rfl

theorem readSlot_twice (hname : name = f.name) (a : f.type) :
    readSlot (f :: fs) (some a, slots) name s = .error .mismatched :=
  if_pos hname

theorem readSlot_miss (hname : name ≠ f.name) :
    readSlot (f :: fs) (slot, slots) name s =
      (readSlot fs slots name s).map fun (slots, s) => ((slot, slots), s) :=
  if_neg hname

/-- The member has the name of the first field, whose slot it fills, or it is one for the other
    fields. -/
theorem takes_cons_iff :
    Takes (f :: fs) (slot, slots) name value (slot', slots') ↔
      (name = f.name ∧ slot = none ∧ slots' = slots ∧ ∃ a, slot' = some a ∧ ReadsAs f value a) ∨
        (name ≠ f.name ∧ slot' = slot ∧ Takes fs slots name value slots') := by
  constructor
  · intro h
    by_cases hname : name = f.name
    · rcases slot with - | a
      · have hhit : ∀ s, IsEnd s → ∃ a, slot' = some a ∧ slots' = slots ∧
            f.codec.read (value ++ s) = .ok (a, s) := by
          intro s hs
          have hread := h s hs
          rw [readSlot_hit hname] at hread
          obtain ⟨⟨a, rest⟩, ha, heq⟩ := exists_of_map_eq_ok hread
          cases heq
          exact ⟨a, rfl, rfl, ha⟩
        -- What follows the value has no part in what it is read as.
        obtain ⟨a, hslot, hslots, -⟩ := hhit [] isEnd_nil
        refine .inl ⟨hname, rfl, hslots, a, hslot, fun s hs => ?_⟩
        obtain ⟨a', hslot', -, ha⟩ := hhit s hs
        cases hslot.symm.trans hslot'
        exact ha
      · cases (readSlot_twice hname a).symm.trans (h [] isEnd_nil)
    · have hmiss : ∀ s, IsEnd s → slot' = slot ∧
          readSlot fs slots name (0x3A :: (value ++ s)) = .ok (slots', s) := by
        intro s hs
        have hread := h s hs
        rw [readSlot_miss hname] at hread
        obtain ⟨⟨slots'', rest⟩, hslots, heq⟩ := exists_of_map_eq_ok hread
        cases heq
        exact ⟨rfl, hslots⟩
      exact .inr ⟨hname, (hmiss [] isEnd_nil).1, fun s hs => (hmiss s hs).2⟩
  · rintro (⟨hname, rfl, rfl, a, rfl, ha⟩ | ⟨hname, rfl, h⟩)
    · intro s hs
      rw [readSlot_hit hname, ha s hs]
      rfl
    · intro s hs
      rw [readSlot_miss hname, h s hs]
      rfl

/-- A member with another name than all fields changes nothing. -/
theorem takes_foreign (hvalue : IsJson value) (hname : ∀ f ∈ fs, f.name ≠ name)
    (slots : Slots fs) : Takes fs slots name value slots := by
  induction fs with
  | nil =>
    intro s hs
    have hskip : skipValue (value ++ s) = .ok s := by
      rw [skipValue, hvalue.skip hs.isBreak [], skip]
    exact congrArg (Except.map _) ((congrArg (· >>= skipValue) (skipColon_colon _)).trans hskip)
  | cons f fs ih =>
    obtain ⟨hf, hfs⟩ := List.forall_mem_cons.1 hname
    exact takes_cons_iff.2 (.inr ⟨hf.symm, rfl, ih hfs slots.2⟩)

/-- Two members do the same one after the other in either order. -/
theorem Takes.swap (h : Takes fs slots name value slots')
    (h' : Takes fs slots' name' value' slots'') :
    ∃ t, Takes fs slots name' value' t ∧ Takes fs t name value slots'' := by
  induction fs with
  | nil => exact ⟨(), h', h⟩
  | cons f fs ih =>
    obtain ⟨slot, slots⟩ := slots
    obtain ⟨slot', slots'⟩ := slots'
    obtain ⟨slot'', slots''⟩ := slots''
    rcases takes_cons_iff.1 h with ⟨hname, rfl, rfl, a, rfl, ha⟩ | ⟨hname, rfl, hfs⟩
    · rcases takes_cons_iff.1 h' with ⟨hname', hslot, -⟩ | ⟨hname', rfl, hfs'⟩
      · -- Both would have to fill the same slot.
        cases hslot
      · exact ⟨(none, slots''), takes_cons_iff.2 (.inr ⟨hname', rfl, hfs'⟩),
          takes_cons_iff.2 (.inl ⟨hname, rfl, rfl, a, rfl, ha⟩)⟩
    · rcases takes_cons_iff.1 h' with ⟨hname', rfl, rfl, a, rfl, ha⟩ | ⟨hname', rfl, hfs'⟩
      · exact ⟨(some a, slots), takes_cons_iff.2 (.inl ⟨hname', rfl, rfl, a, rfl, ha⟩),
          takes_cons_iff.2 (.inr ⟨hname, rfl, hfs⟩)⟩
      · obtain ⟨t, ht, ht'⟩ := ih hfs hfs'
        exact ⟨(_, t), takes_cons_iff.2 (.inr ⟨hname', rfl, ht⟩),
          takes_cons_iff.2 (.inr ⟨hname, rfl, ht'⟩)⟩

/-- A slot is not filled twice. -/
theorem Takes.not_twice {f : Field} (hf : f ∈ fs) (h : Takes fs slots f.name value slots') :
    ¬ Takes fs slots' f.name value' slots'' := by
  intro h'
  induction fs with
  | nil => cases hf
  | cons g fs ih =>
    obtain ⟨slot, slots⟩ := slots
    obtain ⟨slot', slots'⟩ := slots'
    obtain ⟨slot'', slots''⟩ := slots''
    rcases takes_cons_iff.1 h with ⟨hname, -, -, a, rfl, -⟩ | ⟨hname, -, hfs⟩
    · rcases takes_cons_iff.1 h' with ⟨-, hslot, -⟩ | ⟨hname', -, -⟩
      · -- The slot has just been filled.
        cases hslot
      · exact hname' hname
    · rcases takes_cons_iff.1 h' with ⟨hname', -⟩ | ⟨-, -, hfs'⟩
      · exact hname hname'
      · rcases List.mem_cons.1 hf with rfl | hf
        · exact hname rfl
        · exact ih hf hfs hfs'

end Takes

/-- Members take the slots from one state to another, one after the other. -/
inductive TakesAll (fs : List Field) : Slots fs → List Member → Slots fs → Prop
  | nil (slots : Slots fs) : TakesAll fs slots [] slots
  | cons {slots slots' slots'' : Slots fs} {m : Member} {ms : List Member} {name : String}
      (hname : m.Says name) (h : Takes fs slots name m.value slots')
      (hs : TakesAll fs slots' ms slots'') : TakesAll fs slots (m :: ms) slots''

section TakesAll

variable {fs : List Field} {slots slots' : Slots fs} {m m' : Member} {ms ms' : List Member}
  {name : String}

/-- Members do the same in any order. -/
theorem TakesAll.perm (h : TakesAll fs slots ms slots') (hp : ms.Perm ms') :
    TakesAll fs slots ms' slots' := by
  induction hp generalizing slots with
  | nil => exact h
  | cons m hp ih =>
    cases h with
    | cons hname h hs => exact .cons hname h (ih hs)
  | swap m' m ms =>
    cases h with
    | cons hname h hs =>
      cases hs with
      | cons hname' h' hs =>
        obtain ⟨t, ht', ht⟩ := h.swap h'
        exact .cons hname' ht' (.cons hname ht hs)
  | trans hp hp' ih ih' => exact ih' (ih h)

/-- A member has a name that is not that of a field. -/
def Member.IsForeign (m : Member) (fs : List Field) : Prop :=
  ∃ name, m.Says name ∧ ∀ f ∈ fs, f.name ≠ name

/-- More members with other names change nothing. -/
theorem TakesAll.append_foreign (h : TakesAll fs slots ms slots')
    (hms' : ∀ m ∈ ms', m.WellFormed ∧ m.IsForeign fs) : TakesAll fs slots (ms ++ ms') slots' := by
  induction h with
  | nil slots =>
    induction ms' with
    | nil => exact .nil slots
    | cons m ms' ih =>
      obtain ⟨⟨hm, name, hname, hother⟩, hms'⟩ := List.forall_mem_cons.1 hms'
      exact .cons hname (takes_foreign hm.value hother slots) (ih hms')
  | cons hname h hs ih => exact .cons hname h ih

/-- Two members with the name of one field are not taken. -/
theorem not_takesAll_twice {f : Field} (hf : f ∈ fs) (hm : m.Says f.name) (hm' : m'.Says f.name)
    (h : ms.Perm (m :: m' :: ms')) : ¬ TakesAll fs slots ms slots' := by
  intro hms
  cases hms.perm h with
  | cons hname htakes hs =>
    cases hs with
    | cons hname' htakes' hs =>
      cases hname.unique hm
      cases hname'.unique hm'
      exact htakes.not_twice hf htakes'

/-! ### Reading members -/

theorem Member.text_append (m : Member) (s : Bytes) :
    m.text ++ s = 0x22 :: (m.name ++ 0x3A :: (m.value ++ s)) := by
  simp [text]

theorem nextMember_text_first (m : Member) (s : Bytes) :
    nextMember true (m.text ++ s) = .ok (some (m.name ++ 0x3A :: (m.value ++ s))) := by
  rw [m.text_append]
  rfl

theorem nextMember_text_later (m : Member) (s : Bytes) :
    nextMember false (0x2C :: (m.text ++ s)) = .ok (some (m.name ++ 0x3A :: (m.value ++ s))) := by
  rw [m.text_append]
  rfl

theorem isEnd_members (ms : List Member) (u : Bytes) :
    IsEnd ((ms.map Member.text).flatMap (0x2C :: ·) ++ 0x7D :: u) :=
  isEnd_flatMap _ (isEnd_closing .object u)

variable {s u rest : Bytes}

theorem readMembers_text {isFirst : Bool} {t : Bytes}
    (hnext : nextMember isFirst t = .ok (some (m.name ++ 0x3A :: (m.value ++ s))))
    (hs : IsEnd s) (hname : m.Says name) (h : Takes fs slots name m.value slots')
    (hlt : s.length < t.length) :
    readMembers (readSlot fs) isFirst slots t = readMembers (readSlot fs) false slots' s :=
  readMembers_some hnext (unquote_append hname _) (h s hs) hlt

theorem TakesAll.readMembers_later (h : TakesAll fs slots ms slots') (u : Bytes) :
    readMembers (readSlot fs) false slots
      ((ms.map Member.text).flatMap (0x2C :: ·) ++ 0x7D :: u) = .ok (slots', 0x7D :: u) := by
  induction h with
  | nil =>
    rw [readMembers]
    rfl
  | @cons _ _ _ m ms name hname h hs ih =>
    rw [List.map_cons, List.flatMap_cons, List.append_assoc]
    refine (readMembers_text (nextMember_text_later m _) (isEnd_members ms u) hname h ?_).trans ih
    simp only [List.length_cons, List.length_append]
    omega

/-- Members that can be taken are read up to the closing bracket. -/
theorem TakesAll.readMembers_first (h : TakesAll fs slots ms slots') (u : Bytes) :
    readMembers (readSlot fs) true slots (joinByComma (ms.map Member.text) ++ 0x7D :: u) =
      .ok (slots', 0x7D :: u) := by
  cases h with
  | nil =>
    rw [readMembers]
    rfl
  | @cons _ _ _ m ms name hname h hs =>
    rw [List.map_cons, joinByComma_cons, List.append_assoc]
    refine (readMembers_text (nextMember_text_first m _) (isEnd_members ms u) hname h ?_).trans
      (hs.readMembers_later u)
    simp only [Member.text, List.length_cons, List.length_append]
    omega

section Taken

variable (hfs : ∀ f ∈ fs, LayoutFree f.codec.read)

include hfs

/-- What is read of a member in front of one end is read in front of every end. -/
theorem takes_of_readSlot {value : Bytes} (hvalue : IsJson value) (hs : IsEnd s)
    (h : readSlot fs slots name (0x3A :: (value ++ s)) = .ok (slots', rest)) :
    rest = s ∧ Takes fs slots name value slots' := by
  have hpasses : PassesMembers (readSlot fs) := (layoutFreeMembers_readSlot hfs).passesMembers
  -- What is read is what is passed over, which is the value and no more.
  have hrest : ∀ {u rest slots'}, IsEnd u →
      readSlot fs slots name (0x3A :: (value ++ u)) = .ok (slots', rest) → rest = u := by
    intro u rest slots' hu h
    have hskip := hpasses h
    rw [skipColon_colon, ok_bind, skipValue, hvalue.skip hu.isBreak [], skip] at hskip
    exact (Except.ok.inj hskip).symm
  obtain rfl := hrest hs h
  refine ⟨rfl, fun u hu => ?_⟩
  -- Two texts that end with the value may go on in different ways.
  have hspaced : Respaced rest u (0x3A :: (value ++ rest)) (0x3A :: (value ++ u)) :=
    .mark rfl (hvalue.leads .rest hs.isBreak hu.isBreak)
  obtain ⟨u', h', -⟩ := steady_readSlot hfs slots name hspaced h (Nat.le_refl _)
  cases hrest hu h'
  exact h'

theorem exists_takes_of_readMembers {isFirst : Bool} {t : Bytes} (hm : m.WellFormed)
    (hnext : nextMember isFirst t = .ok (some (m.name ++ 0x3A :: (m.value ++ s))))
    (hs : IsEnd s) (h : readMembers (readSlot fs) isFirst slots t = .ok (slots', rest)) :
    ∃ name slots'', m.Says name ∧ Takes fs slots name m.value slots'' ∧
      readMembers (readSlot fs) false slots'' s = .ok (slots', rest) := by
  rcases readMembers_cases h with
    ⟨hnone, -⟩ | ⟨t', name, v, slots'', s', hsome, hname, hmember, -, hmembers⟩
  · cases hnone.symm.trans hnext
  · cases hsome.symm.trans hnext
    obtain ⟨hself, rfl⟩ := hm.says_name hname
    obtain ⟨rfl, htakes⟩ := takes_of_readSlot hfs hm.value hs hmember
    exact ⟨name, slots'', hself, htakes, hmembers⟩

theorem takesAll_of_readMembers_later (hms : ∀ m ∈ ms, m.WellFormed)
    (h : readMembers (readSlot fs) false slots
      ((ms.map Member.text).flatMap (0x2C :: ·) ++ 0x7D :: u) = .ok (slots', rest)) :
    TakesAll fs slots ms slots' ∧ rest = 0x7D :: u := by
  induction ms generalizing slots with
  | nil =>
    rw [readMembers] at h
    cases h
    exact ⟨.nil _, rfl⟩
  | cons m ms ih =>
    obtain ⟨hm, hms⟩ := List.forall_mem_cons.1 hms
    rw [List.map_cons, List.flatMap_cons, List.append_assoc] at h
    obtain ⟨name, slots'', hname, htakes, hmembers⟩ :=
      exists_takes_of_readMembers hfs hm (nextMember_text_later m _) (isEnd_members ms u) h
    obtain ⟨htakesAll, hrest⟩ := ih hms hmembers
    exact ⟨.cons hname htakes htakesAll, hrest⟩

/-- Members that are read up to the closing bracket can be taken. -/
theorem takesAll_of_readMembers_first (hms : ∀ m ∈ ms, m.WellFormed)
    (h : readMembers (readSlot fs) true slots
      (joinByComma (ms.map Member.text) ++ 0x7D :: u) = .ok (slots', rest)) :
    TakesAll fs slots ms slots' ∧ rest = 0x7D :: u := by
  rcases ms with - | ⟨m, ms⟩
  · rw [readMembers] at h
    cases h
    exact ⟨.nil _, rfl⟩
  · obtain ⟨hm, hms⟩ := List.forall_mem_cons.1 hms
    rw [List.map_cons, joinByComma_cons, List.append_assoc] at h
    obtain ⟨name, slots'', hname, htakes, hmembers⟩ :=
      exists_takes_of_readMembers hfs hm (nextMember_text_first m _) (isEnd_members ms u) h
    obtain ⟨htakesAll, hrest⟩ := takesAll_of_readMembers_later hfs hms hmembers
    exact ⟨.cons hname htakes htakesAll, hrest⟩

end Taken

end TakesAll

/-! ### Models -/

namespace Model

variable {α : Type} [Model α] {ms ms' extra : List Member} {s s' : Bytes} {a : α}

/-- An object says a value if its members fill the slots of all fields. -/
theorem parse_object_iff (hα : ∀ f ∈ fields α, LayoutFree f.codec.read)
    (hms : ∀ m ∈ ms, m.WellFormed) :
    parse (printObject (ms.map Member.text)) = .ok a ↔
      ∃ slots record, TakesAll (fields α) (Slots.empty _) ms slots ∧
        Slots.close? (fields α) slots = some record ∧ ofRecord record = a := by
  have hobject : printObject (ms.map Member.text) =
      0x7B :: (joinByComma (ms.map Member.text) ++ 0x7D :: []) := rfl
  rw [parse_eq_ok_iff, hobject]
  constructor
  · rintro ⟨record, rest, hrecord, -, ha⟩
    rcases exists_of_readRecord hrecord with
      ⟨t, slots, u, hfront, hmembers, hclose, -⟩ | ⟨t, u, hfront, -, -⟩
    · cases hfront
      obtain ⟨htakes, -⟩ := takesAll_of_readMembers_first hα hms hmembers
      exact ⟨slots, record, htakes, hclose, ha⟩
    · cases hfront
  · rintro ⟨slots, record, htakes, hclose, ha⟩
    have hclosing : readClosing .object [0x7D] = .ok [] := rfl
    exact ⟨record, [], readRecord_object (front?_cons rfl _) (htakes.readMembers_first []) hclose
      hclosing, rfl, ha⟩

/-- Neither the order of the members of an object makes a difference to the value that it says, nor
    do more members with other names, nor white space. -/
theorem parse_of_perm (hα : ∀ f ∈ fields α, LayoutFree f.codec.read) (hs : Spells ms s)
    (h : parse s = .ok a) (hextra : ∀ m ∈ extra, m.IsForeign (fields α))
    (hperm : ms'.Perm (ms ++ extra)) (hs' : Spells ms' s') : parse s' = .ok a := by
  -- Without its white space the text says the same value, and so does the other one with its own.
  have hobject := parse_respaced hα hs.respaced.symm h
  obtain ⟨slots, record, htakes, hclose, ha⟩ := (parse_object_iff hα hs.wellFormed).1 hobject
  have hforeign : ∀ m ∈ extra, m.WellFormed ∧ m.IsForeign (fields α) := fun m hm =>
    ⟨hs'.wellFormed m (hperm.symm.subset (List.mem_append_right ms hm)), hextra m hm⟩
  have htakes' := (htakes.append_foreign hforeign).perm hperm.symm
  have hobject' := (parse_object_iff hα hs'.wellFormed).2 ⟨slots, record, htakes', hclose, ha⟩
  exact parse_respaced hα hs'.respaced hobject'

/-- An object with two members that have the name of one field says no value. -/
theorem parse_ne_of_twice (hα : ∀ f ∈ fields α, LayoutFree f.codec.read) (hs : Spells ms s)
    {m m' : Member} (hperm : ms.Perm (m :: m' :: ms')) {f : Field} (hf : f ∈ fields α)
    (hm : m.Says f.name) (hm' : m'.Says f.name) (a : α) : parse s ≠ .ok a := by
  intro h
  have hobject := parse_respaced hα hs.respaced.symm h
  obtain ⟨slots, record, htakes, -⟩ := (parse_object_iff hα hs.wellFormed).1 hobject
  exact not_takesAll_twice hf hm hm' hperm htakes

/-- The layout of a text makes no difference to the value that it says. -/
structure LayoutInsensitive (α : Type) [Model α] : Prop where
  /-- The members of an object may stand in any order and with any white space, with others between
      them whose names are not those of fields. -/
  rearranged : ∀ {ms ms' extra : List Member} {s s' : Bytes} {a : α}, Spells ms s →
    parse s = .ok a → (∀ m ∈ extra, m.IsForeign (fields α)) → ms'.Perm (ms ++ extra) →
    Spells ms' s' → parse s' = .ok a
  /-- No two of them have the name of one field. -/
  repeated : ∀ {ms rest : List Member} {m m' : Member} {s : Bytes} {f : Field}, Spells ms s →
    ms.Perm (m :: m' :: rest) → f ∈ fields α → m.Says f.name → m'.Says f.name →
    ∀ a : α, parse s ≠ .ok a
  /-- The values of all fields may stand in an array. -/
  row : ∀ {s : Bytes} {a : α}, parse s = .ok a → parse (printAsRow a) = .ok a
  /-- Objects and arrays may have any white space. -/
  respaced : ∀ {s s' : Bytes} {a : α}, Respaced [] [] s s' → parse s = .ok a → parse s' = .ok a

theorem Free.layoutInsensitive (hα : Model.Free α) : LayoutInsensitive α where
  rearranged := parse_of_perm fun f hf => (hα.fields f hf).layoutFree
  repeated hs hperm := parse_ne_of_twice (fun f hf => (hα.fields f hf).layoutFree) hs hperm
  row := parse_printAsRow hα
  respaced := parse_respaced fun f hf => (hα.fields f hf).layoutFree

end Model

end Courier.Json
