import Courier.Proofs.Text.Digits
import Courier.Settings
import Mathlib.Data.List.Perm.Basic

/-!
# Settings from an environment

An environment says settings if no two of its variables name the same one and each value is of the
kind of the setting that its variable names. Then every setting has the value that its variable
says, or else its default. What names no setting does not matter. Whether there are settings, and
which, does not depend on the order of the variables either; but of several faults one is told, and
which one does depend on it.

The names and the values of variables are Unicode strings. Nothing is said here of an environment
that has others.

* `Setting.Kind.Says`: the values that a text says (`Setting.parse_eq_ok_iff`).
* `Settings.Follows`: settings follow from variables, which are read on top of others.
* `Settings.readAll_eq_ok_iff`: variables are read exactly if settings follow from them.
* `Settings.Faulty`: what is wrong with variables that are refused.
* `Settings.ofEnvironment_determined`: what an environment says.
-/

namespace Courier

namespace Setting

/-- A text says a value of a kind. -/
def Kind.Says : (kind : Kind) → String → kind.Value → Prop
  | flag, value, v => value = if v then "true" else "false"
  | number bound, value, v => ∃ digits,
      (value.toList = digits ∨ value.toList = '+' :: digits) ∧ Text.SaysNumber digits v ∧ v < bound
  | text, value, v => value = v

/-- The name of a variable is that of a setting, in letters of either case. -/
def IsNamed (setting : Setting) (variableName : String) : Prop := lower variableName = setting.name

theorem ofVariable?_eq_some_iff {variableName : String} {a : Setting} :
    ofVariable? variableName = some a ↔ a.IsNamed variableName := by
  constructor
  · exact fun h => (Named.name_of_ofName? h).symm
  · intro h
    rw [ofVariable?, h]
    exact Named.ofName?_name a

/-- No variable names two settings. -/
theorem IsNamed.unique {a b : Setting} {variableName : String} (ha : a.IsNamed variableName)
    (hb : b.IsNamed variableName) : a = b :=
  Named.name_injective a b (ha.symm.trans hb)

theorem Kind.parse_flag_eq_ok_iff {value : String} {v : Bool} :
    Kind.flag.parse value = .ok v ↔ Kind.flag.Says value v := by
  rw [Kind.parse, Kind.Says]
  split
  next htrue => cases v <;> simp [htrue]
  next htrue =>
    split
    next hfalse => cases v <;> simp [hfalse]
    next hfalse => cases v <;> simp [htrue, hfalse]

theorem Kind.parse_number_eq_ok_iff {bound : Nat} (h : 0 < bound) {value : String} {v : Nat} :
    (Kind.number bound).parse value = .ok v ↔ (Kind.number bound).Says value v := by
  have hlt : v < bound ↔ v ≤ bound - 1 := by omega
  rw [Kind.Says, hlt, ← Text.unsigned?_eq_ok_iff, Kind.parse]
  split <;> simp_all

/-- A text is read as the value of a setting exactly if it says that value. -/
theorem parse_eq_ok_iff {a : Setting} {value : String} {v : a.kind.Value} :
    a.kind.parse value = .ok v ↔ a.kind.Says value v := by
  cases a with
  | outboxEnabled | migrationEnabled => exact Kind.parse_flag_eq_ok_iff
  | outboxPollInterval | outboxBatchSize | outboxMaxRetries | poolMax =>
    exact Kind.parse_number_eq_ok_iff (by decide)
  | _ => exact ⟨Except.ok.inj, congrArg _⟩

end Setting

namespace Settings

/-! ### Values of settings -/

@[simp]
theorem get_set_self (s : Settings) (a : Setting) (v : a.kind.Value) : (s.set a v).get a = v := by
  cases a <;> rfl

theorem get_set_of_ne (s : Settings) {a b : Setting} (h : b ≠ a) (v : a.kind.Value) :
    (s.set a v).get b = s.get b := by
  cases a <;> cases b <;> first | rfl | exact absurd rfl h

theorem eq_of_get {s s' : Settings} (h : ∀ a, s.get a = s'.get a) : s = s' := by
  cases s
  cases s'
  rw [mk.injEq]
  exact ⟨h .outboxEnabled, h .outboxPollInterval, h .outboxBatchSize, h .outboxMaxRetries,
    h .databaseUrl, h .poolMax, h .migrationEnabled, h .brokerUrl, h .brokerExchange,
    h .brokerQueue, h .topics⟩

/-! ### Reading variables -/

/-- No two variables name the same setting. -/
def Unrepeated (es : List (String × String)) : Prop :=
  es.Pairwise fun x y => ∀ a : Setting, a.IsNamed x.1 → ¬a.IsNamed y.1

/-- Settings follow from variables that are read on top of other settings, of which some have been
    said by variables before. -/
structure Follows (seen : List Setting) (s : Settings) (es : List (String × String))
    (s' : Settings) : Prop where
  unrepeated : Unrepeated es
  unseen : ∀ x ∈ es, ∀ a : Setting, a.IsNamed x.1 → a ∉ seen
  said : ∀ x ∈ es, ∀ a : Setting, a.IsNamed x.1 → a.kind.Says x.2 (s'.get a)
  kept : ∀ a : Setting, (∀ x ∈ es, ¬a.IsNamed x.1) → s'.get a = s.get a

variable {seen : List Setting} {s s' : Settings} {x : String × String}
  {es es' : List (String × String)}

/-- What the first of some variables has said, none of the others says again. -/
theorem Unrepeated.unseen_cons (h : Unrepeated (x :: es)) {a : Setting} (ha : a.IsNamed x.1)
    (hunseen : ∀ y ∈ es, ∀ b : Setting, b.IsNamed y.1 → b ∉ seen) :
    ∀ y ∈ es, ∀ b : Setting, b.IsNamed y.1 → b ∉ a :: seen := by
  intro y hy b hb
  rw [List.mem_cons, not_or]
  refine ⟨?_, hunseen y hy b hb⟩
  rintro rfl
  exact (List.pairwise_cons.1 h).1 y hy b ha hb

/-- A variable that names no setting is passed over, and one that names a setting says it, unless
    that has been said before. -/
theorem readAll_cons_eq_ok_iff : readAll seen s (x :: es) = .ok s' ↔
    (∀ a : Setting, ¬a.IsNamed x.1) ∧ readAll seen s es = .ok s' ∨
      ∃ (a : Setting) (v : a.kind.Value), a.IsNamed x.1 ∧ a ∉ seen ∧ a.kind.Says x.2 v ∧
        readAll (a :: seen) (s.set a v) es = .ok s' := by
  obtain ⟨variableName, value⟩ := x
  rw [readAll]
  cases hvariable : Setting.ofVariable? variableName with
  | none =>
    have hforeign (a : Setting) : ¬a.IsNamed variableName := fun ha =>
      nomatch hvariable.symm.trans (Setting.ofVariable?_eq_some_iff.2 ha)
    simp [hforeign]
  | some a =>
    have ha : a.IsNamed variableName := Setting.ofVariable?_eq_some_iff.1 hvariable
    constructor
    · intro h
      dsimp only at h
      split at h
      next => cases h
      next hnew =>
        split at h
        next => cases h
        next v hv => exact .inr ⟨a, v, ha, hnew, Setting.parse_eq_ok_iff.1 hv, h⟩
    · rintro (⟨hforeign, -⟩ | ⟨b, v, hb, hnew, hvalue, h⟩)
      · exact absurd ha (hforeign a)
      · obtain rfl := ha.unique hb
        dsimp only
        rw [if_neg hnew, Setting.parse_eq_ok_iff.2 hvalue]
        exact h

/-- Settings follow from one variable more, which names no setting. -/
theorem follows_cons_of_foreign (h : ∀ a : Setting, ¬a.IsNamed x.1) :
    Follows seen s (x :: es) s' ↔ Follows seen s es s' := by
  constructor
  · rintro ⟨hunrepeated, hunseen, hsaid, hkept⟩
    exact ⟨hunrepeated.of_cons, (List.forall_mem_cons.1 hunseen).2,
      (List.forall_mem_cons.1 hsaid).2, fun a ha => hkept a (List.forall_mem_cons.2 ⟨h a, ha⟩)⟩
  · rintro ⟨hunrepeated, hunseen, hsaid, hkept⟩
    exact ⟨List.pairwise_cons.2 ⟨fun _ _ a ha => absurd ha (h a), hunrepeated⟩,
      List.forall_mem_cons.2 ⟨fun a ha => absurd ha (h a), hunseen⟩,
      List.forall_mem_cons.2 ⟨fun a ha => absurd ha (h a), hsaid⟩,
      fun a ha => hkept a (List.forall_mem_cons.1 ha).2⟩

/-- Settings follow from one variable more, which names a setting. -/
theorem follows_cons_of_named {a : Setting} (h : a.IsNamed x.1) :
    Follows seen s (x :: es) s' ↔ a ∉ seen ∧ a.kind.Says x.2 (s'.get a) ∧
      Follows (a :: seen) (s.set a (s'.get a)) es s' := by
  constructor
  · rintro ⟨hunrepeated, hunseen, hsaid, hkept⟩
    rw [List.forall_mem_cons] at hunseen hsaid
    refine ⟨hunseen.1 a h, hsaid.1 a h, hunrepeated.of_cons, hunrepeated.unseen_cons h hunseen.2,
      hsaid.2, fun b hb => ?_⟩
    by_cases hba : b = a
    · subst hba
      rw [get_set_self]
    · rw [get_set_of_ne s hba]
      exact hkept b (List.forall_mem_cons.2 ⟨fun hbx => hba (hbx.unique h), hb⟩)
  · rintro ⟨hnew, hvalue, hunrepeated, hunseen, hsaid, hkept⟩
    refine ⟨List.pairwise_cons.2 ⟨fun y hy b hb hby => ?_, hunrepeated⟩,
      List.forall_mem_cons.2 ⟨fun b hb => hb.unique h ▸ hnew, fun y hy b hb =>
        fun hmem => hunseen y hy b hb (List.mem_cons_of_mem _ hmem)⟩,
      List.forall_mem_cons.2 ⟨fun b hb => ?_, hsaid⟩, fun b hb => ?_⟩
    · exact hunseen y hy b hby (hb.unique h ▸ List.mem_cons_self)
    · obtain rfl := hb.unique h
      exact hvalue
    · rw [List.forall_mem_cons] at hb
      have hba : b ≠ a := by
        rintro rfl
        exact hb.1 h
      rw [hkept b hb.2, get_set_of_ne s hba]

/-- Variables are read exactly if settings follow from them, and to these. -/
theorem readAll_eq_ok_iff : readAll seen s es = .ok s' ↔ Follows seen s es s' := by
  induction es generalizing seen s with
  | nil =>
    rw [readAll, Except.ok.injEq]
    constructor
    · rintro rfl
      exact ⟨.nil, nofun, nofun, fun _ _ => rfl⟩
    · exact fun h => eq_of_get fun a => (h.kept a nofun).symm
  | cons x es ih =>
    rw [readAll_cons_eq_ok_iff]
    by_cases hx : ∃ a : Setting, a.IsNamed x.1
    · obtain ⟨a, ha⟩ := hx
      rw [follows_cons_of_named ha]
      constructor
      · rintro (⟨hforeign, -⟩ | ⟨b, v, hb, hnew, hvalue, h⟩)
        · exact absurd ha (hforeign a)
        · obtain rfl := ha.unique hb
          have hfollows := ih.1 h
          -- No variable after this one names the setting again.
          have hv := hfollows.kept a fun y hy hay => hfollows.unseen y hy a hay List.mem_cons_self
          rw [get_set_self] at hv
          rw [hv]
          exact ⟨hnew, hvalue, hfollows⟩
      · rintro ⟨hnew, hvalue, h⟩
        exact .inr ⟨a, s'.get a, ha, hnew, hvalue, ih.2 h⟩
    · rw [not_exists] at hx
      rw [follows_cons_of_foreign hx, ih]
      constructor
      · rintro (⟨-, h⟩ | ⟨a, -, ha, -⟩)
        · exact h
        · exact absurd ha (hx a)
      · exact fun h => .inl ⟨hx, h⟩

/-- Variables of which no two name the same setting, and of which each says a value, are read. -/
theorem exists_readAll (hunrepeated : Unrepeated es)
    (hunseen : ∀ x ∈ es, ∀ a : Setting, a.IsNamed x.1 → a ∉ seen)
    (hvalue : ∀ x ∈ es, ∀ a : Setting, a.IsNamed x.1 → ∃ v, a.kind.Says x.2 v) (s : Settings) :
    ∃ s', readAll seen s es = .ok s' := by
  induction es generalizing seen s with
  | nil => exact ⟨s, rfl⟩
  | cons x es ih =>
    rw [List.forall_mem_cons] at hunseen hvalue
    by_cases hx : ∃ a : Setting, a.IsNamed x.1
    · obtain ⟨a, ha⟩ := hx
      obtain ⟨v, hv⟩ := hvalue.1 a ha
      obtain ⟨s', hs'⟩ := ih hunrepeated.of_cons (hunrepeated.unseen_cons ha hunseen.2) hvalue.2
        (s.set a v)
      exact ⟨s', readAll_cons_eq_ok_iff.2 (.inr ⟨a, v, ha, hunseen.1 a ha, hv, hs'⟩)⟩
    · obtain ⟨s', hs'⟩ := ih hunrepeated.of_cons hunseen.2 hvalue.2 s
      exact ⟨s', readAll_cons_eq_ok_iff.2 (.inl ⟨not_exists.1 hx, hs'⟩)⟩

/-- The order of variables makes no difference to the settings that follow from them. -/
theorem Follows.perm (hperm : es.Perm es') (h : Follows seen s es s') : Follows seen s es' s' where
  unrepeated := (hperm.pairwise_iff fun hxy a hy hx => hxy a hx hy).1 h.unrepeated
  unseen x hx := h.unseen x (hperm.mem_iff.2 hx)
  said x hx := h.said x (hperm.mem_iff.2 hx)
  kept a ha := h.kept a fun x hx => ha x (hperm.mem_iff.1 hx)

theorem readAll_perm (hperm : es.Perm es') :
    readAll seen s es = .ok s' ↔ readAll seen s es' = .ok s' := by
  rw [readAll_eq_ok_iff, readAll_eq_ok_iff]
  exact ⟨fun h => h.perm hperm, fun h => h.perm hperm.symm⟩

/-- The variables that name settings. -/
def named (es : List (String × String)) : List (String × String) :=
  es.filter fun x => (Setting.ofVariable? x.1).isSome

/-- What names no setting is not read at all. -/
theorem readAll_named (seen : List Setting) (s : Settings) (es : List (String × String)) :
    readAll seen s (named es) = readAll seen s es := by
  induction es generalizing seen s with
  | nil => rfl
  | cons x es ih =>
    obtain ⟨variableName, value⟩ := x
    rw [named] at ih
    cases hvariable : Setting.ofVariable? variableName with
    | none =>
      rw [named, List.filter_cons_of_neg (by simp [hvariable]), ih, readAll, hvariable]
    | some a =>
      rw [named, List.filter_cons_of_pos (by simp [hvariable]), readAll, readAll, hvariable]
      simp only [ih]

/-! ### Refusals -/

/-- What is wrong with variables. -/
inductive Faulty (es : List (String × String)) : SettingsError → Prop
  | repeated {x y : String × String} {a : Setting} (h : [x, y].Sublist es) (hx : a.IsNamed x.1)
      (hy : a.IsNamed y.1) : Faulty es (.repeated a)
  | unreadable {x : String × String} {a : Setting} {fault : Setting.Fault} (h : x ∈ es)
      (hx : a.IsNamed x.1) (hfault : a.kind.parse x.2 = .error fault) :
      Faulty es (.unreadable x.1 x.2 fault)

theorem Faulty.cons {error : SettingsError} (h : Faulty es error) (x : String × String) :
    Faulty (x :: es) error := by
  cases h with
  | repeated h hx hy => exact .repeated (h.cons x) hx hy
  | unreadable h hx hfault => exact .unreadable (List.mem_cons_of_mem _ h) hx hfault

/-- If variables are refused, the error tells what is wrong with them, or with one of them after
    those that have been seen. -/
theorem faulty_of_readAll {error : SettingsError} (h : readAll seen s es = .error error) :
    Faulty es error ∨ ∃ x ∈ es, ∃ a : Setting, a.IsNamed x.1 ∧ a ∈ seen ∧ error = .repeated a := by
  induction es generalizing seen s with
  | nil => cases h
  | cons x es ih =>
    obtain ⟨variableName, value⟩ := x
    rw [readAll] at h
    cases hvariable : Setting.ofVariable? variableName with
    | none =>
      rw [hvariable] at h
      rcases ih h with hfaulty | ⟨y, hy, hseen⟩
      · exact .inl (hfaulty.cons _)
      · exact .inr ⟨y, List.mem_cons_of_mem _ hy, hseen⟩
    | some a =>
      have ha : a.IsNamed variableName := Setting.ofVariable?_eq_some_iff.1 hvariable
      rw [hvariable] at h
      dsimp only at h
      split at h
      next hmem =>
        cases h
        exact .inr ⟨_, List.mem_cons_self, a, ha, hmem, rfl⟩
      next =>
        split at h
        next fault hfault =>
          cases h
          exact .inl (.unreadable (x := (variableName, value)) List.mem_cons_self ha hfault)
        next v hv =>
          rcases ih h with hfaulty | ⟨y, hy, b, hb, hmem, rfl⟩
          · exact .inl (hfaulty.cons _)
          · -- What is said again has been said by this variable, or before it.
            rcases List.mem_cons.1 hmem with rfl | hmem
            · exact .inl (.repeated (.cons_cons _ (List.singleton_sublist.2 hy)) ha hb)
            · exact .inr ⟨y, List.mem_cons_of_mem _ hy, b, hb, hmem, rfl⟩

/-! ### Environments -/

/-- The number of retries that an environment says is one that a worker can have. -/
theorem Follows.outboxMaxRetries_lt (h : Follows seen default es s) :
    s.outboxMaxRetries < UInt32.size := by
  by_cases hx : ∃ x ∈ es, Setting.outboxMaxRetries.IsNamed x.1
  · obtain ⟨x, hx, hnamed⟩ := hx
    obtain ⟨-, -, -, hlt⟩ := h.said x hx .outboxMaxRetries hnamed
    exact hlt
  · have hkept := h.kept .outboxMaxRetries fun x hmem hnamed => hx ⟨x, hmem, hnamed⟩
    change s.outboxMaxRetries = 5 at hkept
    rw [hkept]
    decide

/-- An environment says settings exactly if no two of its variables name the same setting and the
    value of each variable that names one is of its kind. Then each setting has the value that its
    variable says or, if there is none, its default, and the worker has what the settings say about
    it. Neither the order of the variables nor what names no setting makes a difference. Only which
    one of several faults is told depends on the order. -/
theorem ofEnvironment_determined (e : Environment) :
    ((∃ s, ofEnvironment e = .ok s) ↔
      e.entries.Pairwise (fun x y => ∀ a : Setting, a.IsNamed x.1 → ¬a.IsNamed y.1) ∧
        ∀ x ∈ e.entries, ∀ a : Setting, a.IsNamed x.1 → ∃ v, a.kind.Says x.2 v) ∧
      (∀ s, ofEnvironment e = .ok s →
        (∀ a : Setting, (∀ x ∈ e.entries, a.IsNamed x.1 → a.kind.Says x.2 (s.get a)) ∧
          ((∀ x ∈ e.entries, ¬a.IsNamed x.1) → s.get a = (default : Settings).get a)) ∧
        s.worker.pollInterval = s.outboxPollInterval ∧
        s.worker.batchSize = s.outboxBatchSize ∧
        s.worker.maxRetries.toNat = s.outboxMaxRetries) ∧
      (∀ e' : Environment, (named e.entries).Perm (named e'.entries) →
        ∀ s, ofEnvironment e = .ok s ↔ ofEnvironment e' = .ok s) ∧
      (∀ e' : Environment, named e.entries = named e'.entries →
        ofEnvironment e = ofEnvironment e') ∧
      ∀ error, ofEnvironment e = .error error → Faulty e.entries error := by
  refine ⟨⟨?_, ?_⟩, ?_, ?_, ?_, ?_⟩
  · rintro ⟨s, hs⟩
    have hfollows := readAll_eq_ok_iff.1 hs
    exact ⟨hfollows.unrepeated, fun x hx a ha => ⟨_, hfollows.said x hx a ha⟩⟩
  · rintro ⟨hunrepeated, hvalue⟩
    exact exists_readAll hunrepeated (fun _ _ _ _ => List.not_mem_nil) hvalue default
  · intro s hs
    have hfollows := readAll_eq_ok_iff.1 hs
    refine ⟨fun a => ⟨fun x hx => hfollows.said x hx a, hfollows.kept a⟩, rfl, rfl, ?_⟩
    exact UInt32.toNat_ofNat_of_lt hfollows.outboxMaxRetries_lt
  · intro e' hperm s
    rw [ofEnvironment, ofEnvironment, ← readAll_named _ _ e.entries, ← readAll_named _ _ e'.entries]
    exact readAll_perm hperm
  · intro e' heq
    rw [ofEnvironment, ofEnvironment, ← readAll_named _ _ e.entries, heq, readAll_named]
  · intro error herror
    rcases faulty_of_readAll herror with hfaulty | ⟨x, hx, a, ha, hmem, -⟩
    · exact hfaulty
    · cases hmem

/-- Two variables that name settings, and one that does not. -/
def launch : Environment :=
  ⟨[("PATH", "/bin"), ("Outbox_Max_Retries", "+007"), ("RMQ_EXCHANGE", "herald")]⟩

/-- Settings with two values that are no defaults. -/
def launched : Settings :=
  { (default : Settings) with outboxMaxRetries := 7, brokerExchange := "herald" }

/-- The retries are read in spite of their plus and zeros. The settings stay the same when the
    variables come the other way round and the foreign one is gone, and a variable that names the
    retries again makes them unreadable. -/
theorem ofEnvironment_determined_launch :
    ofEnvironment launch = .ok launched ∧ launched.worker.maxRetries.toNat = 7 ∧
      ofEnvironment ⟨[("RMQ_EXCHANGE", "herald"), ("Outbox_Max_Retries", "+007")]⟩ = .ok launched ∧
      ¬∃ s, ofEnvironment ⟨launch.entries ++ [("OUTBOX_MAX_RETRIES", "7")]⟩ = .ok s := by
  have hlaunch : ofEnvironment launch = .ok launched := by decide +kernel
  obtain ⟨-, hsaid, hperm, -, -⟩ := ofEnvironment_determined launch
  obtain ⟨-, -, -, hretries⟩ := hsaid launched hlaunch
  have hother := hperm ⟨[("RMQ_EXCHANGE", "herald"), ("Outbox_Max_Retries", "+007")]⟩
    (by decide +kernel) launched
  obtain ⟨hiff, -⟩ := ofEnvironment_determined ⟨launch.entries ++ [("OUTBOX_MAX_RETRIES", "7")]⟩
  refine ⟨hlaunch, hretries, hother.1 hlaunch, fun h => ?_⟩
  have hunrepeated := (hiff.1 h).1
  rw [List.pairwise_append] at hunrepeated
  exact hunrepeated.2.2 ("Outbox_Max_Retries", "+007") (by decide +kernel)
    ("OUTBOX_MAX_RETRIES", "7") (by decide +kernel) .outboxMaxRetries
    (Setting.ofVariable?_eq_some_iff.1 (by decide +kernel))
    (Setting.ofVariable?_eq_some_iff.1 (by decide +kernel))

end Settings

end Courier
