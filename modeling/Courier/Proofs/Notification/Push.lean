import Courier.Proofs.Notification.Course
import Courier.Proofs.Notification.Devices

/-!
# When a push is handed over

A push is handed to its sender unless the user is known to refuse it, the push tokens cannot be had,
the user has no active device, or there is no sender. It is then handed over once, with the tokens
of all active devices of the user and of nobody else, and what comes of it is passed on.

* `Circumstances`: what the service finds when it is asked for a push.
* `Circumstances.Warrant`: there is a reason to hand the push over, and nothing against it.
* `Tokens.Store.IsRoster`: the active tokens of a user, the oldest first.
* `Circumstances.Settle`, `sendPush_settles`: what is done in which circumstances.
-/

namespace Courier.Notification

/-! ### Circumstances -/

/-- What the service finds when it is asked for a push: the stored preferences and push tokens,
    unless they cannot be had, and a sender with whom the push has this outcome. -/
structure Circumstances where
  preferences : Except ServiceError Preferences.Store
  tokens : Except ServiceError Tokens.Store
  outcome : Except ServiceError PushReport

namespace Circumstances

variable {σ : Type} (c : Circumstances)

/-- Others who answer like that, and whatever else they are asked as they like. -/
def others (elsewhere : (q : Request) → σ → q.Answer × σ) : (q : Request) → σ → q.Answer × σ
  | .preferences (.get userId), st => (c.preferences.map fun ps => ps.get? userId, st)
  | .tokens (.findByUser userId), st => (c.tokens.map fun ts => ts.ofUser userId, st)
  | .sendPush _ _, st => (c.outcome, st)
  | q, st => elsewhere q st

/-- The preferences of the user can be had, and turn pushes off. -/
def Refuse (userId : Uuid) : Prop :=
  ∃ ps p, c.preferences = .ok ps ∧ ps.get? userId = some p ∧ p.pushEnabled = false

/-- The user is not known to refuse pushes, the push tokens can be had, one of the user's is active,
    and there is a sender. -/
def Warrant (s : Service) (userId : Uuid) : Prop :=
  ¬ c.Refuse userId ∧
    (∃ ts, c.tokens = .ok ts ∧ ∃ t ∈ ts.values, t.userId = userId ∧ t.active = true) ∧
    s.push.isSome

variable {c}

theorem refuse_iff {userId : Uuid} :
    Wishes.refuse .push (c.preferences.map fun ps => ps.get? userId) = true ↔ c.Refuse userId := by
  rcases hps : c.preferences with error | ps
  · simp [Except.map, Wishes.refuse, Refuse, hps]
  · rcases hget : ps.get? userId with - | p
    · simp [Except.map, Wishes.refuse, Refuse, hps, hget]
    · simp [Except.map, Wishes.refuse, Refuse, hps, hget, UserPreferences.allows]

/-- Where the look-up of push tokens fails, they cannot be had. -/
theorem tokens_eq_error {userId : Uuid} {error : ServiceError}
    (h : (c.tokens.map fun ts => ts.ofUser userId) = .error error) : c.tokens = .error error := by
  rcases hts : c.tokens with error' | ts
  · rw [hts] at h
    cases h
    rfl
  · rw [hts] at h
    cases h

/-- What a look-up of push tokens finds are those of the user. -/
theorem exists_tokens_eq_ok {userId : Uuid} {tokens : List PushToken}
    (h : (c.tokens.map fun ts => ts.ofUser userId) = .ok tokens) :
    ∃ ts, c.tokens = .ok ts ∧ ts.ofUser userId = tokens := by
  rcases hts : c.tokens with error | ts
  · rw [hts] at h
    cases h
  · rw [hts] at h
    cases h
    exact ⟨ts, rfl, rfl⟩

end Circumstances

/-! ### Rosters -/

/-- These are the active tokens of a user, the oldest first, and of the same age in the order of
    their identifiers. -/
structure Tokens.Store.IsRoster (ts : Tokens.Store) (userId : Uuid) (active : List PushToken) :
    Prop where
  perm : active.Perm (ts.values.filter fun t => t.userId = userId ∧ t.active = true)
  ordered : active.Pairwise fun t t' =>
    olderOrEqual (t.createdAt, t.id) (t'.createdAt, t'.id) = true

theorem Tokens.Store.isRoster_filter_ofUser (ts : Tokens.Store) (userId : Uuid) :
    ts.IsRoster userId ((ts.ofUser userId).filter fun t => t.active) where
  perm := by
    refine ((Tokens.Store.ofUser_perm ts userId).filter _).trans (.of_eq ?_)
    rw [List.filter_filter]
    refine List.filter_congr fun t _ => ?_
    simp [and_comm]
  ordered := (Tokens.Store.ofUser_pairwise ts userId).filter _

/-- A user has an active token if and only if the roster is not empty. -/
theorem Tokens.Store.IsRoster.ne_nil_iff {ts : Tokens.Store} {userId : Uuid}
    {active : List PushToken} (h : ts.IsRoster userId active) :
    active ≠ [] ↔ ∃ t ∈ ts.values, t.userId = userId ∧ t.active = true := by
  rw [Ne, List.eq_nil_iff_forall_not_mem, not_forall_not]
  refine exists_congr fun t => ?_
  rw [h.perm.mem_iff, List.mem_filter, decide_eq_true_iff]

/-! ### Pushes -/

section Pushes

variable {σ : Type} {c : Circumstances} {s : Service} {m : PushMessage} {b b' : Bureau σ}
  {result : Except ServiceError PushReport}

/-- What comes back is what comes of the push in these circumstances, and so are the surroundings
    after it. -/
structure Circumstances.Settle (c : Circumstances) (s : Service) (m : PushMessage) (b : Bureau σ)
    (result : Except ServiceError PushReport) (b' : Bureau σ) : Prop where
  calls : b'.sendings ≠ b.sendings ↔ c.Warrant s m.userId
  /-- The push is handed over once, with the texts of all active tokens of the user. -/
  handsOver : c.Warrant s m.userId → ∃ ts active, c.tokens = .ok ts ∧
    ts.IsRoster m.userId active ∧ result = c.outcome ∧
    b'.sendings = b.sendings ++ [.push m (active.map (·.token)) c.outcome]
  /-- The user may take pushes, but it cannot be said on which devices. -/
  fails : ∀ error, ¬ c.Refuse m.userId → c.tokens = .error error → result = .error error
  /-- There is nothing to do. -/
  rests : ¬ c.Warrant s m.userId → c.Refuse m.userId ∨ (∃ ts, c.tokens = .ok ts) →
    result = .ok .empty
  untouched : ¬ c.Warrant s m.userId → b.Untouched b'

/-- Where there is no reason for a push, it is enough to say what comes back. -/
theorem Circumstances.Settle.of_untouched (hno : ¬ c.Warrant s m.userId) (hb : b.Untouched b')
    (hfails : ∀ error, ¬ c.Refuse m.userId → c.tokens = .error error → result = .error error)
    (hrests : c.Refuse m.userId ∨ (∃ ts, c.tokens = .ok ts) → result = .ok .empty) :
    c.Settle s m b result b' where
  calls := iff_of_false (not_not.2 hb.sendings) hno
  handsOver h := absurd h hno
  fails := hfails
  rests _ := hrests
  untouched _ := hb

theorem Circumstances.Settle.of_sent {ts : Tokens.Store} {active : List PushToken}
    (hwarrant : c.Warrant s m.userId) (hts : c.tokens = .ok ts)
    (hactive : ts.IsRoster m.userId active)
    (hb : b'.sendings = b.sendings ++ [.push m (active.map (·.token)) c.outcome]) :
    c.Settle s m b c.outcome b' where
  calls := iff_of_true (by simp [hb]) hwarrant
  handsOver _ := ⟨ts, active, hts, hactive, rfl, hb⟩
  fails _ _ herror := by cases hts.symm.trans herror
  rests hno := absurd hwarrant hno
  untouched hno := absurd hwarrant hno

/-- A push is handed to its sender if and only if the preferences of the user cannot be had or do
    not turn pushes off, the push tokens can be had, one of the user's is active, and there is a
    sender. It is then handed over once, with the texts of the active tokens of the user, the oldest
    first, and what comes of it is what comes back. If the push tokens were looked up and could not
    be had, that is what comes back, and otherwise an empty report. Unless the push is handed over,
    nobody tries to write a delivery log. -/
theorem sendPush_settles (S : Supply) (elsewhere : (q : Request) → σ → q.Answer × σ)
    (c : Circumstances) (s : Service) (m : PushMessage) (b : Bureau σ) :
    let (result, b') := (s.sendPush m).run (answer S (c.others elsewhere)) b
    c.Settle s m b result b' := by
  have htakes : (b.wishes (c.others elsewhere) m.userId).refuse .push = false →
      ¬ c.Refuse m.userId :=
    fun h hc => Bool.false_ne_true (h.symm.trans (Circumstances.refuse_iff.2 hc))
  have hcourse := run_sendPush S (c.others elsewhere) s m b
  generalize (s.sendPush m).run (answer S (c.others elsewhere)) b = run at hcourse ⊢
  cases hcourse with
  | refused h hb =>
    have hc : c.Refuse m.userId := Circumstances.refuse_iff.1 h
    exact .of_untouched (fun hwarrant => hwarrant.1 hc) hb (fun _ hnot => absurd hc hnot)
      fun _ => rfl
  | @lost h error htokens b' hb =>
    have hts : c.tokens = .error error := Circumstances.tokens_eq_error htokens
    refine .of_untouched ?_ hb ?_ ?_
    · rintro ⟨-, ⟨ts, hok, -⟩, -⟩
      cases hts.symm.trans hok
    · intro error' _ herror
      cases hts.symm.trans herror
      rfl
    · rintro (hc | ⟨ts, hok⟩)
      · exact absurd hc (htakes h)
      · cases hts.symm.trans hok
  | idle h htokens hidle hb =>
    obtain ⟨ts, hts, rfl⟩ := Circumstances.exists_tokens_eq_ok htokens
    refine .of_untouched ?_ hb (fun error _ herror => ?_) fun _ => rfl
    · rintro ⟨-, ⟨ts', hok, hactive⟩, hs⟩
      cases hts.symm.trans hok
      -- No device is active, or there is no sender.
      rcases hidle with hnil | hnone
      · exact (ts.isRoster_filter_ofUser m.userId).ne_nil_iff.2 hactive hnil
      · simp [hnone] at hs
    · cases hts.symm.trans herror
  | sent h htokens hactive hs houtcome hb =>
    obtain ⟨ts, hts, rfl⟩ := Circumstances.exists_tokens_eq_ok htokens
    have hroster := ts.isRoster_filter_ofUser m.userId
    have houtcome : _ = c.outcome := houtcome
    subst houtcome
    exact .of_sent ⟨htakes h, ⟨ts, hts, hroster.ne_nil_iff.1 hactive⟩, hs⟩ hts hroster hb

end Pushes

end Courier.Notification
