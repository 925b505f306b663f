import Courier.Notification.Inbox
import Courier.Proofs.Notification.Records
import Courier.Proofs.Table
import Courier.Proofs.Transcript
import Mathlib.Data.List.DropRight

/-!
# Whose a push token is

Push tokens are registered, deactivated and taken out again by any users in any order. What is kept
of a token in the end can be told from what was asked and what came back: of its registrations since
it was last taken out, the first says its identifier and its age, and the last whose it is and on
which device. A token that is registered again is active again.

* `Call`, `performAll`, `History`: what is asked about push tokens, and what came back.
* `registrations`, `since`: the registrations of a token, and the part of a history that still
  counts for it.
* `Tells`: what is kept of a token is what a part of a history says.
* `Shelf`, `answer`: surroundings that keep push tokens in memory.
* `Does`, `perform_does`: what a call does to the tokens that are kept.
* `Sound`, `Sound.step`: the history tells what is kept, and goes on telling it.
* `performAll_tells`: all tokens, after one call after the other.
-/

namespace Courier.Notification.Tokens

/-! ### Calls -/

/-- Something that is asked about push tokens. -/
inductive Call
  | register (userId : Uuid) (token : String) (platform : Platform) (deviceId : String)
  | deactivate (token : String)
  | unregister (token : String)
  | unregisterAll (userId : Uuid)

/-- What comes back if it can be done. -/
abbrev Call.Answer : Call → Type
  | register .. => PushToken
  | deactivate _ | unregister _ | unregisterAll _ => Unit

/-- Does what is asked. -/
def Call.perform : (c : Call) → Action (Except ServiceError c.Answer)
  | register userId token platform deviceId => Tokens.register userId token platform deviceId
  | deactivate token => Tokens.deactivate token
  | unregister token => Tokens.unregister token
  | unregisterAll userId => Tokens.unregisterAll userId

/-- Calls with what came back, in their order. -/
abbrev History : Type := Transcript Call fun c => Except ServiceError c.Answer

/-- Does one thing after the other. -/
def performAll (calls : List Call) : Action History :=
  calls.mapM fun c => do return ⟨c, ← c.perform⟩

/-! ### What a history says -/

/-- A registration that has succeeded, with the identifier and the time that came back. -/
structure Registration where
  userId : Uuid
  platform : Platform
  deviceId : String
  id : Uuid
  createdAt : Instant

/-- The registration of a token that a call is, if it is one. -/
def registration? (s : String) : (Σ c : Call, Except ServiceError c.Answer) → Option Registration
  | ⟨.register userId token platform deviceId, .ok t⟩ =>
    if Text.trim token = s then some ⟨userId, platform, deviceId, t.id, t.createdAt⟩ else none
  | _ => none

/-- The registrations of a token. -/
def registrations (s : String) (h : History) : List Registration := h.filterMap (registration? s)

/-- Whether a call takes a token out after a history: by its text, or with all tokens of the user
    for whom it was registered last. -/
def removes (s : String) (h : History) : (Σ c : Call, Except ServiceError c.Answer) → Bool
  | ⟨.unregister token, _⟩ => token = s
  | ⟨.unregisterAll userId, _⟩ => (registrations s h).getLast?.any fun r => r.userId = userId
  | _ => false

/-- The part of a history since a token was last taken out. -/
def since (s : String) (h : History) : History :=
  h.foldl (fun kept e => if removes s kept e then [] else kept ++ [e]) []

/-- Whether a call deactivates a token. -/
def deactivates (s : String) : (Σ c : Call, Except ServiceError c.Answer) → Bool
  | ⟨.deactivate token, _⟩ => token = s
  | _ => false

/-- The part of a history after the last registration of a token. -/
def sinceRegistered (s : String) (h : History) : History :=
  h.rtakeWhile fun e => (registration? s e).isNone

/-- What is kept of a token is what a part of a history says. -/
structure Tells (s : String) (h : History) (t : PushToken) : Prop where
  token : t.token = s
  first : ∃ r, (registrations s h).head? = some r ∧ t.id = r.id ∧ t.createdAt = r.createdAt
  last : ∃ r, (registrations s h).getLast? = some r ∧ t.userId = r.userId ∧
    t.platform = r.platform ∧ t.deviceId = r.deviceId
  active : t.active = !(sinceRegistered s h).any (deactivates s)

/-! ### One more call -/

section Concat

variable {s : String} {h : History} {e : Σ c : Call, Except ServiceError c.Answer} {t : PushToken}

theorem since_concat :
    since s (h ++ [e]) = if removes s (since s h) e then [] else since s h ++ [e] := by
  rw [since, List.foldl_append]
  rfl

theorem registrations_concat_of_none (he : registration? s e = none) :
    registrations s (h ++ [e]) = registrations s h := by
  rw [registrations, List.filterMap_append]
  simp [registrations, he]

theorem registrations_concat_of_some {r : Registration} (he : registration? s e = some r) :
    registrations s (h ++ [e]) = registrations s h ++ [r] := by
  rw [registrations, List.filterMap_append]
  simp [registrations, he]

/-- A call that does not register the token changes nothing but that it may deactivate it. -/
theorem Tells.concat_of_none (ht : Tells s h t) (he : registration? s e = none) {active : Bool}
    (hactive : active = (t.active && !deactivates s e)) (updatedAt : Instant) :
    Tells s (h ++ [e]) { t with active := active, updatedAt := updatedAt } where
  token := ht.token
  first := by
    rw [registrations_concat_of_none he]
    exact ht.first
  last := by
    rw [registrations_concat_of_none he]
    exact ht.last
  active := by
    rw [sinceRegistered, List.rtakeWhile_concat_pos _ _ _ (by simp [he]), List.any_append, hactive,
      ht.active]
    simp [sinceRegistered]

/-- A registration of the token makes it active, whatever has been asked before. -/
theorem sinceRegistered_concat_of_some {r : Registration} (he : registration? s e = some r) :
    sinceRegistered s (h ++ [e]) = [] := by
  rw [sinceRegistered, List.rtakeWhile_concat_neg _ _ _ (by simp [he])]

end Concat

/-! ### Surroundings -/

/-- Surroundings that keep push tokens in memory. -/
structure Shelf (σ : Type) where
  /-- Whatever others know, the time and the identifiers among it. -/
  rest : σ
  tokens : Store

variable {σ : Type} (others : (q : Request) → σ → q.Answer × σ)

/-- Answers a question. What is done to the tokens is done at the time that others say. -/
def answer : (q : Request) → Shelf σ → q.Answer × Shelf σ
  | .tokens op, b =>
    let (now, rest) := others .clock b.rest
    let (a, tokens) := b.tokens.perform now op
    (a, ⟨rest, tokens⟩)
  | q, b =>
    let (a, rest) := others q b.rest
    (a, { b with rest := rest })

/-- A push token as it is registered. -/
def registered (id : Uuid) (now : Instant) (userId : Uuid) (token : String) (platform : Platform)
    (deviceId : String) : PushToken :=
  ⟨id, userId, Text.trim token, platform, deviceId, true, now, now⟩

/-- The call that has registered a token, with what comes back. -/
def registering (id : Uuid) (now : Instant) (userId : Uuid) (token : String) (platform : Platform)
    (deviceId : String) : Σ c : Call, Except ServiceError c.Answer :=
  ⟨.register userId token platform deviceId, .ok (registered id now userId token platform deviceId)⟩

/-- What a call does to the tokens that are kept, and what comes back. -/
inductive Does (ts : Store) : (Σ c : Call, Except ServiceError c.Answer) → Store → Prop
  | refused {userId : Uuid} {token : String} {platform : Platform} {deviceId : String}
      {error : ServiceError} : Does ts ⟨.register userId token platform deviceId, .error error⟩ ts
  | registered {userId : Uuid} {token : String} {platform : Platform} {deviceId : String}
      {id : Uuid} {now : Instant} (h : ts.get? (Text.trim token) = none) :
      Does ts (registering id now userId token platform deviceId)
        (ts.insert (Text.trim token) (registered id now userId token platform deviceId))
  | renewed {userId : Uuid} {token : String} {platform : Platform} {deviceId : String} {id : Uuid}
      {now later : Instant} {old : PushToken} (h : ts.get? (Text.trim token) = some old) :
      Does ts (registering id now userId token platform deviceId)
        (ts.insert (Text.trim token)
          (Store.renew old (registered id now userId token platform deviceId) later))
  | missing {token : String} {error : ServiceError} (h : ts.get? token = none) :
      Does ts ⟨.deactivate token, .error error⟩ ts
  | deactivated {token : String} {t : PushToken} {now : Instant} (h : ts.get? token = some t) :
      Does ts ⟨.deactivate token, .ok ()⟩
        (ts.insert token { t with active := false, updatedAt := now })
  | unregistered {token : String} : Does ts ⟨.unregister token, .ok ()⟩ (ts.erase token)
  | unregisteredAll {userId : Uuid} :
      Does ts ⟨.unregisterAll userId, .ok ()⟩ (ts.filter fun t => t.userId ≠ userId)

theorem perform_does (c : Call) (b : Shelf σ) :
    Does b.tokens ⟨c, (c.perform.run (answer others) b).1⟩
      (c.perform.run (answer others) b).2.tokens := by
  cases c with
  | register userId token platform deviceId =>
    rw [Call.perform, Tokens.register]
    by_cases hempty : (Text.trim token).isEmpty = true
    · rw [if_pos hempty]
      exact .refused
    · rw [if_neg hempty]
      simp only [ask, Program.request_bind, Program.run, answer, Store.perform]
      rcases hget : b.tokens.get? (Text.trim token) with - | old
      · exact .registered hget
      · exact .renewed hget
  | deactivate token =>
    simp only [Call.perform, Tokens.deactivate, ask, Program.request, Program.run, answer,
      Store.perform]
    rcases hget : b.tokens.get? token with - | t
    · exact .missing hget
    · exact .deactivated hget
  | unregister token => exact .unregistered
  | unregisterAll userId => exact .unregisteredAll

/-! ### What is kept -/

/-- What is kept of a token, if anything is, is what a part of a history says. -/
def Shows (s : String) (h : History) : Option PushToken → Prop
  | none => registrations s h = []
  | some t => Tells s h t

/-- The history tells of every token what is kept of it. -/
structure Sound (ts : Store) (h : History) : Prop where
  distinct : ts.Distinct
  shows : ∀ s, Shows s (since s h) (ts.get? s)

theorem sound_empty : Sound .empty [] := ⟨Table.distinct_empty, fun _ => rfl⟩

section Step

variable {ts ts' : Store} {h : History} {s : String} {o : Option PushToken}
  {e : Σ c : Call, Except ServiceError c.Answer}

/-- A call that is not about a token changes nothing for it. -/
theorem Shows.idle (ho : Shows s h o) (he : registration? s e = none)
    (hactive : deactivates s e = false) : Shows s (h ++ [e]) o := by
  cases o with
  | none => exact (registrations_concat_of_none he).trans ho
  | some t => exact Tells.concat_of_none ho he (by simp [hactive]) t.updatedAt

/-- Nothing is taken out of what has not been registered. -/
theorem Shows.removes_of_none (ho : Shows s h none) {userId : Uuid} {a : Except ServiceError Unit} :
    removes s h ⟨.unregisterAll userId, a⟩ = false := by
  rw [removes, show registrations s h = [] from ho]
  rfl

/-- A token is taken out with all tokens of the user whose it is. -/
theorem Tells.removes_eq {t : PushToken} (ht : Tells s h t) {userId : Uuid}
    {a : Except ServiceError Unit} :
    removes s h ⟨.unregisterAll userId, a⟩ = decide (t.userId = userId) := by
  obtain ⟨r, hr, huser, -⟩ := ht.last
  rw [removes, hr, huser]
  rfl

/-- A registration of a token says whose it is from then on, and on which device. -/
theorem tells_concat_of_some {r : Registration} {t : PushToken} (he : registration? s e = some r)
    (htoken : t.token = s) (hactive : t.active = true)
    (hlast : t.userId = r.userId ∧ t.platform = r.platform ∧ t.deviceId = r.deviceId)
    (hfirst : ∃ r', (registrations s h ++ [r]).head? = some r' ∧ t.id = r'.id ∧
      t.createdAt = r'.createdAt) : Tells s (h ++ [e]) t where
  token := htoken
  first := by
    rw [registrations_concat_of_some he]
    exact hfirst
  last := by
    rw [registrations_concat_of_some he]
    exact ⟨r, List.getLast?_concat, hlast⟩
  active := by
    rw [sinceRegistered_concat_of_some he, hactive]
    rfl

section Registered

variable {id : Uuid} {now : Instant} {userId : Uuid} {token : String} {platform : Platform}
  {deviceId : String}

theorem Shows.register (hs : Text.trim token = s) (ho : Shows s h none) :
    Tells s (h ++ [registering id now userId token platform deviceId])
      (registered id now userId token platform deviceId) :=
  tells_concat_of_some (if_pos hs) hs rfl ⟨rfl, rfl, rfl⟩
    ⟨_, by rw [show registrations s h = [] from ho]; rfl, rfl, rfl⟩

theorem Tells.renew {old : PushToken} {later : Instant} (hs : Text.trim token = s)
    (ht : Tells s h old) :
    Tells s (h ++ [registering id now userId token platform deviceId])
      (Store.renew old (registered id now userId token platform deviceId) later) := by
  obtain ⟨r, hr, hfirst⟩ := ht.first
  exact tells_concat_of_some (if_pos hs) ht.token rfl ⟨rfl, rfl, rfl⟩
    ⟨r, by rw [List.head?_append, hr]; rfl, hfirst⟩

end Registered

theorem Does.distinct (hdoes : Does ts e ts') (h : ts.Distinct) : ts'.Distinct := by
  cases hdoes with
  | refused => exact h
  | registered => exact h.insert _ _
  | renewed => exact h.insert _ _
  | missing => exact h
  | deactivated => exact h.insert _ _
  | unregistered => exact h.erase _
  | unregisteredAll => exact h.filter _

/-- What a call does is what the history tells when the call is added to it. -/
theorem Sound.step (hsound : Sound ts h) (hdoes : Does ts e ts') : Sound ts' (h ++ [e]) := by
  refine ⟨hdoes.distinct hsound.distinct, fun s => ?_⟩
  have hshows := hsound.shows s
  rw [since_concat]
  cases hdoes with
  | refused => exact hshows.idle rfl rfl
  | @registered _ token _ _ _ _ hget =>
    rw [Table.get?_insert]
    by_cases hs : Text.trim token = s
    · rw [if_pos hs]
      exact Shows.register hs (hs ▸ hget ▸ hsound.shows (Text.trim token))
    · rw [if_neg hs]
      exact hshows.idle (if_neg hs) rfl
  | @renewed _ token _ _ _ _ _ old hget =>
    rw [Table.get?_insert]
    by_cases hs : Text.trim token = s
    · rw [if_pos hs]
      rw [← hs, hget] at hshows
      exact hs ▸ Tells.renew rfl hshows
    · rw [if_neg hs]
      exact hshows.idle (if_neg hs) rfl
  | @missing token _ hget =>
    by_cases hs : token = s
    · rw [← hs, hget] at hshows ⊢
      exact (registrations_concat_of_none rfl).trans hshows
    · exact hshows.idle rfl (decide_eq_false hs)
  | @deactivated token t now hget =>
    rw [Table.get?_insert]
    by_cases hs : token = s
    · rw [if_pos hs]
      rw [← hs, hget] at hshows
      subst hs
      exact Tells.concat_of_none hshows rfl (by simp [deactivates]) now
    · rw [if_neg hs]
      exact hshows.idle rfl (decide_eq_false hs)
  | @unregistered token =>
    rw [Table.get?_erase]
    by_cases hs : token = s
    · rw [if_pos hs, if_pos (by simpa [removes] using hs)]
      exact rfl
    · rw [if_neg hs, if_neg (by simpa [removes] using hs)]
      exact hshows.idle rfl rfl
  | @unregisteredAll userId =>
    rw [hsound.distinct.get?_filter]
    rcases hget : ts.get? s with - | t
    · rw [hget] at hshows
      rw [if_neg (by simp [hshows.removes_of_none])]
      exact hshows.idle rfl rfl
    · rw [hget] at hshows
      have ht : Tells s (since s h) t := hshows
      rw [ht.removes_eq]
      by_cases huser : t.userId = userId
      · rw [if_pos (decide_eq_true huser), Option.filter_some_neg (by simp [huser])]
        exact rfl
      · rw [if_neg (by simp [huser]), Option.filter_some_pos (by simp [huser])]
        exact hshows.idle rfl rfl

end Step

/-! ### All calls -/

theorem performAll_cons (c : Call) (calls : List Call) :
    performAll (c :: calls) = do
      let a ← c.perform
      let es ← performAll calls
      return ⟨c, a⟩ :: es := by
  simp [performAll, List.mapM_cons]

/-- One call after the other, the history tells what is kept. -/
theorem performAll_sound (calls : List Call) {b : Shelf σ} {h : History}
    (hsound : Sound b.tokens h) :
    Sound ((performAll calls).run (answer others) b).2.tokens
      (h ++ ((performAll calls).run (answer others) b).1) := by
  induction calls generalizing b h with
  | nil => exact (List.append_nil h).symm ▸ hsound
  | cons c calls ih =>
    have hstep := ih (hsound.step (perform_does others c b))
    rw [List.append_assoc] at hstep
    rw [performAll_cons, Program.run_bind, Program.run_bind]
    exact hstep

theorem performAll_calls (calls : List Call) (b : Shelf σ) :
    ((performAll calls).run (answer others) b).1.map (·.1) = calls := by
  induction calls generalizing b with
  | nil => rfl
  | cons c calls ih =>
    rw [performAll_cons, Program.run_bind, Program.run_bind]
    exact congrArg (c :: ·) (ih _)

/-! ### Lists of tokens -/

theorem Store.ofUser_perm (ts : Store) (userId : Uuid) :
    (ts.ofUser userId).Perm (ts.values.filter fun t => t.userId = userId) :=
  List.mergeSort_perm _ _

theorem Store.ofUser_pairwise (ts : Store) (userId : Uuid) :
    (ts.ofUser userId).Pairwise
      fun t t' => olderOrEqual (t.createdAt, t.id) (t'.createdAt, t'.id) = true :=
  pairwise_mergeSort_olderOrEqual (fun t : PushToken => (t.createdAt, t.id)) _

/-- Every token is kept once, under its own text. -/
structure Store.Proper (ts : Store) : Prop where
  distinct : ts.Distinct
  keyedBy : ts.KeyedBy (·.token)

/-- The tokens of a user are those that are kept for the user. -/
theorem Store.Proper.mem_ofUser {ts : Store} (h : ts.Proper) {userId : Uuid} {t : PushToken} :
    t ∈ ts.ofUser userId ↔ ts.get? t.token = some t ∧ t.userId = userId := by
  rw [(ts.ofUser_perm userId).mem_iff, List.mem_filter, h.distinct.mem_values_iff,
    decide_eq_true_iff]
  refine and_congr_left' ⟨?_, fun hget => ⟨t.token, hget⟩⟩
  rintro ⟨key, hget⟩
  rw [h.keyedBy.eq_of_get? h.distinct hget, hget]

theorem Sound.proper {ts : Store} {h : History} (hsound : Sound ts h) : ts.Proper := by
  refine ⟨hsound.distinct, fun e he => ?_⟩
  have hshows := hsound.shows e.1
  rw [hsound.distinct.get?_eq_some_iff.2 he] at hshows
  exact Tells.token hshows

/-- The tokens of a user are those that are kept for the user, each once, the oldest first. -/
theorem Sound.ofUser {ts : Store} {h : History} (hsound : Sound ts h) (userId : Uuid) :
    (ts.ofUser userId).Pairwise
        (fun t t' => olderOrEqual (t.createdAt, t.id) (t'.createdAt, t'.id) = true) ∧
      ((ts.ofUser userId).map (·.token)).Nodup ∧
      ∀ t, t ∈ ts.ofUser userId ↔ ts.get? t.token = some t ∧ t.userId = userId := by
  refine ⟨ts.ofUser_pairwise userId, ?_, fun _ => hsound.proper.mem_ofUser⟩
  rw [((ts.ofUser_perm userId).map _).nodup_iff]
  refine List.Nodup.sublist (List.filter_sublist.map _) ?_
  rw [hsound.proper.keyedBy.map_values]
  exact hsound.distinct

/-- Whatever is asked about push tokens, by any users, one call after the other: a token is kept if
    it has been registered since it was last taken out, and what is kept of it is what the history
    since then says. A user's list has the tokens that are kept for the user, each once, the oldest
    first, so that no token is listed for two users. -/
theorem performAll_tells (calls : List Call) (rest : σ) :
    let h := ((performAll calls).run (answer others) ⟨rest, .empty⟩).1
    let b := ((performAll calls).run (answer others) ⟨rest, .empty⟩).2
    let listed := fun userId => ((Tokens.list userId).run (answer others) b).1
    h.map (·.1) = calls ∧
      (∀ s, (b.tokens.get? s).isSome ↔ registrations s (since s h) ≠ []) ∧
      (∀ s t, b.tokens.get? s = some t → Tells s (since s h) t) ∧
      (∀ userId, ∃ ts, listed userId = .ok ts ∧
        ts.Pairwise (fun t t' => olderOrEqual (t.createdAt, t.id) (t'.createdAt, t'.id) = true) ∧
        (ts.map (·.token)).Nodup ∧
        ∀ t, t ∈ ts ↔ b.tokens.get? t.token = some t ∧ t.userId = userId) ∧
      ∀ userId userId' ts ts', listed userId = .ok ts → listed userId' = .ok ts' →
        ∀ t ∈ ts, ∀ t' ∈ ts', t.token = t'.token → userId = userId' := by
  intro h b listed
  have hsound : Sound b.tokens ([] ++ h) := performAll_sound others calls sound_empty
  rw [List.nil_append] at hsound
  have hlisted : ∀ userId, listed userId = .ok (b.tokens.ofUser userId) := fun _ => rfl
  refine ⟨performAll_calls others calls _, fun s => ?kept, fun s t hget => ?tells,
    fun userId => ⟨_, hlisted userId, hsound.ofUser userId⟩, ?_⟩
  case kept =>
    have hshows := hsound.shows s
    rcases hget : b.tokens.get? s with - | t
    · rw [hget] at hshows
      have hnone : registrations s (since s h) = [] := hshows
      simp [hnone]
    · rw [hget] at hshows
      obtain ⟨r, hr, -⟩ := Tells.first hshows
      simpa using fun hnil => by simp [hnil] at hr
  case tells =>
    have hshows := hsound.shows s
    rw [hget] at hshows
    exact hshows
  intro userId userId' ts ts' hts hts' t ht t' ht' htoken
  rw [hlisted, Except.ok.injEq] at hts hts'
  subst hts hts'
  obtain ⟨hget, huser⟩ := ((hsound.ofUser userId).2.2 t).1 ht
  obtain ⟨hget', huser'⟩ := ((hsound.ofUser userId').2.2 t').1 ht'
  rw [htoken, hget', Option.some.injEq] at hget
  rw [← huser, ← huser', hget]

section Handover

/-- Others who look at the clock, or make an identifier up, as often as they have been asked. -/
def hourly : (q : Request) → Nat → q.Answer × Nat
  | .clock, n => (⟨n⟩, n + 1)
  | .freshId, n => (Uuid.nth n, n + 1)
  | q, n => ((acquaintances q ()).1, n)

/-- A device that is handed on to another user, who has it deactivated. Taking out all tokens of the
    first user comes too late for it. -/
def handover : List Call :=
  [.register (Uuid.nth 0) " phone " .ios "first", .register (Uuid.nth 1) "phone" .web "second",
    .unregisterAll (Uuid.nth 0), .deactivate "phone", .register (Uuid.nth 0) "watch" .ios ""]

/-- The device is kept for the second user, under the identifier of its first registration. -/
theorem performAll_tells_handover :
    let h := ((performAll handover).run (answer hourly) ⟨0, .empty⟩).1
    let b := ((performAll handover).run (answer hourly) ⟨0, .empty⟩).2
    ∃ t, b.tokens.get? "phone" = some t ∧ Tells "phone" (since "phone" h) t ∧
      t.id = Uuid.nth 1 ∧ t.userId = Uuid.nth 1 ∧ t.platform = .web ∧ t.active = false := by
  intro h b
  have hkept : (b.tokens.get? "phone").isSome = true := by decide +kernel
  obtain ⟨t, hget⟩ := Option.isSome_iff_exists.1 hkept
  have hfields : (b.tokens.get? "phone").map (fun t => (t.id, t.userId, t.platform, t.active)) =
      some (Uuid.nth 1, Uuid.nth 1, .web, false) := by decide +kernel
  rw [hget, Option.map_some, Option.some.injEq] at hfields
  simp only [Prod.mk.injEq] at hfields
  exact ⟨t, hget, (performAll_tells hourly handover 0).2.2.1 "phone" t hget, hfields⟩

end Handover

end Courier.Notification.Tokens
