import Courier.Proofs.Notification.Devices

/-!
# What comes back of a registration

A token is registered without the blanks around it, but deactivated and taken out by exactly the
text that is given. So the text with which a token has been registered serves to deactivate it and
to take it out only if there are no blanks around it, while the text that came back always serves.

What comes back has an identifier and times of its own. A token that is registered again keeps the
identifier and the age that it had, so that what comes back is what is kept only of a new token.

* `exists_of_run_register`: what is kept after a registration.
* `spelling_serves_iff`: by which texts a token can be taken out and deactivated.
* `Store.Proper.performAll`: whatever has been done, a token is kept once, under its own text.
* `register_reports_iff`: when what comes back is what is kept.
-/

namespace Courier.Notification.Tokens

variable {σ : Type} {others : (q : Request) → σ → q.Answer × σ} {userId : Uuid} {token : String}
  {platform : Platform} {deviceId : String} {t : PushToken} {b b' : Shelf σ}

/-! ### After a registration -/

/-- What is kept of a token after it has been stored: all of it if it is new, and else it keeps its
    identifier and its age. -/
def Store.kept (ts : Store) (t : PushToken) (now : Instant) : PushToken :=
  (ts.get? t.token).elim t fun old => renew old t now

theorem Store.kept_of_none {ts : Store} (h : ts.get? t.token = none) (now : Instant) :
    ts.kept t now = t := by
  rw [kept, h, Option.elim_none]

theorem Store.kept_of_some {ts : Store} {old : PushToken} (h : ts.get? t.token = some old)
    (now : Instant) : ts.kept t now = renew old t now := by
  rw [kept, h, Option.elim_some]

theorem Store.perform_store (ts : Store) (t : PushToken) (now : Instant) :
    perform now (.store t) ts = (.ok (), ts.insert t.token (ts.kept t now)) := by
  rcases hget : ts.get? t.token with - | old
  · rw [kept_of_none hget, perform, hget]
  · rw [kept_of_some hget, perform, hget]

theorem Store.active_kept (ts : Store) (t : PushToken) (now : Instant) :
    (ts.kept t now).active = t.active := by
  rcases hget : ts.get? t.token with - | old
  · rw [kept_of_none hget]
  · rw [kept_of_some hget, renew]

theorem Store.userId_kept (ts : Store) (t : PushToken) (now : Instant) :
    (ts.kept t now).userId = t.userId := by
  rcases hget : ts.get? t.token with - | old
  · rw [kept_of_none hget]
  · rw [kept_of_some hget, renew]

/-- The token is kept, and active, under the text that comes back. -/
theorem exists_of_run_register
    (h : (Tokens.register userId token platform deviceId).run (answer others) b = (.ok t, b')) :
    t.token = Text.trim token ∧ t.active = true ∧
      ∃ now, b'.tokens = b.tokens.insert t.token (b.tokens.kept t now) := by
  rw [Tokens.register] at h
  generalize Text.trim token = text at h ⊢
  by_cases hempty : text.isEmpty = true
  · rw [if_pos hempty] at h
    cases h
  · rw [if_neg hempty] at h
    simp only [ask, Program.request_bind, Program.run, answer, Store.perform_store] at h
    cases h
    exact ⟨rfl, rfl, _, rfl⟩

/-! ### By which text -/

theorem run_deactivate_missing {text : String} (h : b.tokens.get? text = none) :
    (Tokens.deactivate text).run (answer others) b =
      (.error (missing text), ⟨(others .clock b.rest).2, b.tokens⟩) := by
  simp only [Tokens.deactivate, ask, Program.request, Program.run, answer, Store.perform, h]

theorem run_deactivate {text : String} (h : b.tokens.get? text = some t) :
    (Tokens.deactivate text).run (answer others) b =
      (.ok (), ⟨(others .clock b.rest).2, b.tokens.insert text
        { t with active := false, updatedAt := (others .clock b.rest).1 }⟩) := by
  simp only [Tokens.deactivate, ask, Program.request, Program.run, answer, Store.perform, h]

variable (others)

/-- By a text, what is kept under another one can be taken out. -/
def Shelf.Removes (b : Shelf σ) (text key : String) : Prop :=
  ∃ b', (Tokens.unregister text).run (answer others) b = (.ok (), b') ∧ b'.tokens.get? key = none

/-- By a text, what is kept under another one can be deactivated. -/
def Shelf.Disables (b : Shelf σ) (text key : String) : Prop :=
  ∃ b' t, (Tokens.deactivate text).run (answer others) b = (.ok (), b') ∧
    b'.tokens.get? key = some t ∧ t.active = false

variable {others}

theorem Shelf.removes_iff {key : String} (hget : b.tokens.get? key = some t) (text : String) :
    b.Removes others text key ↔ text = key := by
  constructor
  · rintro ⟨b', hrun, hnone⟩
    obtain rfl : ⟨(others .clock b.rest).2, b.tokens.erase text⟩ = b' := congrArg Prod.snd hrun
    by_contra hne
    rw [Table.get?_erase, if_neg hne, hget] at hnone
    cases hnone
  · rintro rfl
    exact ⟨_, rfl, (Table.get?_erase _ _ _).trans (if_pos rfl)⟩

theorem Shelf.disables_iff {key : String} (hget : b.tokens.get? key = some t)
    (hactive : t.active = true) (text : String) : b.Disables others text key ↔ text = key := by
  constructor
  · rintro ⟨b', t', hrun, hkept, hinactive⟩
    by_contra hne
    -- Whatever is kept under the other text, the token stays as it is.
    have hsame : b'.tokens.get? key = some t := by
      rcases hget' : b.tokens.get? text with - | t''
      · rw [run_deactivate_missing hget'] at hrun
        cases hrun
      · rw [run_deactivate hget'] at hrun
        cases hrun
        rw [Table.get?_insert, if_neg hne, hget]
    obtain rfl := Option.some.inj (hkept.symm.trans hsame)
    rw [hactive] at hinactive
    cases hinactive
  · rintro rfl
    exact ⟨_, _, run_deactivate hget, (Table.get?_insert _ _ _ _).trans (if_pos rfl), rfl⟩

/-- **By which text a token can be reached.** After a registration that succeeds, the token is kept
    under the text that came back, which is the given one without the blanks around it. By the text
    that came back it can be taken out, and deactivated; by the given text if and only if there are
    no blanks around it. Where there are, nothing is found to be deactivated unless something else
    has been stored under that very text. -/
theorem spelling_serves_iff
    (h : (Tokens.register userId token platform deviceId).run (answer others) b = (.ok t, b')) :
    t.token = Text.trim token ∧
    (b'.Removes others t.token t.token ∧ b'.Disables others t.token t.token) ∧
    (b'.Removes others token t.token ↔ Text.trim token = token) ∧
    (b'.Disables others token t.token ↔ Text.trim token = token) ∧
    (Text.trim token ≠ token → b.tokens.get? token = none →
      ((Tokens.deactivate token).run (answer others) b').1 = .error (missing token)) := by
  obtain ⟨htoken, hactive, now, htokens⟩ := exists_of_run_register h
  have hget : b'.tokens.get? t.token = some (b.tokens.kept t now) := by
    rw [htokens, Table.get?_insert, if_pos rfl]
  have hkept : (b.tokens.kept t now).active = true := (Store.active_kept _ _ _).trans hactive
  have heq : token = t.token ↔ Text.trim token = token := by rw [htoken, eq_comm]
  refine ⟨htoken, ⟨(Shelf.removes_iff hget _).2 rfl, (Shelf.disables_iff hget hkept _).2 rfl⟩,
    (Shelf.removes_iff hget _).trans heq, (Shelf.disables_iff hget hkept _).trans heq,
    fun hne hnone => ?_⟩
  have hmissing : b'.tokens.get? token = none := by
    rw [htokens, Table.get?_insert, if_neg fun heq' => hne (heq.1 heq'.symm), hnone]
  rw [run_deactivate_missing hmissing]

section Padded

/-- A user with one device, whose token has been registered with a blank in front of it. -/
def padded : (Except ServiceError PushToken) × Shelf Nat :=
  (Tokens.register (Uuid.nth 0) " phone" .ios "first").run (answer hourly) ⟨0, .empty⟩

/-- By the text without the blank the token can be taken out and deactivated, by the other text
    neither. -/
theorem spelling_serves_padded :
    ∃ t b', padded = (.ok t, b') ∧ t.token = "phone" ∧
      (b'.Removes hourly t.token t.token ∧ b'.Disables hourly t.token t.token) ∧
      ¬ b'.Removes hourly " phone" t.token ∧ ¬ b'.Disables hourly " phone" t.token := by
  have htrim : Text.trim " phone" = "phone" := by decide +kernel
  have hne : Text.trim " phone" ≠ " phone" := by decide +kernel
  have hok : padded.1.isOk = true := by decide +kernel
  rcases hrun : padded with ⟨error | t, b'⟩
  · rw [hrun] at hok
    cases hok
  · rw [padded] at hrun
    obtain ⟨htoken, hserves, hremoves, hdisables, -⟩ := spelling_serves_iff hrun
    exact ⟨t, b', rfl, htoken.trans htrim, hserves, hne ∘ hremoves.1, hne ∘ hdisables.1⟩

/-- By the text with which it has been registered, the token is not taken out, and is not found to
    be deactivated. -/
theorem padded_unreached :
    padded.1.map (·.token) = .ok "phone" ∧
      (((Tokens.unregister " phone").run (answer hourly) padded.2).2.tokens.get? "phone").isSome ∧
      ((Tokens.deactivate " phone").run (answer hourly) padded.2).1 = .error (missing " phone") ∧
      (((Tokens.deactivate " phone").run (answer hourly) padded.2).2.tokens.get? "phone").map
        (·.active) = some true := by
  decide +kernel

end Padded

/-! ### What is kept of it -/

namespace Store

/-- The store after operations one after the other, each at its time. -/
def performAll (s : Store) (ops : List (Instant × Op)) : Store :=
  ops.foldl (fun s op => (perform op.1 op.2 s).2) s

theorem proper_empty : Proper .empty := ⟨Table.distinct_empty, Table.keyedBy_empty _⟩

/-- Whatever is done, a token is kept once, under its own text. -/
theorem Proper.perform {s : Store} (h : s.Proper) (now : Instant) (op : Op) :
    (perform now op s).2.Proper := by
  cases op with
  | store t =>
    rw [Store.perform]
    rcases hget : s.get? t.token with - | old
    · exact ⟨h.distinct.insert _ _, h.keyedBy.insert rfl⟩
    · have htoken : old.token = t.token := h.keyedBy.eq_of_get? h.distinct hget
      exact ⟨h.distinct.insert _ _, h.keyedBy.insert htoken⟩
  | findByUser userId => exact h
  | deactivate token =>
    rw [Store.perform]
    rcases hget : s.get? token with - | t
    · exact h
    · have htoken : t.token = token := h.keyedBy.eq_of_get? h.distinct hget
      exact ⟨h.distinct.insert _ _, h.keyedBy.insert htoken⟩
  | delete token => exact ⟨h.distinct.erase _, fun e he => h.keyedBy e (List.mem_filter.1 he).1⟩
  | deleteByUser userId =>
    exact ⟨h.distinct.filter _, fun e he => h.keyedBy e (List.mem_filter.1 he).1⟩

theorem Proper.performAll {s : Store} (h : s.Proper) (ops : List (Instant × Op)) :
    (s.performAll ops).Proper := by
  induction ops generalizing s with
  | nil => exact h
  | cons op ops ih => exact ih (h.perform op.1 op.2)

/-- What is kept differs from what has been stored in the identifier and the times of a known
    token. -/
theorem Proper.kept_eq {s : Store} (h : s.Proper) (t : PushToken) (now : Instant) :
    s.kept t now = (s.get? t.token).elim t fun old =>
      { t with id := old.id, createdAt := old.createdAt, updatedAt := now } := by
  rcases hold : s.get? t.token with - | old
  · exact kept_of_none hold now
  · have htoken : old.token = t.token := h.keyedBy.eq_of_get? h.distinct hold
    rw [kept_of_some hold, renew, htoken]
    rfl

/-- On the list of its user a token is found in one row only. -/
theorem Proper.mem_ofUser_kept {s : Store} (h : s.Proper) (t : PushToken) (now : Instant)
    (row : PushToken) :
    row ∈ ofUser (s.insert t.token (s.kept t now)) t.userId ∧ row.token = t.token ↔
      row = s.kept t now := by
  have hproper := h.perform now (.store t)
  rw [perform_store] at hproper
  have hget : (s.insert t.token (s.kept t now)).get? t.token = some (s.kept t now) := by
    rw [Table.get?_insert, if_pos rfl]
  rw [hproper.mem_ofUser]
  constructor
  · rintro ⟨⟨hrow, -⟩, htoken⟩
    rw [htoken, hget] at hrow
    exact (Option.some.inj hrow).symm
  · rintro rfl
    have htoken : (s.kept t now).token = t.token :=
      hproper.keyedBy.eq_of_get? hproper.distinct hget
    exact ⟨⟨htoken ▸ hget, userId_kept _ _ _⟩, htoken⟩

end Store

/-- **What comes back is what is kept of a new token.** Whatever has been done to push tokens: after
    a registration that succeeds, the list of its user has one token of the text that came back,
    which is what came back, but for the identifier and the age that a known token keeps and for the
    time of its renewal. If the identifier is not the one of a known token of this text, what came
    back is on the list if and only if no token of this text was known. -/
theorem register_reports_iff (ops : List (Instant × Op)) {rest : σ}
    (h : (Tokens.register userId token platform deviceId).run (answer others)
      ⟨rest, Store.performAll .empty ops⟩ = (.ok t, b')) :
    let s := Store.performAll .empty ops
    ∃ ts now, ((Tokens.list t.userId).run (answer others) b').1 = .ok ts ∧
      (∀ row, row ∈ ts ∧ row.token = t.token ↔
        row = (s.get? t.token).elim t fun old => { t with
          id := old.id
          createdAt := old.createdAt
          updatedAt := now }) ∧
      ((∀ old, s.get? t.token = some old → old.id ≠ t.id) →
        (t ∈ ts ↔ s.get? t.token = none)) := by
  intro s
  have hproper : s.Proper := Store.proper_empty.performAll ops
  obtain ⟨-, -, now, htokens⟩ := exists_of_run_register h
  have hmem : ∀ row, row ∈ b'.tokens.ofUser t.userId ∧ row.token = t.token ↔
      row = s.kept t now := by
    rw [htokens]
    exact hproper.mem_ofUser_kept t now
  refine ⟨_, now, rfl, hproper.kept_eq t now ▸ hmem, fun hfresh => ?_⟩
  have ht : t ∈ b'.tokens.ofUser t.userId ↔ t = s.kept t now := by
    rw [← hmem, and_iff_left rfl]
  refine ht.trans ⟨fun heq => ?_, fun hnone => (Store.kept_of_none hnone now).symm⟩
  -- A known token keeps its identifier, which is not the one of what came back.
  rcases hold : s.get? t.token with - | old
  · rfl
  · rw [Store.kept_of_some hold] at heq
    exact absurd (congrArg PushToken.id heq).symm (hfresh old hold)

section Again

/-- The token of a user with one device. -/
def known : PushToken := ⟨Uuid.nth 2, Uuid.nth 0, "phone", .ios, "first", true, ⟨1⟩, ⟨1⟩⟩

/-- It is registered for the second time. -/
def again : (Except ServiceError PushToken) × Shelf Nat :=
  (Tokens.register (Uuid.nth 0) "phone" .ios "first").run (answer hourly)
    ⟨4, Store.performAll .empty [(⟨3⟩, .store known)]⟩

/-- What came back is not on the list, which has the identifier of the first registration. -/
theorem register_reports_again :
    ∃ t b' ts, again = (.ok t, b') ∧
      ((Tokens.list t.userId).run (answer hourly) b').1 = .ok ts ∧ t ∉ ts ∧
      ∃ row ∈ ts, row.token = t.token ∧ row.id = Uuid.nth 2 := by
  have hok : again.1.isOk = true := by decide +kernel
  rcases hrun : again with ⟨error | t, b'⟩
  · rw [hrun] at hok
    cases hok
  · have hid : t.id = Uuid.nth 5 := by
      have hmap : again.1.map (·.id) = .ok (Uuid.nth 5) := by decide +kernel
      rw [hrun] at hmap
      exact Except.ok.inj hmap
    have htoken : t.token = "phone" := by
      have hmap : again.1.map (·.token) = .ok "phone" := by decide +kernel
      rw [hrun] at hmap
      exact Except.ok.inj hmap
    rw [again] at hrun
    obtain ⟨ts, now, hlist, hrows, hreports⟩ := register_reports_iff _ hrun
    have hold : (Store.performAll .empty [(⟨3⟩, .store known)]).get? t.token = some known := by
      rw [htoken]
      decide +kernel
    rw [hold] at hrows hreports
    refine ⟨t, b', ts, rfl, hlist, fun hmem => ?_, ?_⟩
    · have hnone := (hreports fun old heq => ?_).1 hmem
      · cases hnone
      · cases heq
        rw [hid]
        decide
    · obtain ⟨hmem, heq⟩ := (hrows _).2 rfl
      exact ⟨_, hmem, heq, rfl⟩

/-- What came back is on no list. -/
theorem again_unlisted :
    again.1.map (·.id) = .ok (Uuid.nth 5) ∧
      ((Tokens.list (Uuid.nth 0)).run (answer hourly) again.2).1.map (·.map (·.id)) =
        .ok [Uuid.nth 2] := by
  decide +kernel

end Again

end Courier.Notification.Tokens
