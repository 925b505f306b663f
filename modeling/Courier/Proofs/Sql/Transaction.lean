import Courier.Proofs.Transcript
import Courier.Sql.Outbox

/-!
# A batch is stored as a whole

To store a batch, a transaction is begun, the events are inserted one after the other, and what has
been inserted counts when the transaction is committed. At the first statement that is refused the
storing is over, and what has been inserted is taken back. In a transaction that somebody else has
begun, the events are inserted and nothing else is done.

* `Transacted`: how a transaction goes, in each of the ways in which it can go.
* `Inserted`: the events of a batch are inserted in their order, up to the first that is refused.
* `transaction_runs`, `insertAll_runs`: that is what sessions do.
* `store_transacts`: what becomes of a batch, however the database answers.
-/

namespace Courier.Sql

/-- Requests with their answers. -/
abbrev Calls : Type := Transcript Request Request.Answer

/-! ### Statements -/

def beginStatement : Statement := ⟨"BEGIN", []⟩

def commitStatement : Statement := ⟨"COMMIT", []⟩

def rollBackStatement : Statement := ⟨"ROLLBACK", []⟩

theorem begin_ne_commit : beginStatement ≠ commitStatement :=
  fun h => absurd (congrArg Statement.text h) (by decide +kernel)

theorem commit_ne_rollBack : commitStatement ≠ rollBackStatement :=
  fun h => absurd (congrArg Statement.text h) (by decide +kernel)

/-- The statement that is run, if one is. -/
def statement? : (Σ q : Request, q.Answer) → Option Statement
  | ⟨.run s, _⟩ => some s
  | _ => none

/-- The statement that is run and not refused. -/
def granted? : (Σ q : Request, q.Answer) → Option Statement
  | ⟨.run s, .ok _⟩ => some s
  | _ => none

/-- The statements that are run, in their order. -/
def statements (calls : Calls) : List Statement := calls.filterMap statement?

/-- The statements that are run and not refused, in their order. -/
def granted (calls : Calls) : List Statement := calls.filterMap granted?

variable {calls calls' : Calls} {result : Except Failure Unit}

@[simp]
theorem statements_append : statements (calls ++ calls') = statements calls ++ statements calls' :=
  List.filterMap_append

@[simp]
theorem granted_append : granted (calls ++ calls') = granted calls ++ granted calls' :=
  List.filterMap_append

@[simp]
theorem statements_cons_run (s : Statement) (answer : Except Failure Reply) :
    statements (⟨.run s, answer⟩ :: calls) = s :: statements calls :=
  rfl

@[simp]
theorem statements_cons_connect (answer : Except Failure Unit) :
    statements (⟨.connect, answer⟩ :: calls) = statements calls :=
  rfl

@[simp]
theorem granted_cons_ok (s : Statement) (reply : Reply) :
    granted (⟨.run s, .ok reply⟩ :: calls) = s :: granted calls :=
  rfl

@[simp]
theorem granted_cons_error (s : Statement) (failure : Failure) :
    granted (⟨.run s, .error failure⟩ :: calls) = granted calls :=
  rfl

@[simp]
theorem granted_cons_connect (answer : Except Failure Unit) :
    granted (⟨.connect, answer⟩ :: calls) = granted calls :=
  rfl

@[simp]
theorem statements_nil : statements [] = [] :=
  rfl

@[simp]
theorem granted_nil : granted [] = [] :=
  rfl

/-- A statement that is accepted is run. -/
theorem granted_subset : granted calls ⊆ statements calls := by
  intro s hs
  obtain ⟨⟨q, answer⟩, hcall, hq⟩ := List.mem_filterMap.1 hs
  refine List.mem_filterMap.2 ⟨⟨q, answer⟩, hcall, ?_⟩
  rcases q with _ | s'
  · exact hq
  rcases answer with failure | reply
  · cases hq
  · exact hq

theorem run_runs {text : String} {params : List Value} {answer : Except Failure Reply}
    (h : (run text params).Runs calls (.done answer)) :
    calls = [⟨.run ⟨text, params⟩, answer⟩] :=
  Program.Runs.of_request h

/-! ### Transactions -/

/-- A connection has been taken and a transaction begun on it. -/
def opening (reply : Reply) : Calls := [⟨.connect, .ok ()⟩, ⟨.run beginStatement, .ok reply⟩]

/-- How a transaction goes, when what is done in it goes in one of the given ways. -/
inductive Transacted (Goes : Calls → Except Failure Unit → Prop) :
    Calls → Except Failure Unit → Prop
  | unconnected (failure : Failure) : Transacted Goes [⟨.connect, .error failure⟩] (.error failure)
  | unbegun (failure : Failure) :
      Transacted Goes [⟨.connect, .ok ()⟩, ⟨.run beginStatement, .error failure⟩] (.error failure)
  /-- What has been done is taken back. -/
  | failed (reply : Reply) {calls : Calls} {failure : Failure} (h : Goes calls (.error failure))
      (answer : Except Failure Reply) :
      Transacted Goes (opening reply ++ calls ++ [⟨.run rollBackStatement, answer⟩])
        (.error failure)
  /-- It has all been done, but it does not count, and is taken back. -/
  | uncommitted (reply : Reply) {calls : Calls} (h : Goes calls (.ok ())) (failure : Failure)
      (answer : Except Failure Reply) :
      Transacted Goes (opening reply ++ calls ++
        [⟨.run commitStatement, .error failure⟩, ⟨.run rollBackStatement, answer⟩])
        (.error failure)
  | committed (reply : Reply) {calls : Calls} (h : Goes calls (.ok ())) (reply' : Reply) :
      Transacted Goes (opening reply ++ calls ++ [⟨.run commitStatement, .ok reply'⟩]) (.ok ())

theorem rollBack_runs {outcome : Except Failure Unit} (h : rollBack.Runs calls (.done outcome)) :
    ∃ answer, calls = [⟨.run rollBackStatement, answer⟩] := by
  obtain ⟨answer, calls₁, calls₂, rfl, hrun, hrest⟩ := h.of_bind
  obtain ⟨rfl, -⟩ := hrest.of_done
  exact ⟨answer, by rw [List.append_nil, run_runs hrun]; rfl⟩

/-- To roll back and to fail. -/
theorem rollBack_bind_runs {failure : Failure}
    (h : (rollBack >>= fun _ => pure (.error failure) : Session (Except Failure Unit)).Runs calls
      (.done result)) :
    ∃ answer, calls = [⟨.run rollBackStatement, answer⟩] ∧ result = .error failure := by
  obtain ⟨_, calls₁, calls₂, rfl, hroll, hrest⟩ := h.of_bind
  obtain ⟨rfl, rfl⟩ := hrest.of_done
  obtain ⟨answer, rfl⟩ := rollBack_runs hroll
  exact ⟨answer, List.append_nil _, rfl⟩

theorem transaction_runs {session : Session (Except Failure Unit)}
    (h : (transaction session).Runs calls (.done result)) :
    Transacted (fun calls result => session.Runs calls (.done result)) calls result := by
  obtain ⟨begun, calls₁, calls₂, rfl, hbegin, hrest⟩ := h.of_bind
  obtain ⟨reply, calls₃, calls₄, rfl, hquery, hbegun⟩ := hbegin.of_bind
  obtain ⟨rfl, rfl⟩ := hbegun.of_done
  obtain ⟨connected, calls₅, rfl, hrun⟩ := Program.Runs.of_request_bind hquery
  rcases connected with failure | _
  · obtain ⟨rfl, rfl⟩ := hrun.of_done
    obtain ⟨rfl, rfl⟩ := hrest.of_done
    exact .unconnected failure
  obtain rfl := run_runs hrun
  rcases reply with failure | reply
  · obtain ⟨rfl, rfl⟩ := hrest.of_done
    exact .unbegun failure
  obtain ⟨outcome, done, ending, rfl, hsession, hending⟩ := hrest.of_bind
  rcases outcome with failure | _
  · obtain ⟨answer, rfl, rfl⟩ := rollBack_bind_runs hending
    exact .failed reply hsession answer
  obtain ⟨reply', calls₆, calls₇, rfl, hcommit, hcommitted⟩ := hending.of_bind
  obtain rfl := run_runs hcommit
  rcases reply' with failure | reply'
  · obtain ⟨answer, rfl, rfl⟩ := rollBack_bind_runs hcommitted
    exact .uncommitted reply hsession failure answer
  · obtain ⟨rfl, rfl⟩ := hcommitted.of_done
    exact .committed reply hsession reply'

theorem Transacted.mono {Goes Goes' : Calls → Except Failure Unit → Prop}
    (hgoes : ∀ calls result, Goes calls result → Goes' calls result)
    (h : Transacted Goes calls result) : Transacted Goes' calls result := by
  cases h with
  | unconnected failure => exact .unconnected failure
  | unbegun failure => exact .unbegun failure
  | failed reply h answer => exact .failed reply (hgoes _ _ h) answer
  | uncommitted reply h failure answer => exact .uncommitted reply (hgoes _ _ h) failure answer
  | committed reply h reply' => exact .committed reply (hgoes _ _ h) reply'

/-! ### Insertions -/

namespace Outbox

open Courier.Outbox

/-- The statement that puts an event into the table of events. -/
def putting (e : Event) : Statement where
  text := "INSERT INTO outbox_events (id, aggregate_type, aggregate_id, event_type, payload, " ++
    "created_at, published_at, retry_count, last_error, status) " ++
    "VALUES ($1, $2, $3, $4, $5, $6, $7, $8, $9, $10)"
  params := [.uuid e.id, .text e.aggregateType, .text e.aggregateId, .text e.eventType,
    .bytes e.payload, .instant e.createdAt.microseconds,
    e.publishedAt.elim .null fun t => .instant t.microseconds,
    .integer (min e.retryCount.toNat 2147483647), e.lastError.elim .null .text,
    .text e.status.name]

/-- An insertion has parameters. -/
theorem putting_ne (e : Event) {s : Statement} (h : s.params = []) : putting e ≠ s := by
  rintro rfl
  cases h

@[simp]
theorem putting_ne_begin (e : Event) : putting e ≠ beginStatement := putting_ne e rfl

@[simp]
theorem putting_ne_commit (e : Event) : putting e ≠ commitStatement := putting_ne e rfl

@[simp]
theorem putting_ne_rollBack (e : Event) : putting e ≠ rollBackStatement := putting_ne e rfl

/-- The names of the columns and the numbers of the parameters, spelled out. -/
theorem insertion_text : relation.insertion =
    "INSERT INTO outbox_events (id, aggregate_type, aggregate_id, event_type, payload, " ++
    "created_at, published_at, retry_count, last_error, status) " ++
    "VALUES ($1, $2, $3, $4, $5, $6, $7, $8, $9, $10)" := by
  have hcolumns : relation.columnList = "id, aggregate_type, aggregate_id, event_type, payload, " ++
      "created_at, published_at, retry_count, last_error, status" := by decide +kernel
  have hparameters : Relation.parameters relation.columns.length =
      "$1, $2, $3, $4, $5, $6, $7, $8, $9, $10" := by decide +kernel
  delta Relation.insertion
  rw [hcolumns, hparameters]
  decide +kernel

theorem insertion_eq (e : Event) : ⟨relation.insertion, params e⟩ = putting e := by
  rw [insertion_text]
  refine congrArg (Statement.mk _) ?_
  rw [params]
  rcases e.publishedAt with - | t
  · rcases e.lastError with - | reason
    · rfl
    · rfl
  · rcases e.lastError with - | reason
    · rfl
    · rfl

/-- The events of a batch are inserted in their order, up to the first that is refused. -/
inductive Inserted : List Event → Calls → Except Failure Unit → Prop
  | nil : Inserted [] [] (.ok ())
  | next (e : Event) (reply : Reply) {es : List Event} {calls : Calls}
      {result : Except Failure Unit} (h : Inserted es calls result) :
      Inserted (e :: es) (⟨.run (putting e), .ok reply⟩ :: calls) result
  | refused (e : Event) (failure : Failure) (es : List Event) :
      Inserted (e :: es) [⟨.run (putting e), .error failure⟩] (.error failure)

variable {batch : List Event} {e : Event} {failure : Failure}

theorem insertAll_runs (h : (insertAll batch).Runs calls (.done result)) :
    Inserted batch calls result := by
  induction batch generalizing calls with
  | nil =>
    obtain ⟨rfl, rfl⟩ := h.of_done
    exact .nil
  | cons e es ih =>
    obtain ⟨answer, calls₁, calls₂, rfl, hrun, hrest⟩ := h.of_bind
    obtain rfl := run_runs hrun
    rw [insertion_eq]
    rcases answer with failure | reply
    · obtain ⟨rfl, rfl⟩ := hrest.of_done
      exact .refused e failure es
    · exact .next e reply (ih hrest)

namespace Inserted

theorem exists_putting (h : Inserted batch calls result) :
    ∀ call ∈ calls, ∃ e ∈ batch, call.1 = .run (putting e) := by
  induction h with
  | nil => exact fun _ hcall => absurd hcall List.not_mem_nil
  | next e reply h ih =>
    refine List.forall_mem_cons.2 ⟨⟨e, List.mem_cons_self, rfl⟩, fun call hcall => ?_⟩
    obtain ⟨e', he', heq⟩ := ih call hcall
    exact ⟨e', List.mem_cons_of_mem _ he', heq⟩
  | refused e failure es => exact List.forall_mem_singleton.2 ⟨e, List.mem_cons_self, rfl⟩

/-- When nothing is refused, all events are inserted. -/
theorem eq_of_ok (h : Inserted batch calls (.ok ())) :
    statements calls = batch.map putting ∧ granted calls = batch.map putting := by
  generalize hresult : (.ok () : Except Failure Unit) = result at h
  induction h with
  | nil => exact ⟨rfl, rfl⟩
  | next e reply h ih =>
    obtain ⟨hstatements, hgranted⟩ := ih hresult
    exact ⟨congrArg (putting e :: ·) hstatements, congrArg (putting e :: ·) hgranted⟩
  | refused e failure es => cases hresult

/-- When an event is refused, those before it have been inserted, and those after it are not
    tried. -/
theorem exists_of_error (h : Inserted batch calls (.error failure)) :
    ∃ before e after, batch = before ++ e :: after ∧
      statements calls = (before ++ [e]).map putting ∧ granted calls = before.map putting := by
  generalize hresult : (.error failure : Except Failure Unit) = result at h
  induction h with
  | nil => cases hresult
  | next e reply h ih =>
    obtain ⟨before, e', after, rfl, hstatements, hgranted⟩ := ih hresult
    exact ⟨e :: before, e', after, rfl, congrArg (putting e :: ·) hstatements,
      congrArg (putting e :: ·) hgranted⟩
  | refused e failure es => exact ⟨[], e, es, rfl, rfl, rfl⟩

theorem eq_error_of_mem (h : Inserted batch calls result) {s : Statement}
    (hmem : ⟨.run s, .error failure⟩ ∈ calls) : result = .error failure := by
  induction h with
  | nil => exact absurd hmem List.not_mem_nil
  | next e reply h ih => exact ih ((List.mem_cons.1 hmem).resolve_left nofun)
  | refused e failure' es =>
    cases List.mem_singleton.1 hmem
    rfl

/-- In an insertion of a batch, only the events of the batch are put. -/
theorem eq_putting (h : Inserted batch calls result) {s : Statement} (hs : s ∈ statements calls) :
    ∃ e ∈ batch, s = putting e := by
  obtain ⟨⟨q, answer⟩, hcall, hq⟩ := List.mem_filterMap.1 hs
  obtain ⟨e, he, rfl⟩ := h.exists_putting _ hcall
  cases hq
  exact ⟨e, he, rfl⟩

theorem commit_not_mem (h : Inserted batch calls result) : commitStatement ∉ statements calls := by
  intro hcommit
  obtain ⟨e, -, he⟩ := h.eq_putting hcommit
  exact putting_ne_commit e he.symm

end Inserted

/-! ### Storing a batch -/

variable {outcome : Except Failure Unit}

/-- To take back is not to commit. -/
theorem commit_not_mem_undone (answer : Except Failure Reply) :
    commitStatement ∉ granted [⟨.run rollBackStatement, answer⟩] :=
  fun h => commit_ne_rollBack (List.mem_singleton.1 (granted_subset h))

/-- It is asked for the end of the transaction when all events of the batch have been inserted. -/
theorem commit_mem_iff (h : Transacted (Inserted batch) calls outcome) :
    commitStatement ∈ statements calls ↔ beginStatement :: batch.map putting <+: granted calls := by
  cases h with
  | unconnected failure => simp
  | unbegun failure => simp [begin_ne_commit.symm]
  | @failed reply inserts failure h answer =>
    obtain ⟨before, e, after, rfl, hstatements, hgranted⟩ := h.exists_of_error
    refine iff_of_false ?_ fun hinserted => ?_
    · simp [opening, h.commit_not_mem, begin_ne_commit.symm, commit_ne_rollBack]
    · -- What follows on the events before the refused one would have to be the refused one.
      simp only [opening, List.cons_append, List.nil_append, granted_cons_connect,
        granted_cons_ok, granted_append, hgranted, List.map_append, List.map_cons,
        List.cons_prefix_cons, true_and, List.prefix_append_right_inj] at hinserted
      have hmem := granted_subset (hinserted.subset List.mem_cons_self)
      exact putting_ne_rollBack e (List.mem_singleton.1 hmem)
  | uncommitted reply h failure answer => simp [opening, h.eq_of_ok]
  | committed reply h reply' => simp [opening, h.eq_of_ok]

/-- A transaction succeeds if its end is acknowledged. -/
theorem eq_ok_iff (h : Transacted (Inserted batch) calls outcome) :
    outcome = .ok () ↔ commitStatement ∈ granted calls := by
  cases h with
  | unconnected failure => simp
  | unbegun failure => simp
  | @failed reply inserts failure h answer =>
    have hinserts : commitStatement ∉ granted inserts :=
      fun hcommit => h.commit_not_mem (granted_subset hcommit)
    simp [opening, hinserts, begin_ne_commit.symm, commit_not_mem_undone]
  | uncommitted reply h failure answer =>
    simp [opening, h.eq_of_ok, begin_ne_commit.symm, commit_not_mem_undone]
  | committed reply h reply' => simp

/-- After an event has been refused, the last thing that is said is to take it all back. -/
theorem rollBack_of_refused (h : Transacted (Inserted batch) calls outcome)
    (hmem : ⟨.run (putting e), .error failure⟩ ∈ calls) :
    (statements calls).getLast? = some rollBackStatement ∧
      commitStatement ∉ statements calls := by
  cases h with
  | unconnected failure' => simp at hmem
  | unbegun failure' => simp at hmem
  | failed reply h answer =>
    refine ⟨by rw [statements_append]; exact List.getLast?_concat, ?_⟩
    simp [opening, h.commit_not_mem, begin_ne_commit.symm, commit_ne_rollBack]
  | @uncommitted reply inserts h failure' answer =>
    have hinserts : ⟨.run (putting e), .error failure⟩ ∈ inserts := by
      simpa [opening] using hmem
    cases h.eq_error_of_mem hinserts
  | @committed reply inserts h reply' =>
    have hinserts : ⟨.run (putting e), .error failure⟩ ∈ inserts := by
      simpa [opening] using hmem
    cases h.eq_error_of_mem hinserts

/-- **A batch is stored as a whole.** Whatever the database answers: nothing is said for an empty
    batch. For any other, a transaction goes in one of its ways, with the insertions of the events
    in their order up to the first that is refused. The transaction is asked to count when all
    events have been inserted and only then, and the storing succeeds when that is acknowledged.
    After an event has been refused, it is all taken back, and the transaction never counts. In a
    transaction of somebody else, the same insertions are all that is said. -/
theorem store_transacts {σ : Type} (answer : (q : Request) → σ → q.Answer × σ) (st : σ)
    (batch : List Event) :
    let calls := (perform (.store batch)).transcript answer st
    let result := ((perform (.store batch)).run answer st).1
    let inserts := (insertAll batch).transcript answer st
    let inserted := ((insertAll batch).run answer st).1
    (batch = [] → calls = [] ∧ result = .ok ()) ∧
      (batch ≠ [] →
        (∃ outcome, Transacted (Inserted batch) calls outcome ∧
          result = outcome.mapError Failure.toError) ∧
        (commitStatement ∈ statements calls ↔
          beginStatement :: batch.map putting <+: granted calls) ∧
        (result = .ok () ↔ commitStatement ∈ granted calls) ∧
        ∀ e failure, ⟨.run (putting e), .error failure⟩ ∈ calls →
          (statements calls).getLast? = some rollBackStatement ∧
            commitStatement ∉ statements calls) ∧
      Inserted batch inserts inserted ∧
      ∀ call ∈ inserts, ∃ e ∈ batch, call.1 = .run (putting e) := by
  intro calls result inserts inserted
  have hinserts : Inserted batch inserts inserted := insertAll_runs (Program.runs_transcript ..)
  refine ⟨?_, fun hbatch => ?_, hinserts, hinserts.exists_putting⟩
  · rintro rfl
    exact ⟨rfl, rfl⟩
  have hruns : (perform (.store batch)).Runs calls (.done result) := Program.runs_transcript ..
  obtain ⟨outcome, calls₁, calls₂, hcalls, hstore, hdone⟩ := hruns.of_bind
  obtain ⟨rfl, hresult⟩ := hdone.of_done
  rw [List.append_nil] at hcalls
  rw [store, if_neg (by simpa using hbatch), ← hcalls] at hstore
  have hgoes : Transacted (Inserted batch) calls outcome :=
    (transaction_runs hstore).mono fun _ _ => insertAll_runs
  refine ⟨⟨outcome, hgoes, hresult.symm⟩, commit_mem_iff hgoes, ?_,
    fun e failure => rollBack_of_refused hgoes⟩
  rw [← eq_ok_iff hgoes, ← hresult]
  rcases outcome with failure | _
  · exact iff_of_false nofun nofun
  · exact iff_of_true rfl rfl

/-- A database that refuses one of its statements, whose number is given, and accepts the others. -/
def refusing (number : Nat) : (q : Request) → Nat → q.Answer × Nat
  | .connect, count => (.ok (), count)
  | .run _, count =>
    (if count = number then .error (.refused "disk full") else .ok ⟨[], 1⟩, count + 1)

def placed : Event :=
  ⟨Uuid.nth 0, "order", "1", "placed", [0x7B, 0x7D], ⟨0⟩, none, 0, none, .pending⟩

def shipped : Event :=
  ⟨Uuid.nth 1, "order", "1", "shipped", [0x7B, 0x7D], ⟨1000⟩, none, 0, none, .pending⟩

/-- The second of two events is refused, and the first is taken back. -/
theorem store_transacts_diskFull :
    let calls := (perform (.store [placed, shipped])).transcript (refusing 2) 0
    (statements calls).getLast? = some rollBackStatement ∧ commitStatement ∉ statements calls := by
  intro calls
  obtain ⟨-, -, -, htaken⟩ :=
    (store_transacts (refusing 2) 0 [placed, shipped]).2.1 (List.cons_ne_nil _ _)
  refine htaken shipped (.refused "disk full") ?_
  rw [← insertion_eq]
  exact .tail _ (.tail _ (.tail _ (.head _)))

end Outbox

end Courier.Sql
