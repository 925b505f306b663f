import Courier.Bus.Consumer
import Courier.Proofs.Transcript
import Mathlib.Data.List.Forall2

/-!
# What a consumer does with an event

An event that a consumer has taken off the bus goes to all handlers of its type, in their order, and
is then confirmed. All calls that this takes, answered in whatever way, make up a block.

* `Handler.Called`: all that a handler asked for one event.
* `Consumer.IsBlock`: all that was asked for one event.
* `Consumer.isBlock_of_runs`: what a consumer asks for an event is a block.
-/

namespace Courier

/-- Requests with their answers. -/
abbrev Calls : Type := Transcript Request Request.Answer

/-- Whether a request only reports to the log. -/
def Request.isNote : Request → Bool
  | .note _ => true
  | _ => false

/-- The calls that are more than reports to the log. -/
def work (calls : Calls) : Calls := calls.filter fun call => !call.1.isNote

/-- A handler was called with an event, and this is what it asked until it was done. -/
def Handler.Called (h : Handler) (e : BusEvent) (calls : Calls) : Prop :=
  ∃ all result, (h.handle e).Runs all (.done result) ∧ calls = work all

/-- Each handler of the event was called once, one after the other, and then the event was confirmed
    once, in whatever way all this was answered. -/
def Consumer.IsBlock (c : Consumer) (e : BusEvent) (calls : Calls) : Prop :=
  ∃ runs answer, List.Forall₂ (fun h run => h.Called e run) (c.registry.matching e.eventType) runs ∧
    calls = runs.flatten ++ [⟨.confirm .counted e.id, answer⟩]

variable {c : Consumer} {e : BusEvent} {calls calls' : Calls}

@[simp]
theorem work_append : work (calls ++ calls') = work calls ++ work calls' := List.filter_append ..

/-- What only reports to the log does no work. -/
theorem work_of_note_runs {notice : Notice}
    (h : (note notice : Action Unit).Runs calls (.done ())) : work calls = [] := by
  obtain ⟨r, rest, rfl, hrest⟩ := Program.Runs.of_ask h
  obtain ⟨rfl, -⟩ := hrest.of_done
  rfl

/-! ### Handlers -/

/-- The handlers are called one after the other, whatever comes of it. -/
theorem Consumer.handleAll_runs {hs : List Handler}
    (h : (Consumer.handleAll e hs).Runs calls (.done ())) :
    ∃ runs, List.Forall₂ (fun h run => h.Called e run) hs runs ∧ work calls = runs.flatten := by
  induction hs generalizing calls with
  | nil =>
    obtain ⟨rfl, -⟩ := h.of_done
    exact ⟨[], .nil, rfl⟩
  | cons handler hs ih =>
    obtain ⟨result, all, calls, rfl, hall, h⟩ := h.of_bind
    obtain ⟨runs, hruns, hwork⟩ : ∃ runs,
        List.Forall₂ (fun h run => h.Called e run) hs runs ∧ work calls = runs.flatten := by
      cases result with
      | ok _ => exact ih h
      | error error =>
        obtain ⟨_, reports, calls, rfl, hreports, h⟩ := h.of_bind
        rw [work_append, work_of_note_runs hreports]
        exact ih h
    refine ⟨work all :: runs, .cons ⟨all, result, hall, rfl⟩ hruns, ?_⟩
    rw [work_append, hwork, List.flatten_cons]

/-! ### Blocks -/

theorem Delivery.confirm_runs
    (h : (Delivery.confirm ⟨e, some .counted⟩).Runs calls (.done ())) :
    ∃ answer, work calls = [⟨.confirm .counted e.id, answer⟩] := by
  obtain ⟨answer, asked, hask, hwork⟩ := Program.Runs.of_bestEffort work_of_note_runs h
  rw [hask.of_request] at hwork
  exact ⟨answer, hwork⟩

/-- Whatever is answered, what a consumer asks for an event is a block. -/
theorem Consumer.isBlock_of_runs
    (h : (c.process ⟨e, some .counted⟩).Runs calls (.done ())) : c.IsBlock e (work calls) := by
  have hrest {calls : Calls} (h : (do
      Consumer.handleAll e (c.registry.matching e.eventType)
      Delivery.confirm ⟨e, some .counted⟩ : Action Unit).Runs calls (.done ())) :
      c.IsBlock e (work calls) := by
    obtain ⟨_, handling, confirming, rfl, hhandling, hconfirming⟩ := h.of_bind
    obtain ⟨runs, hruns, hwork⟩ := handleAll_runs hhandling
    obtain ⟨answer, hanswer⟩ := Delivery.confirm_runs hconfirming
    exact ⟨runs, answer, hruns, by rw [work_append, hwork, hanswer]⟩
  rw [process] at h
  split at h
  next =>
    -- That no handler was found is only reported.
    obtain ⟨_, reports, calls, rfl, hreports, h⟩ := h.of_bind
    rw [work_append, work_of_note_runs hreports]
    exact hrest h
  next => exact hrest h

/-! ### Completion -/

instance (q : Request) : Nonempty q.Answer := by
  cases q with
  | clock => exact ⟨⟨0⟩⟩
  | freshId => exact ⟨.nil⟩
  | note => exact ⟨()⟩
  | outbox | publish | closePublisher | handle | confirm => exact ⟨.error (.bus "")⟩
  | inbox | preferences | tokens | logs | sendEmail | sendSms | sendPush =>
    exact ⟨.error (.infrastructure "")⟩

/-- What a consumer has asked so far for an event is the beginning of a block. -/
theorem Consumer.exists_isBlock {p : Action Unit}
    (h : (c.process ⟨e, some .counted⟩).Runs calls p) :
    ∃ more, c.IsBlock e (work calls ++ more) := by
  obtain ⟨more, _, hmore⟩ := p.exists_runs_done
  refine ⟨work more, ?_⟩
  rw [← work_append]
  exact isBlock_of_runs (h.trans hmore)

end Courier
