import Courier.BestEffort

/-!
# Transcripts

A program that has asked some questions and got some answers goes on as another program. What was
asked and answered until then is a transcript. A transcript of a program that is put together is put
together from transcripts of its parts.

* `Program.Runs`: how a program goes on after a transcript.
* `Program.transcript`, `Program.transcript_bind`: the transcript of a program that is run against
  surroundings.
* `Program.Runs.of_bind`: a program that goes on with another one has a transcript of each.
* `Program.exists_runs_done`: where every question can be answered, a program can be done.
-/

namespace Courier

/-- Questions with their answers, in the order of asking. -/
abbrev Transcript (Q : Type) (R : Q → Type) : Type := List (Σ q : Q, R q)

namespace Program

variable {Q : Type} {R : Q → Type} {α β : Type}

/-- What a program still has to do when some of its questions have been answered. -/
inductive Runs : Program Q R α → Transcript Q R → Program Q R α → Prop
  | refl (p : Program Q R α) : Runs p [] p
  | ask {q : Q} {next : R q → Program Q R α} {calls : Transcript Q R} {p : Program Q R α} (a : R q)
      (h : Runs (next a) calls p) : Runs (.ask q next) (⟨q, a⟩ :: calls) p

variable {p p' p'' : Program Q R α} {calls calls' : Transcript Q R}

theorem Runs.trans (h : p.Runs calls p') (h' : p'.Runs calls' p'') :
    p.Runs (calls ++ calls') p'' := by
  induction h with
  | refl p => exact h'
  | ask a h ih => exact .ask a (ih h')

/-- One more question is answered. -/
theorem Runs.concat {q : Q} {next : R q → Program Q R α} (h : p.Runs calls (.ask q next))
    (a : R q) : p.Runs (calls ++ [⟨q, a⟩]) (next a) :=
  h.trans (.ask a (.refl _))

/-- A program that is done asks nothing more. -/
theorem Runs.of_done {a b : α} (h : (done a : Program Q R α).Runs calls (done b)) :
    calls = [] ∧ a = b := by
  cases h with
  | refl => exact ⟨rfl, rfl⟩

theorem Runs.of_bind {f : α → Program Q R β} {b : β} (h : (p >>= f).Runs calls (done b)) :
    ∃ a calls₁ calls₂, calls = calls₁ ++ calls₂ ∧ p.Runs calls₁ (done a) ∧
      (f a).Runs calls₂ (done b) := by
  induction p generalizing calls with
  | done a => exact ⟨a, [], calls, rfl, .refl _, h⟩
  | ask q next ih =>
    rw [ask_bind] at h
    cases h with
    | ask r h =>
      obtain ⟨a, calls₁, calls₂, rfl, h₁, h₂⟩ := ih r h
      exact ⟨a, ⟨q, r⟩ :: calls₁, calls₂, rfl, .ask r h₁, h₂⟩

/-- A program whose result is only passed on. -/
theorem Runs.of_bind_pure {f : α → β} {b : β}
    (h : (p >>= fun a => pure (f a)).Runs calls (done b)) : ∃ a, p.Runs calls (done a) := by
  obtain ⟨a, calls₁, calls₂, rfl, h₁, h₂⟩ := h.of_bind
  obtain ⟨rfl, -⟩ := h₂.of_done
  exact ⟨a, by rwa [List.append_nil]⟩

/-- A program that asks a single question first. -/
theorem Runs.of_ask {q : Q} {next : R q → Program Q R α} {a : α}
    (h : (Program.ask q next).Runs calls (done a)) :
    ∃ r calls', calls = ⟨q, r⟩ :: calls' ∧ (next r).Runs calls' (done a) := by
  cases h with
  | ask r h => exact ⟨r, _, rfl, h⟩

/-- A program that asks a single question first, and goes on with the answer. -/
theorem Runs.of_request_bind {q : Q} {f : R q → Program Q R β} {b : β}
    (h : (request q >>= f).Runs calls (done b)) :
    ∃ r calls', calls = ⟨q, r⟩ :: calls' ∧ (f r).Runs calls' (done b) :=
  h.of_ask

/-- A program that asks a single question. -/
theorem Runs.of_request {q : Q} {r : R q} (h : (request q).Runs calls (done r)) :
    calls = [⟨q, r⟩] := by
  obtain ⟨r, calls', rfl, hdone⟩ := h.of_ask
  obtain ⟨rfl, rfl⟩ := hdone.of_done
  rfl

/-- Whatever comes of a call that is worth a try, it is made, and apart from reports to the log
    nothing else is asked. -/
theorem Runs.of_bestEffort [HasLog Q R] {ε : Type} {text : ε → String} {operation : String}
    {call : Program Q R (Except ε α)} {calls : Transcript Q R} {keep : (Σ q : Q, R q) → Bool}
    (hnote : ∀ {notice : Notice} {calls : Transcript Q R},
      (note notice : Program Q R Unit).Runs calls (done ()) → calls.filter keep = [])
    (h : (bestEffort text operation call).Runs calls (done ())) :
    ∃ answer calls', call.Runs calls' (done answer) ∧ calls.filter keep = calls'.filter keep := by
  obtain ⟨answer, calls₁, calls₂, rfl, hcall, hrest⟩ := h.of_bind
  refine ⟨answer, calls₁, hcall, ?_⟩
  have hreport : calls₂.filter keep = [] := by
    rcases answer with error | _
    · exact hnote hrest
    · obtain ⟨rfl, -⟩ := hrest.of_done
      rfl
  rw [List.filter_append, hreport, List.append_nil]

/-- What is asked and answered when a program is run against surroundings. -/
def transcript {σ : Type} (answer : (q : Q) → σ → R q × σ) : Program Q R α → σ → Transcript Q R
  | done _, _ => []
  | ask q next, s =>
    ⟨q, (answer q s).1⟩ :: transcript answer (next (answer q s).1) (answer q s).2

/-- What is asked by a program that goes on with another one is asked by the one and then by the
    other. -/
theorem transcript_bind {σ : Type} (answer : (q : Q) → σ → R q × σ) (p : Program Q R α)
    (f : α → Program Q R β) (s : σ) : (p >>= f).transcript answer s =
      p.transcript answer s ++ (f (p.run answer s).1).transcript answer (p.run answer s).2 := by
  induction p generalizing s with
  | done a => rfl
  | ask q next ih => exact congrArg (_ :: ·) (ih _ _)

/-- A program that is run against surroundings is done after its transcript. -/
theorem runs_transcript {σ : Type} (answer : (q : Q) → σ → R q × σ) (p : Program Q R α) (s : σ) :
    p.Runs (p.transcript answer s) (done (p.run answer s).1) := by
  induction p generalizing s with
  | done a => exact .refl _
  | ask q next ih => exact .ask _ (ih _ _)

/-- Every answer in a transcript has been given by the surroundings in some state. -/
theorem exists_of_mem_transcript {σ : Type} {answer : (q : Q) → σ → R q × σ} {p : Program Q R α}
    {s : σ} {q : Q} {r : R q} (h : ⟨q, r⟩ ∈ p.transcript answer s) : ∃ s', r = (answer q s').1 := by
  induction p generalizing s with
  | done a => exact absurd h List.not_mem_nil
  | ask q' next ih =>
    rcases List.mem_cons.1 h with h | h
    · cases h
      exact ⟨s, rfl⟩
    · exact ih _ h

theorem exists_runs_done [∀ q, Nonempty (R q)] (p : Program Q R α) :
    ∃ calls a, p.Runs calls (done a) := by
  induction p with
  | done a => exact ⟨[], a, .refl _⟩
  | ask q next ih =>
    obtain ⟨r⟩ := (inferInstance : Nonempty (R q))
    obtain ⟨calls, a, h⟩ := ih r
    exact ⟨⟨q, r⟩ :: calls, a, .ask r h⟩

end Program

end Courier
