import DiskPlan.Proofs.JsonValues
import DiskPlan.Proofs.Outcome

/-!
# Outcomes That Can Be Told

Actions that fail with nothing but problems and log nothing that cannot be written.

Whatever an action shows to the outside is text in the end: the message of its failure and
the fields of its events. The numbers in them have to be written for that, and a number
beyond the limit on numerals cannot be. Whether one turns up depends on the state that the
action begins in, so what is shown can only be known together with what the state is kept
to. `Outcome.Tells` says both at once: the action leaves a state of a kind, fails only with
problems that can be told, and logs only events that can be. It is put together along a
chain of actions, where each link may rely on the state that the links before it leave.

Nothing but a problem is a failure that is told. A fault such as a division by zero or a
number that is too long is none, so an action that tells meets no such fault.

## Main definitions

* `Failure.IsTold`: A problem of which every number can be written.
* `Outcome.Tells`: An action that keeps to a kind of state and can be told.

## Theorems

* `Failure.isTold_ofProblem`: A problem with numbers within the limit is told.
* `Event.isWritable_of_spelled`: An event is written if it is spelled in such numbers.
* `Outcome.Tells.andThen`: A chain can be told if its links can.
* `Outcome.Tells.bracket`: So can a stage, with a context that can be written.
-/

namespace DiskPlan

/-! ### Failures and events -/

namespace Failure

/-- A failure that is told: a problem of which every number can be written. What is left over are
    the failures to write a number, which say nothing of what has gone wrong. -/
def IsTold (f : Failure) : Prop :=
  ∃ r, f = .problem r ∧ ∀ n ∈ r.problem.numbers, Decimal.isWritable n = true

theorem isTold_ofProblem {p : Problem} (h : ∀ n ∈ p.numbers, Decimal.isWritable n = true) :
    (ofProblem p).IsTold := by
  unfold ofProblem
  rw [if_pos (List.all_eq_true.mpr h)]
  exact ⟨⟨p, none⟩, rfl, h⟩

/-- Recording a token adds no numbers. -/
theorem IsTold.within {f : Failure} (h : f.IsTold) (o : Origin) : (f.within o).IsTold := by
  rcases h with ⟨r, rfl, hnumbers⟩
  refine ⟨r.within o, rfl, ?_⟩
  have hproblem : (r.within o).problem = r.problem := by
    unfold Report.within Report.attach
    split
    · split <;> rfl
    · rfl
  rw [hproblem]
  exact hnumbers

end Failure

/-- Fields of which every number can be written, including the numbers within their values. -/
def Json.AreWritten (fields : Json.Fields) : Prop :=
  ∀ c ∈ fields, c.2.isWritable = true

theorem Json.isWritable_object {fields : Json.Fields} (h : AreWritten fields) :
    (object fields).isWritable = true :=
  areFieldsWritable_iff.mpr h

namespace Event

/-- Fields that are masked or left out take no numbers into a record. -/
theorem isWritable_of_spelled {e : Event} (h : Json.AreWritten e.spelled.fields) :
    -- Of the fields that are spelled some are left out, some masked, and the others kept.
    e.isWritable = true := by
  unfold isWritable
  refine Json.isWritable_object fun c hc => ?_
  rcases List.mem_map.mp hc with ⟨c', hc', rfl⟩
  split
  · rfl
  · exact h c' (List.mem_filter.mp hc').1

theorem isWritable_texts (xs : List String) : (texts xs).isWritable = true :=
  Json.areItemsWritable_iff.mpr (List.forall_mem_map.mpr fun _ _ => rfl)

/-- What is told of a failure is text, even if the failure is one to write a number. -/
theorem areWritten_failureFields (f : Failure) : Json.AreWritten (failureFields f) := by
  unfold failureFields
  refine List.forall_mem_append.mpr ⟨?_, ?_⟩
  · exact List.forall_mem_cons.mpr
      ⟨rfl, List.forall_mem_singleton.mpr (Json.isWritable_ofText? f.message?)⟩
  · split
    · exact fun _ hc => absurd hc List.not_mem_nil
    · exact List.forall_mem_cons.mpr ⟨rfl, List.forall_mem_singleton.mpr rfl⟩

end Event

/-! ### Actions -/

namespace Outcome

variable {σ τ α β : Type} {P Q : σ → Prop} {o : Outcome σ α} {s : σ}

/-- An action that leaves a state of a kind, fails only with problems that are told and logs only
    events that are written. The three belong together: an event can only be written while the
    numbers of the state are within the limit. -/
structure Tells (P : σ → Prop) (o : Outcome σ α) : Prop where
  state : P o.state
  answer : FailsWith Failure.IsTold o.answer
  log : ∀ e ∈ o.log, e.isWritable = true

theorem tells_done (h : P s) (a : α) : Tells P (done s a) :=
  ⟨h, failsWith_ok a, fun _ he => absurd he List.not_mem_nil⟩

theorem tells_fail (h : P s) {f : Failure} (hf : f.IsTold) : Tells P (fail s f : Outcome σ α) :=
  ⟨h, failsWith_error hf, fun _ he => absurd he List.not_mem_nil⟩

theorem tells_ofExcept (h : P s) {answer : Except Failure α}
    (hanswer : FailsWith Failure.IsTold answer) : Tells P (ofExcept s answer) :=
  ⟨h, hanswer, fun _ he => absurd he List.not_mem_nil⟩

/-- An action that succeeds with one event. -/
theorem tells_event (h : P s) (a : α) {e : Event} (he : e.isWritable = true) :
    Tells P ⟨s, [e], .ok a⟩ :=
  ⟨h, failsWith_ok a, List.forall_mem_singleton.mpr he⟩

/-- So does one that tells it, since it can be written. An event with a number beyond the limit
    would make the action fail in its place. -/
theorem tells_telling (h : P s) (a : α) {e : Event} (he : e.isWritable = true) :
    Tells P (telling s e a) := by
  rw [telling_of_isWritable he]
  exact tells_event h a he

/-- An action on what has been found out is that action. -/
theorem andThen_ofExcept_ok (s : σ) (a : α) (next : σ → α → Outcome σ β) :
    (ofExcept s (.ok a)).andThen next = next s a := rfl

namespace Tells

/-- Two actions in a row can be told if the second can in every state that the first may leave.
    Where the first one fails the second leaves nothing, so the kind of state that is promised in
    the end has to hold already. -/
theorem andThen {next : σ → α → Outcome σ β} (ho : Tells P o)
    (hnext : ∀ s a, P s → o.answer = .ok a → Tells Q (next s a)) (hPQ : ∀ s, P s → Q s) :
    Tells Q (o.andThen next) := by
  unfold Outcome.andThen
  cases ha : o.answer with
  | error f => exact ⟨hPQ _ ho.state, failsWith_error (ho.answer f ha), ho.log⟩
  | ok a =>
      -- The second one begins in the state that the first has left, with its answer.
      have hrest := hnext o.state a ho.state ha
      exact ⟨hrest.state, hrest.answer, List.forall_mem_append.mpr ⟨ho.log, hrest.log⟩⟩

theorem mono (ho : Tells P o) (hPQ : ∀ s, P s → Q s) : Tells Q o :=
  ⟨hPQ _ ho.state, ho.answer, ho.log⟩

theorem logging (ho : Tells P o) {events : List Event} (he : ∀ e ∈ events, e.isWritable = true) :
    Tells P (o.logging events) :=
  ⟨ho.state, ho.answer, List.forall_mem_append.mpr ⟨he, ho.log⟩⟩

theorem lift {put : σ → τ} {R : τ → Prop} (ho : Tells P o) (hput : ∀ s, P s → R (put s)) :
    Tells R (o.lift put) :=
  ⟨hput _ ho.state, ho.answer, ho.log⟩

/-- Recording a token keeps the problem, and with it the numbers that have to be written. -/
theorem within (ho : Tells P o) (origin : Origin) : Tells P (o.within origin) :=
  ⟨ho.state, failsWith_mapError fun f hf => (ho.answer f hf).within origin, ho.log⟩

/-- A stage is told by its start and its end, which carry its context and, at a failure, what is
    told of that. -/
theorem bracket (ho : Tells P o) {stage : Stage} (hstage : Json.AreWritten stage.context) :
    Tells P (o.bracket stage) := by
  have hnamed : ∀ fields, Json.AreWritten fields →
      Json.AreWritten (("stage", .text stage.title) :: fields) :=
    fun _ hfields => List.forall_mem_cons.mpr ⟨rfl, hfields⟩
  -- The first event, what is logged between, and the last one.
  refine ⟨ho.state, ho.answer, List.forall_mem_cons.mpr ⟨?_, List.forall_mem_append.mpr
    ⟨ho.log, List.forall_mem_singleton.mpr ?_⟩⟩⟩
  · exact Event.isWritable_of_spelled (hnamed _ hstage)
  · split
    · exact Event.isWritable_of_spelled (hnamed _ hstage)
    · rename_i f _
      exact Event.isWritable_of_spelled (hnamed _ (List.forall_mem_append.mpr
        ⟨Event.areWritten_failureFields f, hstage⟩))

end Tells

end Outcome

end DiskPlan
