import DiskPlan.Event

/-!
# Outcomes

What an action leaves behind: the state it ends in, what it logged, and its
answer.

An action that fails leaves its state too. Nothing is rolled back, so an action
of several steps that fails on the way ends in the state that the steps before
the failure made, and `andThen` is the only way that two actions are joined.

To log an event is an action too, and it fails if the event cannot be written. The
work ends there, so it matters whether a change is told before it is made or after
it.

## Main definitions

* `Outcome`: A state, a log and an answer.
* `Outcome.andThen`: One action after another, the second only on success.
* `Outcome.telling`: An event logged in a state.
* `Outcome.within`: An action done for a token.
* `Outcome.bracket`: An action as a stage of the log.
* `Outcome.bracketGiven`: The same with a context that may clash with the log.

## Theorems

* `andThen_state`: Where two actions in a row end.
* `telling_answer_eq_ok_iff`: Exactly the events that can be written are logged.
* `telling_andThen`: What comes after an event is done if it can be written.
* `within_state`: Recording a token leaves the state alone.
-/

namespace DiskPlan

/-- What an action on a state leaves behind. -/
structure Outcome (σ α : Type) where
  state : σ
  log : List Event
  answer : Except Failure α

namespace Outcome

variable {σ τ α β : Type}

/-- An action that does nothing and answers. -/
def done (s : σ) (a : α) : Outcome σ α := ⟨s, [], .ok a⟩

/-- An action that fails without doing anything. -/
def fail (s : σ) (f : Failure) : Outcome σ α := ⟨s, [], .error f⟩

/-- An action that fails or answers without doing anything. -/
def ofExcept (s : σ) (answer : Except Failure α) : Outcome σ α := ⟨s, [], answer⟩

/-- One action after another. The second is done only if the first succeeds, and
    the log holds the events of both in their order. -/
def andThen (o : Outcome σ α) (next : σ → α → Outcome σ β) : Outcome σ β :=
  match o.answer with
  | .error f => ⟨o.state, o.log, .error f⟩
  | .ok a =>
    let o' := next o.state a
    ⟨o'.state, o.log ++ o'.log, o'.answer⟩

/-- An outcome with events logged before it. -/
def logging (events : List Event) (o : Outcome σ α) : Outcome σ α :=
  { o with log := events ++ o.log }

/-- An event logged in a state. One that cannot be written ends the work. -/
def telling (s : σ) (e : Event) (a : α) : Outcome σ α :=
  if e.isWritable then ⟨s, [e], .ok a⟩ else .fail s (.numeral .writing)

/-- An outcome seen from a larger state. -/
def lift (put : σ → τ) (o : Outcome σ α) : Outcome τ α :=
  ⟨put o.state, o.log, o.answer⟩

/-- An outcome of work done for a token, which a failure records. -/
def within (origin : Origin) (o : Outcome σ α) : Outcome σ α :=
  { o with answer := o.answer.mapError (Failure.within origin) }

/-- An outcome as a stage of the log: a start, its own events, and an end that
    tells whether it failed. -/
def bracket (stage : Stage) (o : Outcome σ α) : Outcome σ α :=
  let ending := match o.answer with
    | .ok _ => Event.stageCompleted stage
    | .error f => Event.stageFailed stage f
  { o with log := .stageStarted stage :: (o.log ++ [ending]) }

/-- What is wrong with a context that keeps the end of a stage from being told, by a name
    that the end adds as well. While a failure is being handled, it is the name alone that
    is told of. -/
def endingMisfit {α : Type} (name : String) : Except Failure α → Misfit
  | .ok _ =>
    .givenTwice "structlog.stdlib.BoundLogger.info" ("keyword argument '" ++ name ++ "'")
  | .error _ => .addedTwice name

/-- An outcome of work on a state as a stage with a context from outside. If the
    context keeps the stage from being started, the work is not done; if it keeps
    the end from being told, the work is done and its answer is lost. -/
def bracketGiven (stage : Stage) (s : σ) (o : Outcome σ α) : Outcome σ α :=
  match stage.openingMisfit? with
  | some m => .fail s (.misfit m)
  | none =>
    match stage.repeatedName? o.answer with
    | none => o.bracket stage
    | some name =>
      ⟨o.state, .stageStarted stage :: o.log, .error (.misfit (endingMisfit name o.answer))⟩

theorem andThen_state (o : Outcome σ α) (next : σ → α → Outcome σ β) :
    (o.andThen next).state =
      match o.answer with
      | .error _ => o.state
      | .ok a => (next o.state a).state := by
  unfold andThen
  split <;> simp_all

theorem telling_answer_eq_ok_iff {s : σ} {e : Event} {a b : α} :
    (telling s e a).answer = .ok b ↔ e.isWritable = true ∧ a = b := by
  unfold telling
  split <;> simp_all [fail]

theorem telling_of_isWritable {e : Event} (h : e.isWritable = true) (s : σ) (a : α) :
    telling s e a = ⟨s, [e], .ok a⟩ :=
  if_pos h

theorem telling_andThen (s : σ) (e : Event) (a : α) (next : σ → α → Outcome σ β) :
    (telling s e a).andThen next =
      if e.isWritable then (next s a).logging [e] else .fail s (.numeral .writing) := by
  unfold telling
  split <;> rfl

@[simp]
theorem within_state (origin : Origin) (o : Outcome σ α) :
    (o.within origin).state = o.state := rfl

@[simp]
theorem bracket_state (stage : Stage) (o : Outcome σ α) :
    (o.bracket stage).state = o.state := rfl

@[simp]
theorem bracket_answer (stage : Stage) (o : Outcome σ α) :
    (o.bracket stage).answer = o.answer := rfl

@[simp]
theorem logging_state (events : List Event) (o : Outcome σ α) :
    (o.logging events).state = o.state := rfl

end Outcome

end DiskPlan
