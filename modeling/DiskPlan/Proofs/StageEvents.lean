import DiskPlan.Operation.Effect
import DiskPlan.Proofs.Outcome

/-!
# Stages in the Log

How the log goes from one stage to the next.

`Staged` says what a log of stages looks like from its beginning to its end. Stages are
gone through in order, each of them is begun once, and what it logs stands between its
beginning and its end. All but the last are completed, and if there is a failure it is the
last of those begun that fails. What may be logged within a stage is left open, since a
probe from outside may log anything.

An operation has no stages of its own, so whatever it logs tells of none. This has to be
said of every action that logs something, and is put together along the chains that the
actions are made of. A quiet action as a stage leaves the two events of that stage.

A stage is told of by its title and its context, and the context could be hidden: the log
masks some fields and drops others by their names. `Stage.IsTold` says that nothing is
hidden of a stage, and it holds of all stages whose fields are not named so.

## Main definitions

* `Event.isOfStage`: An event that tells of the start or the end of a stage.
* `Staged`: A log that goes through stages.
* `Stage.IsTold`: A stage of which the log tells everything.
* `Outcome.Quiet`: An action that tells of no stages.

## Theorems

* `Staged.append`, `Staged.append_of_some`: Logs of stages are put together.
* `Staged.stageEvents_of_none`, `Staged.stageEvents_of_some`: The stage events alone.
* `Stage.isTold_of_context`: A stage without fields of certain names is told.
* `Outcome.staged_bracket`, `Outcome.staged_andThen`: Actions that are stages.
* `Outcome.Quiet.filter_bracket`: A quiet action as a stage.
* `applyTokens_quiet`, `initializeGroups_quiet`: Operations tell of no stages.
-/

namespace DiskPlan

/-- Whether an event tells of the start or the end of a stage. -/
def Event.isOfStage : Event → Bool
  | stageStarted _ | stageCompleted _ | stageFailed _ _ => true
  | _ => false

/-- Events that tell of no stage leave nothing behind when only those of stages are kept. -/
theorem Event.filter_isOfStage {events : List Event} (h : ∀ e ∈ events, e.isOfStage = false) :
    events.filter isOfStage = [] :=
  List.filter_eq_nil_iff.mpr fun e he => by
    rw [h e he]
    exact Bool.false_ne_true

/-- The start and the end of a stage that is completed. -/
def Stage.completedEvents (s : Stage) : List Event :=
  [.stageStarted s, .stageCompleted s]

/-- The start and the end of a stage that fails. -/
def Stage.failedEvents (s : Stage) (f : Failure) : List Event :=
  [.stageStarted s, .stageFailed s f]

/-- A log that goes through stages, with what each of them logs between its start and its
    end. Without a failure all stages are completed. With one the stages are completed
    up to the one that fails, and those after it are not begun. -/
inductive Staged (Within : Stage → Event → Prop) :
    List Stage → List Event → Option Failure → Prop
  | nil : Staged Within [] [] none
  | completed {stage : Stage} {stages : List Stage} {events log : List Event}
      {f? : Option Failure} (hevents : ∀ e ∈ events, Within stage e)
      (hrest : Staged Within stages log f?) :
      Staged Within (stage :: stages)
        (.stageStarted stage :: (events ++ .stageCompleted stage :: log)) f?
  | failed {stage : Stage} {stages : List Stage} {events : List Event} {f : Failure}
      (hevents : ∀ e ∈ events, Within stage e) :
      Staged Within (stage :: stages)
        (.stageStarted stage :: (events ++ [.stageFailed stage f])) (some f)

namespace Staged

variable {Within : Stage → Event → Prop} {stages stages' : List Stage} {log log' : List Event}
  {f : Failure} {f? : Option Failure}

/-- Stages may follow those that are completed. The log of the first ones has no failure in it,
    so the second ones are reached. -/
theorem append (h : Staged Within stages log none) (h' : Staged Within stages' log' f?) :
    Staged Within (stages ++ stages') (log ++ log') f? := by
  -- That there is no failure is turned into an equation, which the induction can carry along.
  generalize hnone : (none : Option Failure) = g? at h
  induction h with
  | nil => exact h'
  | completed hevents _ ih =>
      rw [List.cons_append, List.cons_append, List.append_assoc, List.cons_append]
      exact .completed hevents (ih hnone)
  | failed _ => exact absurd hnone (by simp only [reduceCtorEq, not_false_eq_true])

/-- Stages that would follow the one that fails are not begun, so they leave nothing in the log
    and can be added to the list freely. -/
theorem append_of_some (h : Staged Within stages log (some f)) (stages' : List Stage) :
    Staged Within (stages ++ stages') log (some f) := by
  generalize hsome : some f = g? at h
  induction h with
  | nil => exact absurd hsome (by simp only [reduceCtorEq, not_false_eq_true])
  | completed hevents _ ih => exact .completed hevents (ih hsome)
  | failed hevents => exact .failed hevents

/-- Without a failure the stage events are those of all stages, one after the other. -/
theorem stageEvents_of_none (h : Staged Within stages log none)
    (hquiet : ∀ stage e, Within stage e → e.isOfStage = false) :
    log.filter Event.isOfStage = stages.flatMap Stage.completedEvents := by
  generalize hnone : (none : Option Failure) = g? at h
  induction h with
  | nil => rfl
  | @completed stage _ events _ _ hevents _ ih =>
      have hrest := ih hnone
      -- What is logged within the stage goes away, and its start and its end stay.
      have hwithin := Event.filter_isOfStage fun e he => hquiet stage e (hevents e he)
      rw [List.filter_cons_of_pos rfl, List.filter_append, hwithin, List.nil_append,
        List.filter_cons_of_pos rfl, hrest]
      rfl
  | failed _ => exact absurd hnone (by simp only [reduceCtorEq, not_false_eq_true])

/-- With a failure the last event tells it, as the failure of a stage, and the stage events
    are those of the stages up to that one. -/
theorem stageEvents_of_some (h : Staged Within stages log (some f)) :
    ∃ done stage rest, stages = done ++ stage :: rest ∧
      log.getLast? = some (.stageFailed stage f) ∧
      ((∀ stage e, Within stage e → e.isOfStage = false) →
        log.filter Event.isOfStage =
          done.flatMap Stage.completedEvents ++ stage.failedEvents f) := by
  generalize hsome : some f = g? at h
  induction h with
  | nil => exact absurd hsome (by simp only [reduceCtorEq, not_false_eq_true])
  | @completed stage _ events log _ hevents _ ih =>
      -- The stage that fails is one of the others, so this one is among those that are done.
      rcases ih hsome with ⟨done, last, rest, rfl, hlast, hfilter⟩
      refine ⟨stage :: done, last, rest, rfl, ?_, fun hquiet => ?_⟩
      · rw [List.getLast?_cons, List.getLast?_append, List.getLast?_cons, hlast]
        rfl
      · have hwithin := Event.filter_isOfStage fun e he => hquiet stage e (hevents e he)
        rw [List.filter_cons_of_pos rfl, List.filter_append, hwithin, List.nil_append,
          List.filter_cons_of_pos rfl, hfilter hquiet]
        rfl
  | @failed stage rest events g hevents =>
      -- Nothing was completed before the stage that fails.
      obtain rfl := Option.some.inj hsome
      refine ⟨[], stage, rest, rfl, ?_, fun hquiet => ?_⟩
      · rw [List.getLast?_cons, List.getLast?_append]
        rfl
      · have hwithin := Event.filter_isOfStage fun e he => hquiet stage e (hevents e he)
        rw [List.filter_cons_of_pos rfl, List.filter_append, hwithin]
        rfl

end Staged

/-- The log tells of a stage by its title and its whole context, at its start and at its
    end, and of a failure by its kind, its words and, if one is recorded, its token. -/
structure Stage.IsTold (s : Stage) : Prop where
  started : (Event.stageStarted s).record =
    ⟨"stage started", .info, s.source, ("stage", .text s.title) :: s.context⟩
  completed : (Event.stageCompleted s).record =
    ⟨"stage completed", .info, s.source, ("stage", .text s.title) :: s.context⟩
  failed : ∀ f, (Event.stageFailed s f).record =
    ⟨"stage failed", .error, s.source,
      ("stage", .text s.title) :: ("error_type", .text f.name) :: ("error", .ofText? f.message?) ::
        ((match f.origin? with
          | none => []
          | some o => [("operation", .text o.kind), ("token", .text o.token)]) ++ s.context)⟩

/-- An event is told as it is spelled if no field has a name that the log acts on. -/
theorem Event.record_eq_spelled {e : Event}
    (h : ∀ c ∈ e.spelled.fields, c.1 ∉ secretNames ∧ c.1 ∉ ownNames) : e.record = e.spelled := by
  unfold record
  dsimp only
  rw [withoutOwnNames_eq_self fun c hc => (h c hc).2, redact_eq_self fun c hc => (h c hc).1]

/-- A stage is told if its context has no field of a name that the log acts on. -/
theorem Stage.isTold_of_context {s : Stage}
    (h : ∀ c ∈ s.context, c.1 ∉ secretNames ∧ c.1 ∉ ownNames) : s.IsTold := by
  -- These are the names of the fields that the log adds to the context of a stage.
  have hnames : ∀ name ∈ ["stage", "error_type", "error", "operation", "token"],
      name ∉ secretNames ∧ name ∉ ownNames := by decide
  have htitled : ∀ c ∈ ("stage", .text s.title) :: s.context,
      c.1 ∉ secretNames ∧ c.1 ∉ ownNames :=
    List.forall_mem_cons.mpr ⟨hnames "stage" List.mem_cons_self, h⟩
  refine ⟨Event.record_eq_spelled htitled, Event.record_eq_spelled htitled, fun f => ?_⟩
  refine Event.record_eq_spelled (e := .stageFailed s f) (List.forall_mem_cons.mpr
    ⟨hnames "stage" List.mem_cons_self, List.forall_mem_append.mpr ⟨fun c hc => ?_, h⟩⟩)
  -- The names of the fields of a failure are known, whether it records a token or not.
  have hname := List.mem_map_of_mem (f := Prod.fst) hc
  unfold Event.failureFields at hname
  refine hnames c.1 ?_
  cases ho : f.origin? with
  | none =>
      rw [ho] at hname
      have hsub : ["error_type", "error"] ⊆
          ["stage", "error_type", "error", "operation", "token"] := by decide
      exact hsub hname
  | some o =>
      rw [ho] at hname
      have hsub : ["error_type", "error", "operation", "token"] ⊆
          ["stage", "error_type", "error", "operation", "token"] := by decide
      exact hsub hname

/-! ### Actions -/

namespace Outcome

variable {σ τ α β : Type} {Within : Stage → Event → Prop} {o : Outcome σ α}

/-- The failure that an action ends with, if it fails. -/
def failure? (o : Outcome σ α) : Option Failure :=
  match o.answer with
  | .ok _ => none
  | .error f => some f

/-- An action as a stage of the log is a log of one stage. -/
theorem staged_bracket (stage : Stage) (h : ∀ e ∈ o.log, Within stage e) :
    Staged Within [stage] (o.bracket stage).log (o.bracket stage).failure? := by
  unfold bracket failure?
  dsimp only
  cases o.answer with
  | ok a => exact .completed h .nil
  | error f => exact .failed h

/-- Two actions in a row go through the stages of both. -/
theorem staged_andThen {next : σ → α → Outcome σ β} {stages stages' : List Stage}
    (ho : Staged Within stages o.log o.failure?)
    (hnext : ∀ s a, Staged Within stages' (next s a).log (next s a).failure?) :
    Staged Within (stages ++ stages') (o.andThen next).log (o.andThen next).failure? := by
  unfold failure? at ho
  cases hanswer : o.answer with
  | ok a =>
      rw [hanswer] at ho
      -- The second action is reached, and its stages follow those of the first.
      have hboth := ho.append (hnext o.state a)
      unfold andThen
      rw [hanswer]
      exact hboth
  | error f =>
      rw [hanswer] at ho
      unfold andThen failure?
      rw [hanswer]
      -- The second action is not reached, but its stages were to be gone through as well.
      exact ho.append_of_some stages'

/-- What two actions in a row log is logged by one of them. -/
theorem mem_log_andThen {next : σ → α → Outcome σ β} {e : Event} (h : e ∈ (o.andThen next).log) :
    e ∈ o.log ∨ ∃ a, e ∈ (next o.state a).log := by
  unfold andThen at h
  split at h
  · exact Or.inl h
  · rename_i a _
    rcases List.mem_append.mp h with h | h
    · exact Or.inl h
    · exact Or.inr ⟨a, h⟩

/-- An action that tells of no stages. -/
def Quiet (o : Outcome σ α) : Prop :=
  ∀ e ∈ o.log, e.isOfStage = false

/-- An action that logs nothing is quiet. -/
theorem quiet_of_log_eq_nil (h : o.log = []) : o.Quiet := by
  intro e he
  rw [h] at he
  exact absurd he List.not_mem_nil

/-- An action that logs one event is quiet if that event tells of no stage. -/
theorem quiet_of_log_eq_singleton {e : Event} (h : o.log = [e]) (he : e.isOfStage = false) :
    o.Quiet := by
  unfold Quiet
  rw [h]
  exact List.forall_mem_singleton.mpr he

/-- Two quiet actions in a row are quiet. -/
theorem Quiet.andThen {next : σ → α → Outcome σ β} (ho : o.Quiet)
    (hnext : ∀ s a, (next s a).Quiet) : (o.andThen next).Quiet := by
  intro e he
  rcases mem_log_andThen he with he | ⟨a, he⟩
  · exact ho e he
  · exact hnext o.state a e he

/-- A quiet action with quiet events in front is quiet. -/
theorem Quiet.logging (ho : o.Quiet) {events : List Event}
    (hevents : ∀ e ∈ events, e.isOfStage = false) : (o.logging events).Quiet :=
  List.forall_mem_append.mpr ⟨hevents, ho⟩

/-- An action that only tells something is quiet, also if it has nothing to say. -/
theorem quiet_telling {e : Event} (h : e.isOfStage = false) (s : σ) (a : α) :
    (telling s e a).Quiet := by
  unfold telling
  split
  · exact quiet_of_log_eq_singleton rfl h
  · exact quiet_of_log_eq_nil rfl

/-- A quiet action as a stage tells of that stage alone. -/
theorem Quiet.filter_bracket (ho : o.Quiet) (stage : Stage) :
    (o.bracket stage).log.filter Event.isOfStage =
      match o.answer with
      | .ok _ => stage.completedEvents
      | .error f => stage.failedEvents f := by
  unfold bracket
  dsimp only
  -- The two events of the stage are kept, and of what stands between them nothing is.
  rw [List.filter_cons_of_pos rfl, List.filter_append, Event.filter_isOfStage ho]
  cases o.answer with
  | ok a => rfl
  | error f => rfl

/-- A quiet action is quiet on whatever it is carried out, since its log is the same. -/
theorem Quiet.lift (ho : o.Quiet) (put : σ → τ) : (o.lift put).Quiet :=
  ho

/-- What a failure records is not seen in the log. -/
theorem Quiet.within (ho : o.Quiet) (origin : Origin) : (o.within origin).Quiet :=
  ho

end Outcome

open Outcome

/-! ### Operations -/

namespace Disk

variable (d : Disk)

/-- A partition that is moved tells of the move at most. -/
theorem move_quiet (number first : Int) : (d.move number first).Quiet := by
  unfold move
  split
  · exact quiet_of_log_eq_nil rfl
  · exact (quiet_telling rfl d _).andThen fun _ _ => quiet_of_log_eq_nil rfl

/-- A partition that is resized tells of it at most. -/
theorem resize_quiet (number last : Int) : (d.resize number last).Quiet := by
  unfold resize
  split
  · exact quiet_of_log_eq_nil rfl
  · exact (quiet_telling rfl d _).andThen fun _ _ => quiet_of_log_eq_nil rfl

/-- A partition that is added tells of it at most. -/
theorem add_quiet (r : Request) : (d.add r).Quiet := by
  unfold add
  split
  · exact quiet_of_log_eq_nil rfl
  · exact quiet_telling rfl _ _

/-- A partition that is changed in another way tells nothing. -/
theorem change_quiet (number : Int) (f : Partition → Partition) : (d.change number f).Quiet := by
  unfold change
  split <;> exact quiet_of_log_eq_nil rfl

end Disk

namespace DiskAction

/-- Deletions tell of one partition each. The induction is on their numbers, from any disk, since
    each finds the disk as the one before has left it. -/
theorem deleteAll_quiet (numbers : List Nat) (d : Disk) : (deleteAll d numbers).Quiet := by
  induction numbers generalizing d with
  | nil => exact quiet_of_log_eq_nil rfl
  | cons number rest ih =>
      rw [deleteAll]
      refine (d.change_quiet number _).andThen fun d _ => ?_
      exact (ih d).logging (List.forall_mem_singleton.mpr rfl)

/-- An action on a disk tells of no stages. Looking something up and reading a position log
    nothing, so what counts are the changes themselves. -/
theorem run_quiet (action : DiskAction) (d : Disk) : (action.run d).Quiet := by
  cases action with
  | relabel table => exact quiet_of_log_eq_singleton rfl rfl
  | delete numbers => exact deleteAll_quiet numbers d
  | move number first? last? =>
      refine Quiet.andThen ?_ fun d _ => ?_
      · refine (quiet_of_log_eq_nil rfl).andThen fun d _ => ?_
        cases first? with
        | none => exact quiet_of_log_eq_nil rfl
        | some position => exact (quiet_of_log_eq_nil rfl).andThen fun d _ => d.move_quiet number _
      · cases last? with
        | none => exact quiet_of_log_eq_nil rfl
        | some position =>
            exact (quiet_of_log_eq_nil rfl).andThen fun d _ => d.resize_quiet number _
  | reuse number content suffix => exact d.change_quiet number _
  | create role first? last? content suffix =>
      refine (quiet_of_log_eq_nil rfl).andThen fun d _ => ?_
      exact (d.add_quiet _).andThen fun _ _ => quiet_of_log_eq_nil rfl

end DiskAction

/-- A logical volume tells of itself and of where it is mounted, and that is all. -/
theorem NewVolume.run_quiet (v : NewVolume) (g : VolumeGroup) : (v.run g).Quiet := by
  refine (quiet_of_log_eq_nil rfl).andThen fun g _ => ?_
  refine Quiet.logging (Quiet.andThen ?_ fun _ _ => quiet_of_log_eq_nil rfl) ?_
  · unfold VolumeGroup.add
    split
    · exact quiet_of_log_eq_nil rfl
    · exact quiet_telling rfl _ _
  · unfold mounted
    cases v.mount with
    | none => exact fun _ he => absurd he List.not_mem_nil
    | some mount => exact List.forall_mem_singleton.mpr rfl

/-- Neither does an operation, on a disk or on a group. -/
theorem Operation.run_quiet (op : Operation) (t : Topology) : (op.run t).Quiet := by
  cases op with
  | onDisk name action =>
      rw [run, Topology.onDisk]
      split
      · exact quiet_of_log_eq_nil rfl
      · exact (action.run_quiet _).lift _
  | onGroup name volume =>
      rw [run, Topology.onGroup]
      split
      · exact quiet_of_log_eq_nil rfl
      · exact (volume.run_quiet _).lift _

/-- Whatever a token tells of, it is no stage. -/
theorem applyToken_quiet (kind : Kind) (token : String) (t : Topology) :
    (applyToken kind token t).Quiet := by
  refine Quiet.within (Quiet.logging (Quiet.andThen (quiet_of_log_eq_nil rfl) fun t op => ?_) ?_) _
  · -- Besides what the operation logs there are the operation itself and the flags that are
    -- ignored.
    exact (op.run_quiet t).logging (List.forall_mem_singleton.mpr rfl)
  · exact List.forall_mem_map.mpr fun _ _ => rfl

/-- Tokens in a row tell of no stages. -/
theorem applyTokens_quiet (kind : Kind) (tokens : List String) (t : Topology) :
    (applyTokens kind tokens t).Quiet := by
  induction tokens generalizing t with
  | nil => exact quiet_of_log_eq_nil rfl
  | cons token rest ih => exact (applyToken_quiet kind token t).andThen fun t _ => ih t

namespace Topology

/-- Groups that are made tell of themselves, up to the first that cannot. -/
theorem addGroups_quiet (gs : List VolumeGroup) (t : Topology) : (addGroups gs t).Quiet := by
  induction gs generalizing t with
  | nil => exact quiet_of_log_eq_nil rfl
  | cons g rest ih =>
      unfold addGroups
      dsimp only
      split
      · exact (ih _).logging (List.forall_mem_singleton.mpr rfl)
      · exact quiet_of_log_eq_nil rfl

/-- Making the volume groups tells of no stages. -/
theorem initializeGroups_quiet (t : Topology) : t.initializeGroups.Quiet :=
  addGroups_quiet _ t

end Topology
end DiskPlan
