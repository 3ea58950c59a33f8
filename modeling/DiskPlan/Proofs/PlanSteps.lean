import DiskPlan.Plan
import DiskPlan.Proofs.Refusal
import DiskPlan.Proofs.Session

/-!
# Steps of a Plan

A plan as one list of steps, carried out from left to right.

A plan is made in stages, each of which is a stage of the log, is left out if nothing is
asked for in it, and hands its topology on to the next. None of this is seen in the
result. What a plan leads to is what a fold over its steps leads to: a step for every
disk, then one for every token in the order of the stages, one that makes the volume
groups, and one for every logical volume.

The steps here keep no log, and they say on their own what a failure records. A token
tells its failures of syntax and of look-up with itself, and all others as they arise. In
a plan the token is recorded by whoever works through the list of tokens, in a failure that
may have come from any depth; that it ends up with the token of the step that failed rests
on there being no record before.

## Main definitions

* `Outcome.result`: The state that a successful action ends in.
* `PlanStep`, `PlanStep.run`: A step of a plan, and the topology after it.
* `Requests.steps`: The steps that are asked for, in order.
* `PlanStep.Records`: What the failure of a step records.

## Theorems

* `registerDisks_result`, `applyTokens_result`, `stages_result`: Stages as folds.
* `PlanStep.records_of_error`: The failure of a step records the token of that step.
* `configure_result`, `failedStep_of_configure`: A plan leads to what its steps lead to, and
  fails at one of them.
* `message?_of_configure_eq_error`: Something is told about the failure of a plan.
* `configure_eq_foldlM`: A plan is the fold over its steps.
-/

namespace DiskPlan

namespace Outcome

variable {σ : Type}

/-- The state that an action ends in, if it succeeds. -/
def result (o : Outcome σ Unit) : Except Failure σ :=
  o.answer.map fun _ => o.state

@[simp]
theorem result_bracket (stage : Stage) (o : Outcome σ Unit) :
    (o.bracket stage).result = o.result := rfl

@[simp]
theorem result_logging (events : List Event) (o : Outcome σ Unit) :
    (o.logging events).result = o.result := rfl

/-- An action that is carried out within an origin ends in the same state. Only its failure is
    told with the origin. -/
theorem result_within (origin : Origin) (o : Outcome σ Unit) :
    (o.within origin).result = o.result.mapError (Failure.within origin) := by
  unfold result within
  cases o.answer <;> rfl

/-- Two actions in a row lead where the second leads from the end of the first. -/
theorem result_andThen {α : Type} (o : Outcome σ α) (next : σ → α → Outcome σ Unit) :
    (o.andThen next).result = o.answer >>= fun a => (next o.state a).result := by
  unfold result andThen
  cases o.answer <;> rfl

/-- Of an action without an answer of its own only the state is handed on. -/
theorem result_andThen_unit (o : Outcome σ Unit) (next : σ → Unit → Outcome σ Unit) :
    (o.andThen next).result = o.result >>= fun s => (next s ()).result := by
  rw [result_andThen]
  unfold result
  cases o.answer <;> rfl

end Outcome

/-- A failure as it is raised for a token: one of syntax or of look-up is told with the
    token, and any other as it is. -/
def Failure.raisedFor (o : Origin) : Failure → Failure
  | problem ⟨.badSyntax p, _⟩ => problem ⟨.badSyntax p, some o⟩
  | problem ⟨.lookup p, _⟩ => problem ⟨.lookup p, some o⟩
  | f => f

/-- The disk that a probe finds under a name, which has to be there. -/
def Probe.require (probe : Probe) (name : String) : Except Failure Disk :=
  match (probe.lookup name).answer with
  | .error f => .error f
  | .ok none => .error (.problem ⟨.lookup (.diskNotFound name), none⟩)
  | .ok (some d) => .ok d

/-- A step of a plan: a disk is registered, a token is applied, or the volume groups are
    made. -/
inductive PlanStep where
  | register (name : String)
  | apply (kind : Kind) (token : String)
  | initializeGroups
  deriving DecidableEq, Repr

namespace PlanStep

/-- The topology after a step. -/
def run (probe : Probe) (t : Topology) : PlanStep → Except Failure Topology
  | register name => (probe.require name).map fun d => { t with disks := t.disks ++ [d] }
  | apply kind token =>
    ((Operation.read kind token).operation >>= fun op => (op.run t).result).mapError
      (Failure.raisedFor ⟨kind.name, token⟩)
  | initializeGroups => t.initializeGroups.result

/-- What the failure of a step records. A failure of a token records that token if it is
    one of syntax or of look-up. No other failure records a token, as far as it is not the
    probe that fails. -/
def Records (probe : Probe) (f : Failure) : PlanStep → Prop
  | register name =>
    (probe.lookup name).answer = .error f ∨
      (probe.lookup name).answer = .ok none ∧
        f = .problem ⟨.lookup (.diskNotFound name), none⟩
  | apply kind token => f.origin? = if f.isAboutToken then some ⟨kind.name, token⟩ else none
  | initializeGroups => f.origin? = none

end PlanStep

/-- The steps that are asked for: the disks, the tokens of each kind that is about disks,
    the volume groups, and the logical volumes. -/
def Requests.steps (r : Requests) : List PlanStep :=
  r.disks.map .register ++
    (r.tables.map (.apply .relabel) ++ r.deletes.map (.apply .delete) ++
      r.moves.map (.apply .move) ++ r.reuses.map (.apply .reuse) ++
      r.creates.map (.apply .create)) ++
    .initializeGroups :: r.logicals.map (.apply .logical)

/-! ### Single steps -/

/-- Before anything is recorded, what is recorded is what is raised. The program records a token
    when the failure has come all the way up and looks whether there is a record by then; the
    steps record it at once. -/
theorem Failure.within_eq_raisedFor {f : Failure} (h : f.IsBare) (o : Origin) :
    f.within o = f.raisedFor o := by
  cases f with
  | problem report =>
      rcases report with ⟨p, origin⟩
      obtain rfl : origin = none := h.origin
      cases p <;> rfl
  | _ => rfl

/-- A failure that is raised for a token records it if the failure is about a token. The other
    kinds of problems are told without one. -/
theorem Failure.origin?_raisedFor {f : Failure} (h : f.IsBare) (o : Origin) :
    (f.raisedFor o).origin? = if (f.raisedFor o).isAboutToken then some o else none := by
  cases f with
  | problem report =>
      rcases report with ⟨p, origin⟩
      obtain rfl : origin = none := h.origin
      cases p <;> rfl
  | _ => rfl

theorem Failure.message?_raisedFor (f : Failure) (o : Origin) :
    (f.raisedFor o).message?.isSome = f.message?.isSome := by
  cases f with
  | problem report =>
      rcases report with ⟨p, origin⟩
      cases p <;> rfl
  | _ => rfl

/-- The state that a token is carried out to does not depend on what is logged about it, neither
    the flags that are ignored nor the operation. -/
theorem Reading.result_run (kind : Kind) (reading : Reading) (t : Topology) :
    (reading.run kind t).result = reading.operation >>= fun op => (op.run t).result := by
  unfold run
  rw [Outcome.result_logging, Outcome.result_andThen]
  rfl

/-- Nothing is recorded while a token is read and carried out. -/
theorem Reading.failsWith_result (kind : Kind) (token : String) (t : Topology) :
    FailsWith Failure.IsBare
      ((Operation.read kind token).operation >>= fun op => (op.run t).result) := by
  rw [← Reading.result_run kind]
  exact (Reading.failsWith_run kind token t).map _

/-- A token that is applied is a step of its own. This is where the record of a failure by
    whoever works through the tokens and the record by the step itself meet. -/
theorem applyToken_result (probe : Probe) (kind : Kind) (token : String) (t : Topology) :
    (applyToken kind token t).result = (PlanStep.apply kind token).run probe t := by
  unfold applyToken
  rw [Outcome.result_within, Reading.result_run]
  exact mapError_congr (Reading.failsWith_result kind token t) fun f hf =>
    Failure.within_eq_raisedFor hf _

/-- Volume groups that are made record nothing. -/
theorem Topology.failsWith_addGroups (gs : List VolumeGroup) (t : Topology) :
    FailsWith Failure.IsBare (addGroups gs t).answer := by
  induction gs generalizing t with
  | nil => exact failsWith_ok ()
  | cons g rest ih =>
      unfold addGroups
      -- Making a group can only fail when a number is spelled out, which is not about any token.
      dsimp only
      split
      · exact ih _
      · exact failsWith_error Failure.isBare_numeral

/-- The failure of a step records the token of exactly that step, or none. -/
theorem PlanStep.records_of_error {probe : Probe} {t : Topology} {s : PlanStep} {f : Failure}
    (h : s.run probe t = .error f) : s.Records probe f := by
  cases s with
  | register name =>
      simp only [run, Probe.require] at h
      cases hlookup : (probe.lookup name).answer with
      | error f' =>
          rw [hlookup] at h
          obtain rfl := Except.error.inj h
          exact Or.inl hlookup
      | ok found =>
          rw [hlookup] at h
          -- A look-up that goes well still has to find something.
          cases found with
          | none => exact Or.inr ⟨hlookup, (Except.error.inj h).symm⟩
          | some d => exact absurd h (by simp only [Except.map, reduceCtorEq, not_false_eq_true])
  | apply kind token =>
      have hfails : FailsWith (fun f => f.origin? = if f.isAboutToken then some ⟨kind.name, token⟩
          else none) ((PlanStep.apply kind token).run probe t) :=
        failsWith_mapError ((Reading.failsWith_result kind token t).mono fun f hf =>
          Failure.origin?_raisedFor hf _)
      exact hfails f h
  | initializeGroups => exact ((Topology.failsWith_addGroups _ t).map _ f h).origin

/-- Something is told about the failure of a step, as far as it is not the probe that fails. -/
theorem PlanStep.message?_of_error {probe : Probe} {t : Topology} {s : PlanStep} {f : Failure}
    (h : s.run probe t = .error f) :
    f.message?.isSome = true ∨
      ∃ name, s = .register name ∧ (probe.lookup name).answer = .error f := by
  cases s with
  | register name =>
      rcases PlanStep.records_of_error h with hfails | ⟨_, rfl⟩
      · exact Or.inr ⟨name, rfl, hfails⟩
      · exact Or.inl rfl
  | apply kind token =>
      have hfails : FailsWith (fun f => f.message?.isSome = true)
          ((PlanStep.apply kind token).run probe t) :=
        failsWith_mapError ((Reading.failsWith_result kind token t).mono fun f hf =>
          (Failure.message?_raisedFor f _).trans hf.message)
      exact Or.inl (hfails f h)
  | initializeGroups => exact Or.inl ((Topology.failsWith_addGroups _ t).map _ f h).message

/-! ### Stages -/

/-- Disks are registered by one step for each name, whatever is found before them. -/
theorem registerDisks_result (probe : Probe) (names : List String) (t : Topology) :
    (registerDisks probe names t).result =
      (names.map .register).foldlM (PlanStep.run probe) t := by
  induction names generalizing t with
  | nil => rfl
  | cons name rest ih =>
      rw [registerDisks, Outcome.result_andThen, List.map_cons, List.foldlM_cons]
      -- The look-up and its answer are both taken apart by the step, in one function that has no
      -- log.
      change (probe.lookup name).answer >>= _ = ((probe.require name).map _) >>= _
      unfold Probe.require
      cases (probe.lookup name).answer with
      | error f => rfl
      | ok found =>
          cases found with
          | none => rfl
          | some d => exact ih { t with disks := t.disks ++ [d] }

/-- The tokens of one kind are applied by one step each. -/
theorem applyTokens_result (probe : Probe) (kind : Kind) (tokens : List String) (t : Topology) :
    (applyTokens kind tokens t).result =
      (tokens.map (.apply kind)).foldlM (PlanStep.run probe) t := by
  induction tokens generalizing t with
  | nil => rfl
  | cons token rest ih =>
      rw [applyTokens, Outcome.result_andThen_unit, applyToken_result probe, List.map_cons,
        List.foldlM_cons]
      exact congrArg _ (funext ih)

/-- A stage that is left out is a fold over no tokens. -/
theorem stage_result (probe : Probe) (r : Requests) (kind : Kind) (t : Topology) :
    (r.stage kind t).result =
      ((r.tokens kind).map (.apply kind)).foldlM (PlanStep.run probe) t := by
  unfold Requests.stage
  split
  · -- Without tokens the stage is not entered at all, so there is nothing to take the brackets
    -- off.
    rename_i hempty
    rw [List.isEmpty_iff.mp hempty]
    rfl
  · rw [Outcome.result_bracket, applyTokens_result probe]

/-- Stages in a row are the steps of their tokens in a row. The induction is on the kinds, and
    the topology that the first stage ends in is what the others start from. -/
theorem stages_result (probe : Probe) (r : Requests) (kinds : List Kind) (t : Topology) :
    (r.stages kinds t).result =
      (kinds.flatMap fun kind => (r.tokens kind).map (.apply kind)).foldlM (PlanStep.run probe)
        t := by
  induction kinds generalizing t with
  | nil => rfl
  | cons kind rest ih =>
      rw [Requests.stages, Outcome.result_andThen_unit, stage_result probe, List.flatMap_cons,
        List.foldlM_append]
      exact congrArg _ (funext ih)

/-! ### Plans -/

/-- A plan leads to what its steps lead to. The parts of a plan are taken off one by one,
    each as a fold over its own part of the steps. -/
theorem configure_result (probe : Probe) (r : Requests) :
    (configure probe r).result = r.steps.foldlM (PlanStep.run probe) .empty := by
  have hkinds : (diskKinds.flatMap fun kind => (r.tokens kind).map (PlanStep.apply kind)) =
      r.tables.map (.apply .relabel) ++ r.deletes.map (.apply .delete) ++
        r.moves.map (.apply .move) ++ r.reuses.map (.apply .reuse) ++
        r.creates.map (.apply .create) := by
    simp only [diskKinds, List.flatMap_cons, List.flatMap_nil, List.append_nil,
      List.append_assoc, Requests.tokens]
  unfold configure Requests.steps
  rw [← hkinds, List.append_assoc, List.foldlM_append, Outcome.result_andThen_unit,
    Outcome.result_bracket, registerDisks_result]
  -- The topology is now any one that registering the disks can end in.
  refine bind_congr fun t => ?_
  rw [List.foldlM_append, Outcome.result_andThen_unit, stages_result probe]
  refine bind_congr fun t => ?_
  rw [List.foldlM_cons, Outcome.result_andThen_unit]
  refine bind_congr fun t => ?_
  -- What closes the log of a plan leaves the topology alone.
  rw [Outcome.result_andThen_unit, stage_result probe]
  exact bind_pure _

/-- A plan that fails does so at one of its steps, and those before it are carried out. -/
theorem failedStep_of_configure {probe : Probe} {r : Requests} {f : Failure}
    (h : (configure probe r).answer = .error f) :
    ∃ before s after t, r.steps = before ++ s :: after ∧
      before.foldlM (PlanStep.run probe) .empty = .ok t ∧ s.run probe t = .error f := by
  -- A fold that fails does so at one of its elements, so it is enough that the plan is a fold.
  refine foldlM_eq_error_iff.mp ?_
  rw [← configure_result, Outcome.result, h]
  rfl

/-- Something is told about the failure of a plan, unless it is the probe that fails for one of
    the disks. -/
theorem message?_of_configure_eq_error {probe : Probe} {r : Requests} {f : Failure}
    (h : (configure probe r).answer = .error f) :
    f.message?.isSome = true ∨ ∃ name ∈ r.disks, (probe.lookup name).answer = .error f := by
  rcases failedStep_of_configure h with ⟨before, s, after, t, hsplit, _, hs⟩
  rcases PlanStep.message?_of_error hs with htold | ⟨name, rfl, hlookup⟩
  · exact Or.inl htold
  · refine Or.inr ⟨name, ?_, hlookup⟩
    -- Only the steps that register something come from the names of disks.
    have hmem : PlanStep.register name ∈ r.steps := by
      rw [hsplit]
      exact List.mem_append_right _ List.mem_cons_self
    simpa [Requests.steps] using hmem

/-- A plan leads to what a fold over its steps leads to, and fails as the first of them that
    fails. Its failure then records the token of that step if it is one of syntax or of
    look-up that a token has, and otherwise none. -/
theorem configure_eq_foldlM (probe : Probe) (r : Requests) :
    (configure probe r).result = r.steps.foldlM (PlanStep.run probe) .empty ∧
      ∀ f, (configure probe r).answer = .error f →
        ∃ before s after t, r.steps = before ++ s :: after ∧
          before.foldlM (PlanStep.run probe) .empty = .ok t ∧
          s.run probe t = .error f ∧ s.Records probe f := by
  refine ⟨configure_result probe r, fun f hfails => ?_⟩
  rcases failedStep_of_configure hfails with ⟨before, s, after, t, hsplit, hbefore, hs⟩
  exact ⟨before, s, after, t, hsplit, hbefore, hs, PlanStep.records_of_error hs⟩

/-- The second of three deletions finds no partition, and is told with its token. -/
example :
    (configure (.static [.ofThree])
      ⟨["sda"], [], ["sda:1", "sda:2:9", "sda:3"], [], [], [], []⟩).answer =
      .error (.problem ⟨.lookup (.partitionNotFound "/dev/sda" 9),
        some ⟨"delete", "sda:2:9"⟩⟩) := by
  decide +kernel

end DiskPlan
