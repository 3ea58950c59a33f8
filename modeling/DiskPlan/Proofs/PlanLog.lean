import DiskPlan.Proofs.PlanSteps
import DiskPlan.Proofs.StageEvents
import DiskPlan.Proofs.Session
import DiskPlan.SystemProbe

/-!
# The Log of a Plan

The stages of a plan as its log tells them.

A plan has a stage for the disks, one for every kind of token that is given, and one for
the volume groups. The log brackets them: a stage is begun, tells what is done in it, and is
ended before the next one is begun. A plan that succeeds has gone through all of them and
closes its log with one more event. A plan that fails ends its log with the stage that
failed.

Within a stage no other stage is told of, so far as the plan can see to it. Disks come from
a probe, and nothing keeps a probe from having stages of its own. What it logs is therefore
left to it in the first of the stages; a probe that is quiet, as those of this library are,
leaves no stage events but those of the plan.

## Main definitions

* `Requests.plannedStages`: The stages of a plan.
* `Requests.LogsWithin`: What may be logged within a stage of a plan.
* `Probe.IsQuiet`: A probe that tells of no stages.

## Theorems

* `static_isQuiet`, `probe_isQuiet`: The probes of this library are quiet.
* `stages_staged`: Stages of tokens, one after the other.
* `configure_isStaged`: The log of a plan goes through its stages.
-/

namespace DiskPlan

open Outcome

/-- The stages of the kinds of tokens that are given. A kind without tokens has no stage, so it
    leaves nothing in the log. -/
def Requests.stagesOf (r : Requests) (kinds : List Kind) : List Stage :=
  (kinds.filter fun kind => !(r.tokens kind).isEmpty).map r.operations

/-- The stages of a plan in their order. Registering disks and making groups are stages even if
    there is nothing to register or to make. -/
def Requests.plannedStages (r : Requests) : List Stage :=
  r.registration ::
    (r.stagesOf [.relabel, .delete, .move, .reuse, .create] ++ groupStage :: r.stagesOf [.logical])

/-- What may be logged within a stage of a plan: anything but an event of a stage, unless the
    probe logs it while disks are registered. A probe is not bound to anything, so its events can
    only be told to stand where disks are looked up. -/
def Requests.LogsWithin (r : Requests) (probe : Probe) (stage : Stage) (e : Event) : Prop :=
  e.isOfStage = true → stage = r.registration ∧ ∃ name ∈ r.disks, e ∈ (probe.lookup name).log

/-- A probe that tells of no stages while it looks up disks. -/
def Probe.IsQuiet (probe : Probe) (names : List String) : Prop :=
  ∀ name ∈ names, (probe.lookup name).Quiet

/-! ### Probes -/

/-- A layout in memory logs at most one event for each name, and no stage. -/
theorem Probe.static_isQuiet (disks : List Disk) (names : List String) :
    (Probe.static disks).IsQuiet names := by
  intro name _
  unfold Probe.static
  dsimp only
  split
  · exact quiet_of_log_eq_nil rfl
  · exact quiet_of_log_eq_singleton rfl rfl

/-- The tool that lists disks is run between its own events, none of which is of a stage. -/
theorem SystemProbe.probe_isQuiet (execute : Invocation → Execution) (s : ProbeSettings)
    (names : List String) : (probe execute s).IsQuiet names := by
  intro name _
  refine Quiet.andThen ?_ fun _ result => ?_
  · -- Of the tool, its invocation is logged, and its failure if it has one.
    refine (quiet_of_log_eq_nil rfl).logging (List.forall_mem_cons.mpr ⟨rfl, ?_⟩)
    unfold failureEvents
    split
    · split
      · exact fun _ he => absurd he List.not_mem_nil
      · exact List.forall_mem_singleton.mpr rfl
    · exact fun _ he => absurd he List.not_mem_nil
  · split
    · exact quiet_of_log_eq_nil rfl
    · refine (quiet_of_log_eq_nil rfl).andThen fun _ found => (quiet_of_log_eq_nil rfl).logging ?_
      cases found with
      | none => exact fun _ he => absurd he List.not_mem_nil
      | some d => exact List.forall_mem_singleton.mpr rfl

section Plans

variable {probe : Probe} {r : Requests}

/-- A quiet probe leaves nothing of a stage within the stages of a plan, since the only events of
    stages that may stand there are the probe's. -/
theorem Requests.LogsWithin.isOfStage_eq_false (hprobe : probe.IsQuiet r.disks) {stage : Stage}
    {e : Event} (h : r.LogsWithin probe stage e) : e.isOfStage = false := by
  cases he : e.isOfStage with
  | false => rfl
  | true =>
      rcases (h he).2 with ⟨name, hname, hlog⟩
      exact absurd ((hprobe name hname e hlog).symm.trans he) Bool.false_ne_true

/-! ### Stages -/

/-- While disks are registered only the probe can tell of stages. -/
theorem registerDisks_log (probe : Probe) (names : List String) (t : Topology) :
    ∀ e ∈ (registerDisks probe names t).log, e.isOfStage = true →
      ∃ name ∈ names, e ∈ (probe.lookup name).log := by
  -- Over the names, for whatever is registered before them.
  induction names generalizing t with
  | nil => exact fun _ he _ => absurd he List.not_mem_nil
  | cons name rest ih =>
      intro e he hstage
      rw [registerDisks] at he
      rcases mem_log_andThen he with he | ⟨found, he⟩
      · exact ⟨name, List.mem_cons_self, he⟩
      · cases found with
        | none => exact absurd he List.not_mem_nil
        | some d =>
            rcases mem_log_andThen he with he | ⟨_, he⟩
            · rw [List.mem_singleton.mp he] at hstage
              exact absurd hstage Bool.false_ne_true
            · rcases ih _ e he hstage with ⟨name', hname', hlog⟩
              exact ⟨name', List.mem_cons_of_mem _ hname', hlog⟩

theorem stage_staged (kind : Kind) (t : Topology) :
    Staged (r.LogsWithin probe) (r.stagesOf [kind]) (r.stage kind t).log
      (r.stage kind t).failure? := by
  unfold Requests.stage Requests.stagesOf
  -- Without tokens the stage is left out of the log and of the list of stages alike.
  cases hempty : (r.tokens kind).isEmpty with
  | true =>
      rw [if_pos rfl, List.filter_cons_of_neg (by rw [hempty]; decide)]
      exact .nil
  | false =>
      rw [if_neg Bool.false_ne_true, List.filter_cons_of_pos (by rw [hempty]; rfl)]
      refine staged_bracket (r.operations kind) fun e he => ?_
      have hquiet := applyTokens_quiet kind (r.tokens kind) t e he
      exact fun hstage => absurd (hquiet.symm.trans hstage) Bool.false_ne_true

/-- Stages follow one another as long as none fails, so their logs are cut at the first failure
    together. -/
theorem stages_staged (kinds : List Kind) (t : Topology) :
    Staged (r.LogsWithin probe) (r.stagesOf kinds) (r.stages kinds t).log
      (r.stages kinds t).failure? := by
  induction kinds generalizing t with
  | nil => exact .nil
  | cons kind rest ih =>
      have hfirst : Staged (r.LogsWithin probe) (r.stagesOf [kind]) (r.stage kind t).log
          (r.stage kind t).failure? := stage_staged kind t
      have hboth := staged_andThen hfirst fun t _ => ih t
      have hsplit : r.stagesOf (kind :: rest) = r.stagesOf [kind] ++ r.stagesOf rest := by
        unfold Requests.stagesOf
        rw [← List.map_append, ← List.filter_append]
        rfl
      rw [hsplit]
      exact hboth

/-! ### Plans -/

/-- A plan without the event that closes its log. -/
def carryOut (probe : Probe) (r : Requests) : Outcome Topology Unit :=
  ((registerDisks probe r.disks .empty).bracket r.registration).andThen fun t _ =>
    (r.stages diskKinds t).andThen fun t _ =>
      (t.initializeGroups.bracket groupStage).andThen fun t _ => r.stage .logical t

theorem configure_eq_carryOut (probe : Probe) (r : Requests) :
    configure probe r = (carryOut probe r).andThen fun t _ =>
      (Outcome.done t ()).logging [configured t] := by
  unfold configure carryOut
  simp only [andThen_assoc]

/-- A plan is closed in the log if nothing has failed before. -/
theorem configure_cases (probe : Probe) (r : Requests) :
    (∃ f, (configure probe r).answer = .error f ∧ (carryOut probe r).failure? = some f ∧
      (configure probe r).log = (carryOut probe r).log) ∨
    ((configure probe r).answer = .ok () ∧ (carryOut probe r).failure? = none ∧
      (configure probe r).log =
        (carryOut probe r).log ++ [configured (configure probe r).state]) := by
  rw [configure_eq_carryOut]
  -- The closing event is logged after all other work, by what has not failed.
  unfold andThen failure?
  cases (carryOut probe r).answer with
  | error f => exact Or.inl ⟨f, rfl, rfl, rfl⟩
  | ok _ => exact Or.inr ⟨rfl, rfl, rfl⟩

theorem carryOut_staged (probe : Probe) (r : Requests) :
    Staged (r.LogsWithin probe) r.plannedStages (carryOut probe r).log
      (carryOut probe r).failure? := by
  -- Everything but the probe is quiet, so each stage is a bracket around quiet work.
  have hregistered : Staged (r.LogsWithin probe) [r.registration]
      ((registerDisks probe r.disks .empty).bracket r.registration).log
      ((registerDisks probe r.disks .empty).bracket r.registration).failure? :=
    staged_bracket _ fun e he hstage => ⟨rfl, registerDisks_log probe r.disks .empty e he hstage⟩
  have hgroups : ∀ t : Topology, Staged (r.LogsWithin probe) [groupStage]
      (t.initializeGroups.bracket groupStage).log
      (t.initializeGroups.bracket groupStage).failure? := fun t =>
    staged_bracket _ fun e he hstage =>
      absurd ((t.initializeGroups_quiet e he).symm.trans hstage) Bool.false_ne_true
  refine staged_andThen hregistered fun t _ => ?_
  refine staged_andThen (stages_staged diskKinds t) fun t _ => ?_
  exact staged_andThen (hgroups t) fun t _ => stage_staged .logical t

/-- Nothing is hidden of the stages of a plan. -/
theorem isTold_of_mem_plannedStages {stage : Stage} (h : stage ∈ r.plannedStages) :
    stage.IsTold := by
  -- The context of a stage is about disks or tokens, and neither name is a secret.
  have hnames : ∀ name ∈ ["disks", "tokens"], name ∉ secretNames ∧ name ∉ ownNames := by decide
  have htokens : ∀ kinds, stage ∈ r.stagesOf kinds → stage.IsTold := by
    intro kinds hmem
    rcases List.mem_map.mp hmem with ⟨kind, _, rfl⟩
    exact Stage.isTold_of_context (List.forall_mem_singleton.mpr (hnames "tokens" (by decide)))
  rcases List.mem_cons.mp h with rfl | h
  · exact Stage.isTold_of_context (List.forall_mem_singleton.mpr (hnames "disks" (by decide)))
  · rcases List.mem_append.mp h with h | h
    · exact htokens _ h
    · rcases List.mem_cons.mp h with rfl | h
      · exact Stage.isTold_of_context fun _ hc => absurd hc List.not_mem_nil
      · exact htokens _ h

end Plans

/-- The log of a plan goes through the stages of the plan, and hides nothing of them. If the
    plan fails, the log ends with the failure of the stage that failed, and if it succeeds,
    with the event that closes a plan. Something is told about the failure, unless it is the
    probe that fails without words. Among the events of a plan with a quiet probe, those of
    stages are the start and the end of each stage in turn. -/
theorem configure_isStaged (probe : Probe) (r : Requests) :
    (∀ stage ∈ r.plannedStages, stage.IsTold) ∧
    (∀ f, (configure probe r).answer = .error f →
      Staged (r.LogsWithin probe) r.plannedStages (configure probe r).log (some f) ∧
      (f.message?.isSome = true ∨ ∃ name ∈ r.disks, (probe.lookup name).answer = .error f) ∧
      ∃ done stage rest, r.plannedStages = done ++ stage :: rest ∧
        (configure probe r).log.getLast? = some (.stageFailed stage f) ∧
        (probe.IsQuiet r.disks → (configure probe r).log.filter Event.isOfStage =
          done.flatMap Stage.completedEvents ++ stage.failedEvents f)) ∧
    ((configure probe r).answer = .ok () →
      ∃ log, (configure probe r).log = log ++ [configured (configure probe r).state] ∧
        Staged (r.LogsWithin probe) r.plannedStages log none ∧
        (probe.IsQuiet r.disks → (configure probe r).log.filter Event.isOfStage =
          r.plannedStages.flatMap Stage.completedEvents)) := by
  have hstaged := carryOut_staged probe r
  have hquiet : probe.IsQuiet r.disks →
      ∀ stage e, r.LogsWithin probe stage e → e.isOfStage = false :=
    fun hprobe _ _ hlogs => hlogs.isOfStage_eq_false hprobe
  refine ⟨fun stage hstage => isTold_of_mem_plannedStages hstage, ?_⟩
  -- The plan fails in one of its stages, or the event that closes it is the last.
  rcases configure_cases probe r with ⟨f, hanswer, hfailure, hlog⟩ | ⟨hanswer, hfailure, hlog⟩
  · rw [hfailure, ← hlog] at hstaged
    refine ⟨fun f' hf' => ?_, fun hok => ?_⟩
    · obtain rfl : f = f' := Except.error.inj (hanswer.symm.trans hf')
      rcases hstaged.stageEvents_of_some with ⟨done, stage, rest, hsplit, hlast, hfilter⟩
      exact ⟨hstaged, message?_of_configure_eq_error hanswer, done, stage, rest, hsplit, hlast,
        fun hprobe => hfilter (hquiet hprobe)⟩
    · exact absurd (hanswer.symm.trans hok) (by simp only [reduceCtorEq, not_false_eq_true])
  · rw [hfailure] at hstaged
    refine ⟨fun f' hf' => ?_, fun _ => ⟨_, hlog, hstaged, fun hprobe => ?_⟩⟩
    · exact absurd (hanswer.symm.trans hf') (by simp only [reduceCtorEq, not_false_eq_true])
    · -- The closing event is no event of a stage.
      rw [hlog, List.filter_append, hstaged.stageEvents_of_none (hquiet hprobe)]
      exact List.append_nil _

/-- The second of two new partitions overlaps another one, and the volume group is not
    reached. -/
example :
    ((configure (.static [.ofThree])
      ⟨["sda"], [], ["sda:1"], [], [],
        ["sda:primary:5000:5999:ext4", "sda:primary:6500:7000:ext4"],
        ["vg:root:end:ext4"]⟩).log.filter Event.isOfStage).map
      (fun e => (e.record.event, (e.record.fields.lookup "stage").map Json.compact)) =
    [("stage started", some "\"register\""), ("stage completed", some "\"register\""),
      ("stage started", some "\"delete\""), ("stage completed", some "\"delete\""),
      ("stage started", some "\"create\""), ("stage failed", some "\"create\"")] := by
  decide +kernel

end DiskPlan
