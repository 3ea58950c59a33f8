import DiskPlan.Install
import DiskPlan.Proofs.StageEvents

/-!
# The Course of an Installation

Which steps an installation begins, how it ends, and what it tells on the way.

Somebody may cancel before an installation, or on any status that is told, and any step may
fail. What the installation makes of this is decided at two places only: before a step,
where a cancellation is seen, and in a step, which fails or tells its statuses. `Course`
has one case for each way on from there. It says nothing of logs or states, so the order of
steps, cancellations and failures is settled by inductions on it alone, whatever the
statuses are on which somebody cancels.

What an installation leaves behind is then read off from the steps that it began. A step
that fails has told its first status only, and a cancellation that is requested while a step
runs is seen by nobody if no step is left.

## Main definitions

* `Installation.order`: The steps that an installation is made of.
* `Installation.statusesOf`, `Installation.stageEvents`: What is told of a step.
* `Installation.Course`: The steps that are begun, those that are not, and the end.
* `Installation.Leaves`: What steps leave behind.
* `Installation.IsOrderly`: An installation that keeps to its order.

## Theorems

* `upTo_all`: A test run is made of the first two steps.
* `stagedWork_outcome`: A step that is begun.
* `runSteps_course`: The steps of a list.
* `run_isOrderly`: Every installation keeps to its order.
-/

namespace DiskPlan

open Outcome

namespace Installation

/-- The steps of a list up to the first that the installation ends after. -/
def upTo (i : Installation) : List Step → List Step
  | [] => []
  | s :: rest => s :: if i.endsAfter s then [] else i.upTo rest

/-- The steps that an installation is made of. -/
def order (i : Installation) : List Step :=
  if i.testOnly then [.init, .partition] else Step.all

/-- The statuses that are told while a step does its work. -/
def statusesWithin (i : Installation) : Step → List Status
  | .partition =>
    let count := i.topology.events.length
    (List.range count).map fun index => .of .partition ((index + 1) * 100 / count : Nat)
  | _ => []

/-- The statuses that are told of a step that is begun. A step that fails does no work. -/
def statusesOf (i : Installation) (s : Step) : List Status :=
  .of s 0 :: if (i.fault s).isSome then [] else i.statusesWithin s ++ [.of s 100]

/-- The stage events of a step that is begun. -/
def stageEvents (i : Installation) (s : Step) : List Event :=
  match i.fault s with
  | none => (i.stage s).completedEvents
  | some problem => (i.stage s).failedEvents (.install problem)

/-- The answer of steps that end with a problem or without one. -/
def answerOf : Option StepProblem → Except Failure Unit
  | none => .ok ()
  | some problem => .error (.install problem)

/-- How an installation, cancelled or not, goes through steps: those that it begins, those that
    are left over, and the problem that it ends with. The flag of what follows a step is whether
    somebody cancels on a status of that step, since nothing else sets it on the way. -/
inductive Course (i : Installation) :
    Bool → List Step → List Step → Option StepProblem → Prop
  | finished (cancelled : Bool) : Course i cancelled [] [] none
  | cancelled (s : Step) (rest : List Step) : Course i true [] (s :: rest) (some (.cancelled s))
  | failed {s : Step} {rest : List Step} {problem : StepProblem} (h : i.fault s = some problem) :
      Course i false [s] rest (some problem)
  | worked {s : Step} {begun rest : List Step} {problem? : Option StepProblem}
      (h : i.fault s = none)
      (hrest : Course i ((i.statusesOf s).any i.cancels) begun rest problem?) :
      Course i false (s :: begun) rest problem?

/-- What steps leave behind: each of them is begun and tells its statuses and its stage, and the
    problem that they end with is told. Everything is said relative to the progress before them,
    so that what one step leaves is what the next begins with. -/
structure Leaves (i : Installation) (p : Progress) (begun : List Step)
    (problem? : Option StepProblem) (o : Outcome Progress Unit) : Prop where
  entered : o.state.entered = p.entered ++ begun
  statuses : o.state.statuses = p.statuses ++ begun.flatMap i.statusesOf
  cancelled : o.state.cancelled = (p.cancelled || (begun.flatMap i.statusesOf).any i.cancels)
  problems : o.state.problems = p.problems ++ problem?.toList
  answer : o.answer = answerOf problem?
  log : o.log.filter Event.isOfStage = begun.flatMap i.stageEvents

/-- An installation that keeps to its order, with the steps that it leaves over. -/
structure IsOrderly (i : Installation) (cancelled : Bool) (rest : List Step)
    (o : Outcome Progress Unit) : Prop where
  /-- The steps that are begun are the first ones. -/
  order : i.order = o.state.entered ++ rest
  statuses : o.state.statuses = o.state.entered.flatMap i.statusesOf
  cancelled_iff : o.state.cancelled = true ↔
    cancelled = true ∨ ∃ status ∈ o.state.statuses, i.cancels status = true
  /-- Nothing is begun after a cancellation. -/
  entered_of_cancelled : cancelled = true → o.state.entered = []
  last_of_cancels : ∀ status ∈ o.state.statuses, i.cancels status = true →
    o.state.entered.getLast? = some status.step
  /-- A step that fails is the last one and ends the installation. -/
  failed : ∀ s ∈ o.state.entered, ∀ problem, i.fault s = some problem →
    o.state.entered.getLast? = some s ∧ o.answer = .error (.install problem)
  /-- A cancellation ends the installation if there is a step that it keeps from being
      begun. -/
  stopped : (∀ s ∈ o.state.entered.getLast?, i.fault s = none) → o.state.cancelled = true →
    o.answer = match rest with
      | [] => .ok ()
      | s :: _ => .error (.install (.cancelled s))
  finished : (∀ s ∈ o.state.entered.getLast?, i.fault s = none) → o.state.cancelled = false →
    rest = [] ∧ o.answer = .ok ()
  /-- The problem of an installation that ends early is told once. -/
  problems : (o.answer = .ok () ∧ o.state.problems = []) ∨
    ∃ problem, o.answer = .error (.install problem) ∧ o.state.problems = [problem]
  log : o.log.filter Event.isOfStage = o.state.entered.flatMap i.stageEvents
  told : ∀ s ∈ o.state.entered, (i.stage s).IsTold

variable {i : Installation}

theorem upTo_all (i : Installation) : i.upTo Step.all = i.order := by
  unfold order
  cases htest : i.testOnly <;>
    simp only [Step.all, upTo, endsAfter, htest, Bool.true_and, Bool.false_and, if_true,
      Bool.false_eq_true, if_false]
  rfl

theorem step_of_mem_statusesOf {s : Step} {status : Status} (h : status ∈ i.statusesOf s) :
    status.step = s := by
  rcases List.mem_cons.mp h with rfl | h
  · rfl
  · split at h
    · exact absurd h List.not_mem_nil
    · rcases List.mem_append.mp h with h | h
      · cases s with
        | partition =>
            -- Only partitioning tells statuses while it works, one for each device.
            rcases List.mem_map.mp h with ⟨_, _, rfl⟩
            rfl
        | init | extract | configure | bootloader => exact absurd h List.not_mem_nil
      · rw [List.mem_singleton.mp h]
        rfl

/-! ### Courses -/

namespace Course

variable {cancelled : Bool} {begun rest : List Step} {problem? : Option StepProblem}

theorem begun_of_cancelled (h : i.Course true begun rest problem?) : begun = [] := by
  cases h with
  | finished => rfl
  | cancelled => rfl

/-- Once somebody cancels, the step of that status is the last one: the flag is set when the step
    is over, and it is looked at before every other. -/
theorem last_of_cancels (h : i.Course cancelled begun rest problem?) :
    ∀ status ∈ begun.flatMap i.statusesOf, i.cancels status = true →
      begun.getLast? = some status.step := by
  -- Along the course. Only a step that has worked can be followed by others.
  induction h with
  | finished => exact fun _ hmem => absurd hmem List.not_mem_nil
  | cancelled => exact fun _ hmem => absurd hmem List.not_mem_nil
  | failed h =>
      intro status hmem _
      rw [List.flatMap_singleton] at hmem
      rw [step_of_mem_statusesOf hmem]
      rfl
  | @worked s begun _ _ _ hrest ih =>
      intro status hmem hcancels
      rw [List.flatMap_cons, List.mem_append] at hmem
      rcases hmem with hmem | hmem
      · -- The status makes the rest a course that is cancelled, which begins nothing.
        have hany : (i.statusesOf s).any i.cancels = true :=
          List.any_eq_true.mpr ⟨status, hmem, hcancels⟩
        rw [hany] at hrest
        rw [hrest.begun_of_cancelled, step_of_mem_statusesOf hmem]
        rfl
      · rw [List.getLast?_cons, ih status hmem hcancels]
        rfl

theorem last_of_fault (h : i.Course cancelled begun rest problem?) :
    ∀ s ∈ begun, ∀ problem, i.fault s = some problem →
      begun.getLast? = some s ∧ problem? = some problem := by
  -- A step that has worked has no fault, so a fault is one of a step that comes later.
  induction h with
  | finished => exact fun _ hmem => absurd hmem List.not_mem_nil
  | cancelled => exact fun _ hmem => absurd hmem List.not_mem_nil
  | failed h =>
      intro s hmem problem hfault
      obtain rfl := List.mem_singleton.mp hmem
      exact ⟨rfl, h.symm.trans hfault⟩
  | worked h _ ih =>
      intro s hmem problem hfault
      rcases List.mem_cons.mp hmem with rfl | hmem
      · exact absurd (h.symm.trans hfault) (by simp only [reduceCtorEq, not_false_eq_true])
      · rcases ih s hmem problem hfault with ⟨hlast, hproblem⟩
        rw [List.getLast?_cons, hlast]
        exact ⟨rfl, hproblem⟩

/-- If the last step does not fail, it is up to the cancellation whether steps are left
    over, and with which problem the course ends then. -/
theorem end_of_last_fault (h : i.Course cancelled begun rest problem?)
    (hfault : ∀ s ∈ begun.getLast?, i.fault s = none) :
    problem? = rest.head?.map .cancelled ∧
      ((cancelled || (begun.flatMap i.statusesOf).any i.cancels) = false → rest = []) := by
  induction h with
  | finished => exact ⟨rfl, fun _ => rfl⟩
  | cancelled s rest => exact ⟨rfl, fun hnot => absurd hnot (by rw [Bool.true_or]; decide)⟩
  | @failed s _ _ h =>
      -- The step with the fault would be the last one, which is assumed to have none.
      have hnone := hfault s rfl
      exact absurd (h.symm.trans hnone) (by simp only [reduceCtorEq, not_false_eq_true])
  | worked _ _ ih =>
      have hrest := ih fun s hs => hfault s (by rw [List.getLast?_cons, hs]; rfl)
      rw [List.flatMap_cons, List.any_append, Bool.false_or]
      exact hrest

end Course

/-! ### Statuses -/

/-- How far an installation is once statuses are told. -/
def hear (i : Installation) (statuses : List Status) (p : Progress) : Progress :=
  { p with
    statuses := p.statuses ++ statuses
    cancelled := p.cancelled || statuses.any i.cancels }

theorem hear_nil (p : Progress) : i.hear [] p = p := by
  simp only [hear, List.append_nil, List.any_nil, Bool.or_false]

theorem hear_append (statuses statuses' : List Status) (p : Progress) :
    i.hear (statuses ++ statuses') p = i.hear statuses' (i.hear statuses p) := by
  simp only [hear, List.append_assoc, List.any_append, Bool.or_assoc]

/-- Told one at a time or all at once, statuses leave the same behind, which is what the
    induction over devices needs. -/
theorem hear_cons (status : Status) (statuses : List Status) (p : Progress) :
    i.hear (status :: statuses) p = i.hear statuses (i.hear [status] p) :=
  hear_append [status] statuses p

theorem report_eq (s : Step) (percent : Int) (p : Progress) :
    i.report s percent p = .done (i.hear [.of s percent] p) () := by
  simp only [report, hear, List.any_cons, List.any_nil, Bool.or_false]

/-- Each device is followed by a status. The percentage is of the devices that there are in all,
    so the index goes on counting while the list of devices gets shorter. -/
theorem describeDevices_eq (count index : Nat) (devices : List (List Event)) (p : Progress) :
    i.describeDevices count index devices p =
      ⟨i.hear ((List.range' index devices.length).map fun index =>
        .of .partition ((index + 1) * 100 / count : Nat)) p, devices.flatten, .ok ()⟩ := by
  -- Over the devices that are left, for every index and for what was told before them.
  induction devices generalizing index p with
  | nil => exact congrArg (fun p => (⟨p, [], .ok ()⟩ : Outcome Progress Unit)) (hear_nil p).symm
  | cons events rest ih =>
      rw [List.length_cons, List.range'_succ, List.map_cons, hear_cons, describeDevices, report_eq]
      unfold andThen logging done
      dsimp only
      rw [ih, List.append_nil, List.flatten_cons]

end Installation

/-! ### Devices -/

theorem Partition.event?_isOfStage {p : Partition} :
    ∀ e ∈ p.event?, e.isOfStage = false := by
  intro e he
  unfold event? at he
  split at he
  · rw [← Option.some.inj he]
    rfl
  · rcases Option.map_eq_some_iff.mp he with ⟨_, _, rfl⟩
    rfl

theorem Disk.events_isOfStage (d : Disk) : ∀ e ∈ d.events, e.isOfStage = false := by
  intro e he
  rcases List.mem_append.mp he with he | he
  · have htable := Option.mem_toList.mp he
    unfold tableEvent? at htable
    split at htable
    · rcases Option.map_eq_some_iff.mp htable with ⟨_, _, rfl⟩
      rfl
    · exact absurd htable (Option.not_mem_none e)
  · rcases List.mem_filterMap.mp he with ⟨p, _, hp⟩
    exact p.event?_isOfStage e hp

/-- Partitioning tells of devices and of no stages. -/
theorem Topology.events_isOfStage (t : Topology) :
    ∀ events ∈ t.events, ∀ e ∈ events, e.isOfStage = false := by
  intro events hevents
  rcases List.mem_append.mp hevents with hdisk | hgroup
  · rcases List.mem_map.mp hdisk with ⟨d, _, rfl⟩
    exact d.events_isOfStage
  · rcases List.mem_map.mp hgroup with ⟨g, _, rfl⟩
    exact List.forall_mem_singleton.mpr rfl

namespace Installation

variable {i : Installation}

/-! ### Steps -/

/-- What a step would do is told quietly, along with the statuses of its work. -/
theorem describe_outcome (s : Step) (p : Progress) :
    (i.describe s p).state = i.hear (i.statusesWithin s) p ∧
      (i.describe s p).answer = .ok () ∧ (i.describe s p).Quiet := by
  -- Every step but partitioning tells one event, and no status.
  have hsilent : ∀ e : Event, e.isOfStage = false →
      ((Outcome.done p ()).logging [e]).state = i.hear [] p ∧
        ((Outcome.done p ()).logging [e]).answer = .ok () ∧
        ((Outcome.done p ()).logging [e]).Quiet :=
    fun e he => ⟨(hear_nil p).symm, rfl, quiet_of_log_eq_singleton rfl he⟩
  -- Devices are described between the statuses, and what is told of them is of no stage.
  cases s with
  | init => exact hsilent _ rfl
  | partition =>
      rw [describe, describeDevices_eq, ← List.range_eq_range']
      refine ⟨rfl, rfl, fun e he => ?_⟩
      rcases List.mem_flatten.mp he with ⟨events, hevents, he⟩
      exact i.topology.events_isOfStage events hevents e he
  | extract => exact hsilent _ rfl
  | configure => exact hsilent _ rfl
  | bootloader => exact hsilent _ rfl

/-- A step that fails does so before it has done anything. -/
theorem work_cases (s : Step) (p : Progress) :
    (i.work s p).Quiet ∧
      ((i.fault s = none ∧ (i.work s p).state = i.hear (i.statusesWithin s) (p.enter s) ∧
          (i.work s p).answer = .ok ()) ∨
        ∃ problem, i.fault s = some problem ∧ (i.work s p).state = p.enter s ∧
          (i.work s p).answer = .error (.install problem)) := by
  unfold work
  dsimp only
  cases hfault : i.fault s with
  | none =>
      rcases describe_outcome (i := i) s (p.enter s) with ⟨hstate, hanswer, hquiet⟩
      exact ⟨hquiet, Or.inl ⟨rfl, hstate, hanswer⟩⟩
  | some problem => exact ⟨quiet_of_log_eq_nil rfl, Or.inr ⟨problem, rfl, rfl, rfl⟩⟩

/-- A step that is begun is one stage of the log, and tells its statuses in it. -/
theorem stagedWork_outcome (s : Step) (p : Progress) :
    (i.stagedWork s p).state = i.hear (i.statusesOf s) (p.enter s) ∧
      (i.stagedWork s p).answer = answerOf (i.fault s) ∧
      (i.stagedWork s p).log.filter Event.isOfStage = i.stageEvents s := by
  -- The first status is told before the step is entered, but both orders leave the same progress,
  -- so all statuses can be collected behind the entering.
  have hstaged : i.stagedWork s p =
      ((i.work s (i.hear [.of s 0] p)).andThen fun p _ => i.report s 100 p).bracket
        (i.stage s) := by
    unfold stagedWork
    rw [report_eq]
    rfl
  rw [hstaged]
  rcases work_cases (i := i) s (i.hear [.of s 0] p) with ⟨hquiet, hcases⟩
  -- What is told within the stage is quiet, so the stage events are those of the bracket.
  have hboth : ((i.work s (i.hear [.of s 0] p)).andThen fun p _ => i.report s 100 p).Quiet :=
    hquiet.andThen fun _ _ => quiet_of_log_eq_nil rfl
  rw [hboth.filter_bracket, bracket_state, bracket_answer]
  unfold statusesOf stageEvents
  rcases hcases with ⟨hfault, hstate, hanswer⟩ | ⟨problem, hfault, hstate, hanswer⟩
  · rw [hfault, andThen_state_of_ok hanswer, hstate, report_eq]
    unfold andThen
    rw [hanswer]
    refine ⟨?_, rfl, rfl⟩
    rw [Option.isSome_none, if_neg Bool.false_ne_true]
    change i.hear [.of s 100] (i.hear (i.statusesWithin s) (i.hear [.of s 0] (p.enter s))) = _
    exact ((hear_cons _ _ _).trans (hear_append _ _ _)).symm
  · rw [hfault, andThen_state_of_error hanswer, hstate]
    unfold andThen
    rw [hanswer]
    exact ⟨rfl, rfl, rfl⟩

/-! ### Runs -/

namespace Leaves

variable {p : Progress} {begun begun' : List Step} {problem? : Option StepProblem}
  {o : Outcome Progress Unit} {next : Progress → Unit → Outcome Progress Unit}

/-- Steps that end without a problem may be followed by others. What is left behind adds up,
    field by field. -/
theorem andThen (ho : i.Leaves p begun none o)
    (hnext : i.Leaves o.state begun' problem? (next o.state ())) :
    i.Leaves p (begun ++ begun') problem? (o.andThen next) := by
  have hboth : o.andThen next =
      ⟨(next o.state ()).state, o.log ++ (next o.state ()).log, (next o.state ()).answer⟩ := by
    unfold Outcome.andThen
    rw [ho.answer]
    rfl
  rw [hboth]
  refine ⟨?_, ?_, ?_, ?_, hnext.answer, ?_⟩
  · rw [hnext.entered, ho.entered, List.append_assoc]
  · rw [hnext.statuses, ho.statuses, List.flatMap_append, List.append_assoc]
  · rw [hnext.cancelled, ho.cancelled, List.flatMap_append, List.any_append, Bool.or_assoc]
  · rw [hnext.problems, ho.problems, Option.toList_none, List.append_nil]
  · rw [List.filter_append, ho.log, hnext.log, List.flatMap_append]

/-- Nothing follows steps that end with a problem, so what would have been done next does not
    matter. -/
theorem andThen_of_some {problem : StepProblem} (ho : i.Leaves p begun (some problem) o) :
    i.Leaves p begun (some problem) (o.andThen next) := by
  have hfirst : o.andThen next = o := by
    unfold Outcome.andThen
    rw [ho.answer]
    exact congrArg (Outcome.mk o.state o.log) ho.answer.symm
  rw [hfirst]
  exact ho

/-- What tells of no stage and succeeds may be done between steps. -/
theorem of_quiet (hstate : o.state = p) (hlog : ∀ e ∈ o.log, e.isOfStage = false)
    (hanswer : o.answer = .ok ()) : i.Leaves p [] none o := by
  subst hstate
  refine ⟨?_, ?_, ?_, ?_, hanswer, Event.filter_isOfStage hlog⟩
  · exact (List.append_nil _).symm
  · exact (List.append_nil _).symm
  · exact (Bool.or_false _).symm
  · exact (List.append_nil _).symm

end Leaves

/-- A cancelled installation ends before the step that would be the next one. -/
theorem step_of_cancelled {p : Progress} (h : p.cancelled = true) (s : Step) :
    i.Leaves p [] (some (.cancelled s)) (i.step s p) := by
  unfold step
  rw [if_pos h]
  refine ⟨?_, ?_, ?_, rfl, rfl, rfl⟩
  · exact (List.append_nil _).symm
  · exact (List.append_nil _).symm
  · exact (Bool.or_false _).symm

/-- A step that is begun ends with its fault, if it has one. -/
theorem step_of_not_cancelled {p : Progress} (h : p.cancelled = false) (s : Step) :
    i.Leaves p [s] (i.fault s) (i.step s p) := by
  rcases stagedWork_outcome (i := i) s p with ⟨hstate, hanswer, hlog⟩
  -- The parts of the progress are read off from the one state that is known.
  have hentered : (i.stagedWork s p).state.entered = p.entered ++ [s] :=
    congrArg Progress.entered hstate
  have hstatuses : (i.stagedWork s p).state.statuses = p.statuses ++ i.statusesOf s :=
    congrArg Progress.statuses hstate
  have hcancelled : (i.stagedWork s p).state.cancelled =
      (p.cancelled || (i.statusesOf s).any i.cancels) :=
    congrArg Progress.cancelled hstate
  have hproblems : (i.stagedWork s p).state.problems = p.problems :=
    (congrArg Progress.problems hstate).trans rfl
  rw [← List.flatMap_singleton i.stageEvents] at hlog
  rw [← List.flatMap_singleton i.statusesOf] at hstatuses hcancelled
  unfold step told
  -- A step tells its problem by itself, so the problem belongs to what it leaves behind.
  rw [if_neg (by rw [h]; exact Bool.false_ne_true), hanswer]
  cases hfault : i.fault s with
  | none =>
      rw [hfault] at hanswer
      rw [← List.append_nil p.problems] at hproblems
      exact ⟨hentered, hstatuses, hcancelled, hproblems, hanswer, hlog⟩
  | some problem =>
      exact ⟨hentered, hstatuses, hcancelled, congrArg (· ++ [problem]) hproblems, rfl, hlog⟩

/-- The steps of a list are gone through, and leave behind what those that are begun do. -/
theorem runSteps_course (i : Installation) (steps : List Step) (p : Progress) :
    ∃ begun rest problem?, i.upTo steps = begun ++ rest ∧
      i.Course p.cancelled begun rest problem? ∧
        i.Leaves p begun problem? (i.runSteps steps p) := by
  -- Over the steps, for whatever has been told before. A step is not begun, fails, is the last one
  -- of a test, or is followed by the others.
  induction steps generalizing p with
  | nil =>
      have hnothing : i.Leaves p [] none (i.runSteps [] p) :=
        Leaves.of_quiet rfl (fun _ he => absurd he List.not_mem_nil) rfl
      exact ⟨[], [], none, rfl, .finished _, hnothing⟩
  | cons s steps ih =>
      rw [runSteps]
      cases hcancelled : p.cancelled with
      | true =>
          exact ⟨[], _, _, rfl, .cancelled s _, (step_of_cancelled hcancelled s).andThen_of_some⟩
      | false =>
          have hstep := step_of_not_cancelled (i := i) hcancelled s
          cases hfault : i.fault s with
          | some problem =>
              rw [hfault] at hstep
              exact ⟨[s], _, _, rfl, .failed hfault, hstep.andThen_of_some⟩
          | none =>
              rw [hfault] at hstep
              rw [upTo]
              cases hends : i.endsAfter s with
              | true =>
                  -- A test tells that it is over, which is no stage and no status.
                  have htested : i.Leaves (i.step s p).state [] none
                      ((Outcome.done (i.step s p).state ()).logging [.partitioningTested]) :=
                    Leaves.of_quiet rfl (List.forall_mem_singleton.mpr rfl) rfl
                  refine ⟨[s], [], none, rfl, .worked hfault (.finished _), ?_⟩
                  exact hstep.andThen (by rw [if_pos rfl]; exact htested)
              | false =>
                  rcases ih (i.step s p).state with ⟨begun, rest, problem?, hsplit, hcourse, hrest⟩
                  -- Whether the others are cancelled is decided by the statuses of this step
                  -- alone.
                  have hheard : (i.step s p).state.cancelled = (i.statusesOf s).any i.cancels := by
                    rw [hstep.cancelled, hcancelled, Bool.false_or, List.flatMap_singleton]
                  rw [hheard] at hcourse
                  refine ⟨s :: begun, rest, problem?, ?_, .worked hfault hcourse, ?_⟩
                  · rw [if_neg Bool.false_ne_true, hsplit]
                    rfl
                  · exact hstep.andThen (by rw [if_neg Bool.false_ne_true]; exact hrest)

/-- Nothing is hidden of the stage of a step. -/
theorem stage_isTold (i : Installation) (s : Step) : (i.stage s).IsTold := by
  have hname : "hostname" ∉ secretNames ∧ "hostname" ∉ ownNames := by decide
  exact Stage.isTold_of_context (List.forall_mem_singleton.mpr hname)

/-- Every installation keeps to its order, whether it is cancelled before it begins, on some
    status or not at all, and whichever steps of it fail. -/
theorem run_isOrderly (i : Installation) (cancelled : Bool) :
    ∃ rest, i.IsOrderly cancelled rest (i.run (.start cancelled)) := by
  rcases i.runSteps_course Step.all (.start cancelled) with
    ⟨begun, rest, problem?, hsplit, hcourse, hleaves⟩
  have hentered : (i.run (.start cancelled)).state.entered = begun := hleaves.entered
  have hstatuses : (i.run (.start cancelled)).state.statuses = begun.flatMap i.statusesOf :=
    hleaves.statuses
  have hcancelled : (i.run (.start cancelled)).state.cancelled =
      (cancelled || (begun.flatMap i.statusesOf).any i.cancels) := hleaves.cancelled
  have hproblems : (i.run (.start cancelled)).state.problems = problem?.toList := hleaves.problems
  have hanswer : (i.run (.start cancelled)).answer = answerOf problem? := hleaves.answer
  refine ⟨rest, ?_⟩
  -- The course is now about the steps that are recorded as entered.
  subst hentered
  refine ⟨?_, hstatuses, ?_, ?_, ?_, ?_, ?_, ?_, ?_, hleaves.log, fun s _ => i.stage_isTold s⟩
  · rw [← upTo_all, hsplit]
  · rw [hcancelled, hstatuses, Bool.or_eq_true, List.any_eq_true]
  · rintro rfl
    exact hcourse.begun_of_cancelled
  · rw [hstatuses]
    exact hcourse.last_of_cancels
  · intro s hs problem hfault
    rcases hcourse.last_of_fault s hs problem hfault with ⟨hlast, rfl⟩
    exact ⟨hlast, hanswer⟩
  · intro hfault _
    rw [hanswer, (hcourse.end_of_last_fault hfault).1]
    cases rest <;> rfl
  · intro hfault hnot
    rcases hcourse.end_of_last_fault hfault with ⟨hproblem, hrest⟩
    obtain rfl := hrest (hcancelled.symm.trans hnot)
    exact ⟨rfl, hanswer.trans (congrArg answerOf hproblem)⟩
  · cases problem? with
    | none => exact Or.inl ⟨hanswer, hproblems⟩
    | some problem => exact Or.inr ⟨problem, hanswer, hproblems⟩

/-- A cancellation at the end of partitioning finds no step left in a test run. -/
example : [true, false].map (fun testOnly =>
      let i : Installation :=
        { topology := .empty
          config := ⟨.parse "/image", "host", "us", "en", .parse "/manifest"⟩
          testOnly
          cancels := (· == .of .partition 100)
          fault := fun _ => none }
      (i.run (.start false)).state.problems) =
    [[], [.cancelled .extract]] := by
  decide +kernel

end Installation
end DiskPlan
