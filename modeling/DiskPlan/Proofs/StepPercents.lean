import DiskPlan.Proofs.Installations

/-!
# The Percentages of a Step

How the statuses of a step lead from its beginning to its end.

Partitioning is the only step that tells statuses while it does its work. It goes through the
disks and then through the volume groups, as two lists with one count: the place of a volume
group is counted on from the disks, and every place is divided by the number of devices of
both kinds. `statusesWithin` has forgotten about the two lists, so nothing happens at the
boundary between them. What is left is a range of places, and a division by a fixed number
keeps their order.

The number of devices can be zero. Then there is no place that would be divided by it, but
division in the logic has an answer all the same and does not show this. The devices are
therefore gone through a second time by `describeDevices?`, which fails where it would have to
divide by zero, and `describeDevices?_eq` says that it never does.

## Main definitions

* `Installation.percentsOf`: The percentages that are told of a step.
* `Installation.IsGradual`: Percentages that lead from nothing to everything.
* `Installation.CountsDevices`: Percentages with one for each device in between.
* `Installation.describeDevices?`: The devices of a plan, with a division that can fail.

## Theorems

* `Status.clamp_mono`: Percentages stay in order when they are moved into their range.
* `percentsOf_flatMap`: The percentages of one step among those of many.
* `isGradual_of_between`: Percentages between the first and the last.
* `describeDevices?_eq`: Nothing is divided by zero.
* `run_isGradual`: Every step that is begun and does not fail goes from 0 to 100.
-/

namespace DiskPlan

theorem Status.clamp_mono {a b : Int} (h : a ≤ b) : clamp a ≤ clamp b := by
  unfold clamp
  omega

namespace Installation

/-- The percentages that are told of a step, in their order. Statuses of other steps can stand
    between them in the record of a run, and are passed over. -/
def percentsOf (statuses : List Status) (s : Step) : List Int :=
  (statuses.filter fun status => status.step = s).map Status.percent

/-- Percentages that lead from nothing to everything and never back. A percentage may be told
    more than once, since the part that is done is rounded down. -/
structure IsGradual (percents : List Int) : Prop where
  head : percents.head? = some 0
  last : percents.getLast? = some 100
  sorted : percents.Pairwise (· ≤ ·)
  bounds : ∀ percent ∈ percents, 0 ≤ percent ∧ percent ≤ 100

/-- Percentages with one for each of `count` devices between the first and the last. With the
    last device everything is done, so if there are devices at all, 100 is told twice: once for
    the last device and once for the step. -/
def CountsDevices (count : Nat) (percents : List Int) : Prop :=
  ∃ between, percents = 0 :: (between ++ [100]) ∧ between.length = count ∧
    (0 < count → between.getLast? = some 100)

/-- The part of all devices that is done, in percent and rounded down. There is none if there are
    no devices to divide by. -/
def percentDone? (done count : Nat) : Except Failure Int :=
  if count = 0 then .error .zeroDivisor else .ok (done * 100 / count : Nat)

/-- The devices of a plan from an index on, each with a report after it, for which the part that
    is done has to be found. This is `describeDevices` with the division of the program, which
    fails where that of the logic would answer zero. -/
def describeDevices? (i : Installation) (count : Nat) :
    Nat → List (List Event) → Progress → Outcome Progress Unit
  | _, [], p => .done p ()
  | index, events :: rest, p =>
    ((Outcome.ofExcept p (percentDone? (index + 1) count)).logging events).andThen
      fun p percent => (i.report .partition percent p).andThen fun p _ =>
        i.describeDevices? count (index + 1) rest p

/-! ### Divisions -/

variable {i : Installation}

/-- A division that can fail makes no difference to how devices are described. It is only carried
    out for a device, and where there is one, their number is not zero. The hypothesis says just
    this, since the number is that of all devices and not of those that are left. -/
theorem describeDevices?_eq {count : Nat} (index : Nat) {devices : List (List Event)}
    (hcount : devices ≠ [] → 0 < count) (p : Progress) :
    i.describeDevices? count index devices p = i.describeDevices count index devices p := by
  induction devices generalizing index p with
  | nil => rfl
  | cons events rest ih =>
      -- There is a device at the head, so the hypothesis gives what the division needs.
      have hpos : 0 < count := hcount (List.cons_ne_nil _ _)
      have hdone : percentDone? (index + 1) count = .ok ((index + 1) * 100 / count : Nat) := by
        unfold percentDone?
        rw [if_neg (by omega)]
      rw [describeDevices?, describeDevices, hdone]
      -- Both sides now report the same percentage. What is left is to see that an answer that is
      -- known to be there is handed on without a trace.
      simp only [report_eq]
      unfold Outcome.andThen Outcome.logging Outcome.ofExcept Outcome.done
      dsimp only
      rw [ih (index + 1) fun _ => hpos, List.append_nil, List.nil_append]

/-! ### Single steps -/

/-- The percentages of a step in two stretches of a record are put together. -/
theorem percentsOf_append (statuses statuses' : List Status) (s : Step) :
    percentsOf (statuses ++ statuses') s = percentsOf statuses s ++ percentsOf statuses' s := by
  unfold percentsOf
  rw [List.filter_append, List.map_append]

/-- All that a step tells is about itself, so nothing of it is passed over. -/
theorem percentsOf_statusesOf (i : Installation) (s : Step) :
    percentsOf (i.statusesOf s) s = (i.statusesOf s).map Status.percent := by
  unfold percentsOf
  rw [List.filter_eq_self.mpr]
  intro status hstatus
  simpa using step_of_mem_statusesOf hstatus

theorem percentsOf_statusesOf_of_ne {s s' : Step} (h : s' ≠ s) :
    percentsOf (i.statusesOf s') s = [] := by
  unfold percentsOf
  rw [List.filter_eq_nil_iff.mpr, List.map_nil]
  intro status hstatus
  rw [step_of_mem_statusesOf hstatus]
  simpa using h

theorem percentsOf_flatMap_of_not_mem {steps : List Step} {s : Step} (h : s ∉ steps) :
    percentsOf (steps.flatMap i.statusesOf) s = [] := by
  induction steps with
  | nil => rfl
  | cons s' rest ih =>
      rw [List.mem_cons, not_or] at h
      rw [List.flatMap_cons, percentsOf_append, percentsOf_statusesOf_of_ne (Ne.symm h.1), ih h.2,
        List.nil_append]

/-- The percentages of a step among those of different steps are its own. No step occurs twice,
    so what other steps tell before and after it is all there is to pass over. -/
theorem percentsOf_flatMap {steps : List Step} (hnodup : steps.Nodup) {s : Step} (hs : s ∈ steps) :
    percentsOf (steps.flatMap i.statusesOf) s = (i.statusesOf s).map Status.percent := by
  induction steps with
  | nil => exact absurd hs List.not_mem_nil
  | cons s' rest ih =>
      rw [List.nodup_cons] at hnodup
      rw [List.flatMap_cons, percentsOf_append]
      by_cases hsame : s' = s
      · -- The step tells its statuses here, and is not begun again.
        subst hsame
        rw [percentsOf_statusesOf, percentsOf_flatMap_of_not_mem hnodup.1, List.append_nil]
      · -- Another step is told of first, which leaves the percentages as they are.
        have hrest : s ∈ rest := (List.mem_cons.mp hs).resolve_left (Ne.symm hsame)
        rw [percentsOf_statusesOf_of_ne hsame, ih hnodup.2 hrest, List.nil_append]

/-- Percentages in order and within their range lead from the first to the last. Nothing has to
    be known of how they were found, and there may be none: the two ends are in order already. -/
theorem isGradual_of_between {between : List Int} (hsorted : between.Pairwise (· ≤ ·))
    (hbounds : ∀ percent ∈ between, 0 ≤ percent ∧ percent ≤ 100) :
    IsGradual (0 :: (between ++ [100])) where
  head := rfl
  last := by
    rw [← List.cons_append]
    exact List.getLast?_concat
  sorted := by
    rw [List.pairwise_cons, List.pairwise_append]
    refine ⟨fun percent hpercent => ?_, hsorted, List.pairwise_singleton _ _, ?_⟩
    · -- The first percentage is below each of the others, the last of which is 100.
      rcases List.mem_append.mp hpercent with h | h
      · exact (hbounds percent h).1
      · rw [List.mem_singleton.mp h]
        decide
    · -- All that stands before the last percentage is at most 100.
      intro percent hpercent hundred h
      rw [List.mem_singleton.mp h]
      exact (hbounds percent hpercent).2
  bounds := by
    rw [List.forall_mem_cons, List.forall_mem_append, List.forall_mem_singleton]
    exact ⟨by decide, hbounds, by decide⟩

/-- The percentages within partitioning, as a range of places. Disks and volume groups are no
    longer told apart here, and each place is one more than its index, since a device is told of
    when it is done. -/
theorem percents_within_partition :
    (i.statusesWithin .partition).map Status.percent =
      (List.range i.topology.events.length).map fun index =>
        Status.clamp ((index + 1) * 100 / i.topology.events.length : Nat) := by
  unfold statusesWithin
  rw [List.map_map]
  rfl

/-- The work of a step is told in order. A greater place has a greater product with 100, and to
    divide both by one number and to move both into their range keeps them in order. -/
theorem pairwise_percents_within (s : Step) :
    ((i.statusesWithin s).map Status.percent).Pairwise (· ≤ ·) := by
  cases s with
  | partition =>
      rw [percents_within_partition, List.pairwise_map]
      -- The order of the places is known, so it is enough that each map on the way is monotone.
      refine List.pairwise_lt_range.imp fun h => Status.clamp_mono ?_
      exact Int.ofNat_le.mpr (Nat.div_le_div_right (by omega))
  | init | extract | configure | bootloader => exact List.Pairwise.nil

theorem percent_bounds_within (s : Step) :
    ∀ percent ∈ (i.statusesWithin s).map Status.percent, 0 ≤ percent ∧ percent ≤ 100 := by
  cases s with
  | partition =>
      rw [percents_within_partition, List.forall_mem_map]
      exact fun index _ => ⟨Status.le_clamp _, Status.clamp_le _⟩
  | init | extract | configure | bootloader => exact fun _ h => absurd h List.not_mem_nil

/-- With the last device everything is done: its place is the number of devices, so the division
    leaves no rest. This fails for no devices, and then there is no last percentage either. -/
theorem getLast?_percents_within (h : 0 < i.topology.events.length) :
    ((i.statusesWithin .partition).map Status.percent).getLast? = some 100 := by
  rw [percents_within_partition]
  -- Only the number of devices matters from here on, and that it is positive.
  generalize i.topology.events.length = count at h
  rw [List.getLast?_map, List.getLast?_range, if_neg (by omega), Option.map_some,
    Nat.sub_add_cancel h, Nat.mul_div_cancel_left 100 h]
  rfl

/-- The percentages of a step that does not fail: nothing is done when it begins and everything
    when it ends, with what its work tells in between. A step that fails has only the first of
    these. -/
theorem percents_of_fault_eq_none {s : Step} (h : i.fault s = none) :
    (i.statusesOf s).map Status.percent =
      0 :: ((i.statusesWithin s).map Status.percent ++ [100]) := by
  unfold statusesOf
  rw [h, Option.isSome_none, if_neg Bool.false_ne_true, List.map_cons, List.map_append]
  rfl

theorem length_events (t : Topology) : t.events.length = t.disks.length + t.groups.length := by
  unfold Topology.events
  rw [List.length_append, List.length_map, List.length_map]

/-! ### Runs -/

/-- No step is begun twice, in a full run as in one that is only a test. -/
theorem nodup_order (i : Installation) : i.order.Nodup := by
  unfold order
  split <;> decide

/-- The percentages of every step that is begun and does not fail lead from 0 to 100 and never
    back. While the disks are partitioned there is one for each disk and each volume group in
    between, the last of which is 100, and none of them is found by a division by zero. An
    installation in which no step fails can only be ended by a cancellation. -/
theorem run_isGradual (i : Installation) (cancelled : Bool) :
    let o := i.run (.start cancelled)
    (∀ s ∈ o.state.entered, i.fault s = none → IsGradual (percentsOf o.state.statuses s)) ∧
      (.partition ∈ o.state.entered → i.fault .partition = none →
        CountsDevices (i.topology.disks.length + i.topology.groups.length)
          (percentsOf o.state.statuses .partition)) ∧
      (∀ p, i.describeDevices? i.topology.events.length 0 i.topology.events p =
        i.describe .partition p) ∧
      ((∀ s, i.fault s = none) →
        o.answer = .ok () ∨ ∃ s, o.answer = .error (.install (.cancelled s))) := by
  intro o
  -- A run is split where it ends: at the steps that were begun and those that were not.
  rcases i.runSteps_course Step.all (.start cancelled) with
    ⟨begun, rest, problem?, hsplit, hcourse, hleaves⟩
  have hentered : o.state.entered = begun := hleaves.entered
  have hstatuses : o.state.statuses = begun.flatMap i.statusesOf := hleaves.statuses
  -- The steps that were begun are the first ones of the whole order.
  have hnodup : begun.Nodup := by
    have horder := i.nodup_order
    rw [← upTo_all, hsplit] at horder
    exact (List.nodup_append.mp horder).1
  -- Both clauses on percentages follow from what is told of one step. Other steps do not matter,
  -- whether they fail or not.
  have hpercents : ∀ s ∈ begun, i.fault s = none → percentsOf o.state.statuses s =
      0 :: ((i.statusesWithin s).map Status.percent ++ [100]) := by
    intro s hs hfault
    rw [hstatuses, percentsOf_flatMap hnodup hs, percents_of_fault_eq_none hfault]
  rw [hentered]
  refine ⟨fun s hs hfault => ?_, fun hs hfault => ?_, fun p => ?_, fun hfault => ?_⟩
  · rw [hpercents s hs hfault]
    exact isGradual_of_between (pairwise_percents_within s) (percent_bounds_within s)
  · refine ⟨_, hpercents .partition hs hfault, ?_, ?_⟩
    · rw [percents_within_partition, List.length_map, List.length_range, length_events]
    · rw [← length_events]
      exact getLast?_percents_within
  · exact describeDevices?_eq 0 (fun hne => List.length_pos_iff.mpr hne) p
  · -- Of a run in which no step fails, the answer is settled by what is left to do: nothing, or a
    -- step at which the cancellation was noticed.
    have hanswer : o.answer = answerOf problem? := hleaves.answer
    rw [hanswer, (hcourse.end_of_last_fault fun s _ => hfault s).1]
    cases rest with
    | nil => exact Or.inl rfl
    | cons s _ => exact Or.inr ⟨s, rfl⟩

/-- Two disks and a volume group, which are three devices: the part that is done is rounded down
    after each of them. The installation is cancelled before the next step. -/
theorem run_isGradual_ofThree :
    let i : Installation :=
      { topology :=
          { disks := ["/dev/sda", "/dev/sdb"].map fun path =>
              ⟨path, 20000, 512, .ofString "Unknown", some .gpt, [], true⟩
            groups := [.empty "vg" 1000 512] }
        config := ⟨.parse "/image", "host", "us", "en", .parse "/manifest"⟩
        testOnly := false
        cancels := (· == .of .partition 33)
        fault := fun _ => none }
    let o := i.run (.start false)
    o.state.entered = [.init, .partition] ∧
      percentsOf o.state.statuses .partition = [0, 33, 66, 100, 100] ∧
      IsGradual (percentsOf o.state.statuses .partition) ∧
      CountsDevices 3 (percentsOf o.state.statuses .partition) ∧
      o.answer = .error (.install (.cancelled .extract)) := by
  intro i o
  have hentered : o.state.entered = [.init, .partition] := by decide +kernel
  have hpartition : .partition ∈ o.state.entered := by
    rw [hentered]
    decide
  rcases run_isGradual i false with ⟨hgradual, hcounts, _⟩
  exact ⟨hentered, by decide +kernel, hgradual .partition hpartition rfl, hcounts hpartition rfl,
    by decide +kernel⟩

end Installation

end DiskPlan
