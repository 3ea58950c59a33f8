import DiskPlan.Plan
import DiskPlan.Proofs.Layouts

/-!
# Stages of a Plan

A plan taken apart into its stages.

A plan that succeeds has gone through all of its stages, and each of them is one of
three things: disks are registered, tokens of a kind are applied, or volume groups
are made. The stages up to the groups are put together here as `prepare`, since
whatever is asked of logical volumes leaves them alone. What a stage of tokens can
do is what a session can do, so all that is left to say here is where the first
topology comes from: its disks are as a probe finds them, and there are no groups.

## Main definitions

* `prepare`: The stages before volume groups are made.
* `VolumeGroup.withoutVolumes`: A volume group before it is filled.

## Theorems

* `registerDisks_state`: Disks are registered as they are found, without groups.
* `prepare_groups`, `prepare_disks`: The disks when they are done, without groups.
* `configure_eq_ok_iff`, `configure_state_of_ok`, `configure_disks`: A plan that
  succeeds.
* `Kind.withoutVolumes_of_changes`: Tokens only fill groups.
-/

namespace DiskPlan

open Relation

/-! ### Stages -/

/-- Disks are registered as they are found, and no volume groups come with them. -/
theorem registerDisks_state (probe : Probe) {P : Disk → Prop}
    (hP : ∀ name d, (probe.lookup name).answer = .ok (some d) → P d) (names : List String)
    (t : Topology) (ht : ∀ d ∈ t.disks, P d) :
    (∀ d ∈ (registerDisks probe names t).state.disks, P d) ∧
      (registerDisks probe names t).state.groups = t.groups := by
  induction names generalizing t with
  | nil => exact ⟨ht, rfl⟩
  | cons name rest ih =>
      rw [registerDisks]
      refine Outcome.andThen_state_of
        (P := fun t' : Topology => (∀ d ∈ t'.disks, P d) ∧ t'.groups = t.groups) ⟨ht, rfl⟩ ?_
      intro found hfound
      cases found with
      | none => exact ⟨ht, rfl⟩
      | some d =>
          -- The disks that follow are registered behind this one.
          refine ih { t with disks := t.disks ++ [d] } ?_
          exact List.forall_mem_append.mpr ⟨ht, List.forall_mem_singleton.mpr (hP name d hfound)⟩

/-- The tokens of a kind make the changes of the kind, as a stage too. -/
theorem stage_changes (r : Requests) (kind : Kind) (t : Topology) :
    ReflTransGen kind.Change t (r.stage kind t).state := by
  unfold Requests.stage
  split
  · exact .refl
  · exact applyTokens_changes kind (r.tokens kind) t

theorem stage_reaches (r : Requests) (kind : Kind) (t : Topology) :
    t.Reaches (r.stage kind t).state :=
  ReflTransGen.mono (fun _ _ hchange => .operation hchange) _ _ (stage_changes r kind t)

theorem stages_reaches (r : Requests) (kinds : List Kind) (t : Topology) :
    t.Reaches (r.stages kinds t).state := by
  induction kinds generalizing t with
  | nil => exact .refl
  | cons kind rest ih =>
      rw [Requests.stages]
      exact Topology.reaches_andThen (stage_reaches r kind t) fun t _ => ih t

theorem stages_groups (r : Requests) {kinds : List Kind} (hkinds : Kind.logical ∉ kinds)
    (t : Topology) : (r.stages kinds t).state.groups = t.groups := by
  induction kinds generalizing t with
  | nil => rfl
  | cons kind rest ih =>
      rw [List.mem_cons, not_or] at hkinds
      have hstage := Kind.groups_of_changes (Ne.symm hkinds.1) (stage_changes r kind t)
      rw [Requests.stages]
      exact Outcome.andThen_state_of (P := fun t' : Topology => t'.groups = t.groups) hstage
        fun _ _ => (ih hkinds.2 _).trans hstage

/-- The disks of a plan with all changes that are asked of them. -/
def prepare (probe : Probe) (r : Requests) : Outcome Topology Unit :=
  ((registerDisks probe r.disks .empty).bracket r.registration).andThen fun t _ =>
    r.stages diskKinds t

/-- Groups come after disks: there are none yet when the disks are done. -/
theorem prepare_groups (probe : Probe) (r : Requests) : (prepare probe r).state.groups = [] := by
  have hregistered : (registerDisks probe r.disks .empty).state.groups = [] :=
    (registerDisks_state probe (fun _ _ _ => trivial) r.disks .empty fun _ _ => trivial).2
  exact Outcome.andThen_state_of (P := fun t : Topology => t.groups = []) hregistered
    fun _ _ => (stages_groups r (by decide) _).trans hregistered

/-- What every change of a disk keeps holds of the disks of a plan, if it holds of
    all disks that are found. -/
theorem prepare_disks {P : Disk → Prop} {probe : Probe} (r : Requests)
    (hfound : ∀ name d, (probe.lookup name).answer = .ok (some d) → P d)
    (hP : ∀ {kind name action} {d d' : Disk}, (Operation.onDisk name action).Asked kind →
      action.Change d d' → P d → P d') :
    ∀ d ∈ (prepare probe r).state.disks, P d := by
  have hregistered := (registerDisks_state probe hfound r.disks .empty
    fun d hd => absurd hd List.not_mem_nil).1
  exact Outcome.andThen_state_of (P := fun t : Topology => ∀ d ∈ t.disks, P d) hregistered
    fun _ _ => Topology.disks_of_reaches hP (stages_reaches r diskKinds _) hregistered

/-- The stages after the disks are done. -/
theorem configure_eq (probe : Probe) (r : Requests) :
    configure probe r = (prepare probe r).andThen fun t _ =>
      (t.initializeGroups.bracket groupStage).andThen fun t _ =>
        (r.stage .logical t).andThen fun t _ => (Outcome.done t ()).logging [configured t] :=
  (Outcome.andThen_assoc _ _ _).symm

/-- A plan succeeds exactly if its disks, its groups and its volumes do. -/
theorem configure_eq_ok_iff {probe : Probe} {r : Requests} :
    (configure probe r).answer = .ok () ↔
      (prepare probe r).answer = .ok () ∧
        (prepare probe r).state.initializeGroups.answer = .ok () ∧
          (r.stage .logical (prepare probe r).state.initializeGroups.state).answer = .ok () := by
  rw [configure_eq]
  simp only [Outcome.andThen_unit_eq_ok_iff, Outcome.bracket_answer, Outcome.bracket_state,
    Outcome.logging, Outcome.done, and_true]

/-- A plan that succeeds is what its logical volumes lead to from its groups. -/
theorem configure_state_of_ok {probe : Probe} {r : Requests}
    (h : (configure probe r).answer = .ok ()) :
    (configure probe r).state =
      (r.stage .logical (prepare probe r).state.initializeGroups.state).state := by
  rcases configure_eq_ok_iff.mp h with ⟨hdisks, hgroups, hvolumes⟩
  have hbracket : ((prepare probe r).state.initializeGroups.bracket groupStage).answer = .ok () :=
    hgroups
  rw [configure_eq, Outcome.andThen_state_of_ok hdisks, Outcome.andThen_state_of_ok hbracket,
    Outcome.bracket_state, Outcome.andThen_state_of_ok hvolumes]
  rfl

/-- Volume groups and their volumes leave the disks alone. -/
theorem configure_disks {probe : Probe} {r : Requests} (h : (configure probe r).answer = .ok ()) :
    (configure probe r).state.disks = (prepare probe r).state.disks := by
  rw [configure_state_of_ok h, Kind.disks_of_logical_changes (stage_changes r .logical _),
    Topology.initializeGroups_disks]

/-! ### Filling groups -/

/-- A volume group before it is filled. -/
def VolumeGroup.withoutVolumes (g : VolumeGroup) : VolumeGroup :=
  { g with partitions := [] }

/-- Tokens only fill groups: but for their volumes all of them stay as they are. -/
theorem Kind.withoutVolumes_of_changes {kind : Kind} {t t' : Topology}
    (h : ReflTransGen kind.Change t t') :
    t'.groups.map VolumeGroup.withoutVolumes = t.groups.map VolumeGroup.withoutVolumes := by
  induction h with
  | refl => rfl
  | tail _ hstep ih =>
      rcases hstep with ⟨op, _, hchange⟩
      cases hchange with
      | onDisk _ _ => exact ih
      | onGroup hat hchange =>
          -- The volume that comes in is left out again on both sides.
          rw [← ih, hat.split]
          cases hchange with
          | place _ _ => simp only [List.map_append, List.map_cons, VolumeGroup.withoutVolumes]

theorem Kind.names_of_changes {kind : Kind} {t t' : Topology} (h : ReflTransGen kind.Change t t') :
    t'.groups.map VolumeGroup.name = t.groups.map VolumeGroup.name := by
  have hnames := congrArg (List.map VolumeGroup.name) (withoutVolumes_of_changes h)
  rwa [List.map_map, List.map_map] at hnames

end DiskPlan
