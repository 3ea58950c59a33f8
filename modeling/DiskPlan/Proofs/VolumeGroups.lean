import DiskPlan.Proofs.Stages
import Mathlib.Algebra.Ring.Int.Defs
import Mathlib.Data.List.Nodup

/-!
# Volume Groups of a Plan

The volume groups that a plan ends with are those that its partitions ask for.

What a group should be is said here of the partitions as they stand in the end,
without the stages that made it. A partition that is to be a physical volume is one
that stays and is to be formatted as LVM, whatever tokens led there; the group it
names takes it in, as the device that it will be once opened.

Three facts carry this through the stages. A target of LVM never comes without a
group, so no such partition is passed over. There are no groups before the stage
that makes them, so every group is made there, of all its partitions. And the
logical volumes that come later only fill the groups.

## Main definitions

* `Topology.physicalVolumes`: The partitions that are to be physical volumes.
* `Topology.physicalVolumesOf`: Those of one group.
* `Topology.IsGrouped`: The volume groups are those that the partitions ask for.

## Theorems

* `map_volume_members`: Every physical volume is a member of a group.
* `pendingNames_eq`: The groups that are asked for are those that physical volumes name.
* `isGrouped_of_withoutVolumes`: Groups as they are made are as asked for.
* `configure_withoutVolumes`, `isGrouped_of_ok`: The groups of a plan that succeeds.
* `configure_isGrouped`: A plan ends with the groups that were asked for.
-/

namespace DiskPlan

namespace Topology

/-- The partitions that stay and are to be formatted as physical volumes, each with
    its disk. -/
def physicalVolumes (t : Topology) : List (Disk × Partition) :=
  t.disks.flatMap fun d =>
    (d.partitions.filter fun p => !p.removed && p.target == some .lvm).map fun p => (d, p)

end Topology

namespace PhysicalVolume

/-- The group that a physical volume names. -/
def group? (v : Disk × Partition) : Option String :=
  v.2.membership.map Membership.group

/-- How a physical volume is encrypted. -/
def encryption? (v : Disk × Partition) : Option Encryption :=
  v.2.membership.bind Membership.encryption

/-- The device that a physical volume is listed as: the partition itself, or what it
    is mapped to when it is opened. -/
def device (v : Disk × Partition) : String :=
  match encryption? v with
  | some e => "/dev/mapper/" ++ e.physicalVolume
  | none => v.2.path

/-- The whole sectors of 512 bytes on a physical volume. -/
def sectors (v : Disk × Partition) : Int :=
  v.2.sectors * v.1.sectorSize / 512

end PhysicalVolume

namespace Topology

/-- The physical volumes of a group. -/
def physicalVolumesOf (t : Topology) (name : String) : List (Disk × Partition) :=
  t.physicalVolumes.filter fun v => PhysicalVolume.group? v == some name

/-- The volume groups of a topology are those that its partitions ask for. -/
structure IsGrouped (t : Topology) : Prop where
  attached : ∀ v ∈ t.physicalVolumes, v.2.membership.isSome = true
  names : t.groups.map VolumeGroup.name =
    (t.physicalVolumes.filterMap PhysicalVolume.group?).eraseDups
  nodup : (t.groups.map VolumeGroup.name).Nodup
  once : ∀ v ∈ t.physicalVolumes, ∃! g, g ∈ t.groups ∧ PhysicalVolume.group? v = some g.name
  devices : ∀ g ∈ t.groups,
    g.physicalVolumes = (t.physicalVolumesOf g.name).map PhysicalVolume.device
  encryption : ∀ g ∈ t.groups,
    g.encryption = (t.physicalVolumesOf g.name).filterMap PhysicalVolume.encryption?
  sectors : ∀ g ∈ t.groups,
    g.sectors = ((t.physicalVolumesOf g.name).map PhysicalVolume.sectors).sum

end Topology

/-! ### Members -/

namespace Member

/-- A member as a physical volume. -/
def volume (m : Member) : Disk × Partition :=
  (m.disk, m.partition)

/-- The sectors of a member are those of its physical volume. The divisor is positive, so it
    makes no difference how the quotient is rounded. -/
theorem sectors_eq (m : Member) : m.sectors = PhysicalVolume.sectors m.volume :=
  Int.fdiv_eq_ediv_of_nonneg _ (by decide)

end Member

namespace Topology

/-- A member says what its partition says of its group. It has been made from the partition and
    from the group that this names, so there is nothing else it could say. -/
theorem group?_volume {t : Topology} {m : Member} (hm : m ∈ t.members) :
    PhysicalVolume.group? m.volume = some m.group := by
  rcases List.mem_flatMap.mp hm with ⟨d, _, hm⟩
  rcases List.mem_filterMap.mp hm with ⟨p, _, hp⟩
  split at hp
  · rcases Option.map_eq_some_iff.mp hp with ⟨membership, hmembership, rfl⟩
    simp only [PhysicalVolume.group?, Member.volume, hmembership, Option.map_some]
  · exact absurd hp (by simp only [reduceCtorEq, not_false_eq_true])

/-- A member is a partition on a disk of the topology. -/
theorem mem_disks_of_mem_members {t : Topology} {m : Member} (hm : m ∈ t.members) :
    m.disk ∈ t.disks ∧ m.partition ∈ m.disk.partitions := by
  rcases List.mem_flatMap.mp hm with ⟨d, hd, hm⟩
  rcases List.mem_filterMap.mp hm with ⟨p, hp, hp'⟩
  split at hp'
  · rcases Option.map_eq_some_iff.mp hp' with ⟨_, _, rfl⟩
    exact ⟨hd, (List.mem_filter.mp hp).1⟩
  · exact absurd hp' (by simp only [reduceCtorEq, not_false_eq_true])

/-- The members on a disk are its physical volumes, if none of those lacks a group. The induction
    is on the partitions, with the two filters of either side applied to one partition at a time. -/
theorem map_volume_membersOf {d : Disk} (h : ∀ p ∈ d.partitions, p.IsAttached) :
    (membersOf d).map Member.volume =
      (d.partitions.filter fun p => !p.removed && p.target == some .lvm).map fun p => (d, p) := by
  unfold membersOf Disk.active
  generalize d.partitions = ps at h
  induction ps with
  | nil => rfl
  | cons p rest ih =>
      have hrest := ih fun q hq => h q (List.mem_cons_of_mem _ hq)
      rw [List.filter_cons, List.filter_cons]
      cases p.removed with
      | true => exact hrest
      | false =>
          rw [Bool.not_false, Bool.true_and, if_pos rfl, List.filterMap_cons]
          by_cases htarget : p.target = some .lvm
          · -- Without a group the partition would be passed over.
            rcases Option.isSome_iff_exists.mp (h p List.mem_cons_self htarget) with ⟨m, hm⟩
            have hvolume : p.isPhysicalVolume = true := by
              simp only [Partition.isPhysicalVolume, hm, htarget, Option.isSome_some,
                beq_self_eq_true, Bool.and_self]
            rw [if_pos hvolume, hm, htarget, if_pos (beq_self_eq_true _), List.map_cons]
            exact congrArg ((d, p) :: ·) hrest
          · -- What is not to be formatted as LVM is in neither list.
            have hvolume : p.isPhysicalVolume = false := by
              simp only [Partition.isPhysicalVolume, beq_eq_false_iff_ne.mpr htarget,
                Bool.and_false]
            rw [hvolume, beq_eq_false_iff_ne.mpr htarget]
            exact hrest

/-- Every physical volume is a member of a group, in the same order, if none of them
    lacks a group. -/
theorem map_volume_members {t : Topology} (h : t.ForallPartitions Partition.IsAttached) :
    t.members.map Member.volume = t.physicalVolumes := by
  unfold members physicalVolumes
  rw [List.map_flatMap]
  exact List.flatMap_congr fun d hd => map_volume_membersOf (h d hd)

/-- The groups that members are in are those that physical volumes name. This needs no condition,
    since a physical volume without a group does not name any. -/
theorem map_group_members (t : Topology) :
    t.members.map Member.group = t.physicalVolumes.filterMap PhysicalVolume.group? := by
  unfold members physicalVolumes
  rw [List.map_flatMap, List.filterMap_flatMap]
  refine List.flatMap_congr fun d _ => ?_
  unfold membersOf Disk.active
  generalize d.partitions = ps
  induction ps with
  | nil => rfl
  | cons p rest ih =>
      rw [List.filter_cons, List.filter_cons]
      cases p.removed with
      | true => exact ih
      | false =>
          rw [Bool.not_false, Bool.true_and, if_pos rfl, List.filterMap_cons]
          -- A partition without a group names none, and it is no member either.
          by_cases htarget : p.target = some .lvm
          · cases hm : p.membership <;>
              simpa [Partition.isPhysicalVolume, PhysicalVolume.group?, htarget, hm] using ih
          · simpa [Partition.isPhysicalVolume, htarget] using ih

/-- The names of the groups that are asked for, each of them once. -/
theorem pendingNames_eq (t : Topology) :
    t.pendingNames = (t.physicalVolumes.filterMap PhysicalVolume.group?).eraseDups := by
  rw [pendingNames, map_group_members]

/-- The members of one group are the physical volumes that name it. -/
theorem map_volume_membersOfGroup {t : Topology} (h : t.ForallPartitions Partition.IsAttached)
    (name : String) :
    (t.membersOfGroup name).map Member.volume = t.physicalVolumesOf name := by
  unfold membersOfGroup physicalVolumesOf
  rw [← map_volume_members h, List.filter_map]
  congr 1
  refine List.filter_congr fun m hm => ?_
  rw [Function.comp_apply, group?_volume hm]
  rfl

end Topology

/-! ### Groups -/

/-- Without its duplicates a list holds nothing twice. -/
theorem nodup_eraseDups {α : Type} [BEq α] [LawfulBEq α] : ∀ as : List α, as.eraseDups.Nodup
  | [] => List.nodup_nil
  | a :: rest => by
      rw [List.eraseDups_cons, List.nodup_cons]
      refine ⟨fun ha => ?_, nodup_eraseDups _⟩
      -- What is left of the rest is different from the first element, so that one does not come
      -- again.
      have hother := (List.mem_filter.mp (List.mem_eraseDups.mp ha)).2
      rw [beq_self_eq_true] at hother
      exact Bool.false_ne_true hother
termination_by as => as.length
decreasing_by exact Nat.lt_succ_of_le (List.length_filter_le _ _)

namespace Topology

/-- The groups that are missing where there are none: all that partitions name. No group is known
    by any name, so none of those that are pending is left out. -/
theorem missingGroups_of_groups_eq_nil {t : Topology} (h : t.groups = []) :
    t.missingGroups = t.pendingNames.map fun name => .ofMembers name (t.membersOfGroup name) := by
  unfold missingGroups pendingGroups
  rw [List.filter_eq_self.mpr fun g _ => by rw [group?, h]; rfl, List.map_map]
  rfl

/-- Every physical volume has a group. -/
theorem isSome_of_mem_physicalVolumes {t : Topology}
    (h : t.ForallPartitions Partition.IsAttached) {v : Disk × Partition}
    (hv : v ∈ t.physicalVolumes) : v.2.membership.isSome = true := by
  rcases List.mem_flatMap.mp hv with ⟨d, hd, hv⟩
  rcases List.mem_map.mp hv with ⟨p, hp, rfl⟩
  rcases List.mem_filter.mp hp with ⟨hp, hlvm⟩
  exact h d hd p hp (beq_iff_eq.mp ((Bool.and_eq_true _ _).mp hlvm).2)

/-- A physical volume belongs to a group, since the name that it gives is pending,
    and to one only, since no name is pending twice. -/
theorem existsUnique_group {t : Topology} (h : t.ForallPartitions Partition.IsAttached)
    (hnames : t.groups.map VolumeGroup.name = t.pendingNames) {v : Disk × Partition}
    (hv : v ∈ t.physicalVolumes) :
    ∃! g, g ∈ t.groups ∧ PhysicalVolume.group? v = some g.name := by
  rcases Option.isSome_iff_exists.mp (isSome_of_mem_physicalVolumes h hv) with ⟨m, hm⟩
  have hgroup : PhysicalVolume.group? v = some m.group := by
    rw [PhysicalVolume.group?, hm, Option.map_some]
  have hmem : m.group ∈ t.groups.map VolumeGroup.name := by
    rw [hnames, pendingNames_eq, List.mem_eraseDups]
    exact List.mem_filterMap.mpr ⟨v, hv, hgroup⟩
  -- No name is pending twice.
  have hnodup : (t.groups.map VolumeGroup.name).Nodup := by
    rw [hnames]
    exact nodup_eraseDups _
  rcases List.mem_map.mp hmem with ⟨g, hg, hname⟩
  refine ⟨g, ⟨hg, by rw [hgroup, hname]⟩, ?_⟩
  rintro g' ⟨hg', hgroup'⟩
  -- Two groups that the volume belongs to have the same name.
  refine List.inj_on_of_nodup_map hnodup hg' hg ?_
  rw [hname, ← Option.some.injEq, ← hgroup', hgroup]

/-- Groups that are made of their members, whatever volumes are in them by now, are
    those that the partitions ask for. -/
theorem isGrouped_of_withoutVolumes {t : Topology}
    (h : t.ForallPartitions Partition.IsAttached)
    (hgroups : t.groups.map VolumeGroup.withoutVolumes =
      t.pendingNames.map fun name => .ofMembers name (t.membersOfGroup name)) : t.IsGrouped := by
  -- The names of the groups are all that is kept of this by the volumes in them.
  have hnames : t.groups.map VolumeGroup.name = t.pendingNames := by
    have hmap := congrArg (List.map VolumeGroup.name) hgroups
    rw [List.map_map, List.map_map] at hmap
    exact hmap.trans (List.map_id _)
  -- Each group is made of the members of its own name, which the list does not say by itself.
  have hform : ∀ g ∈ t.groups,
      VolumeGroup.ofMembers g.name (t.membersOfGroup g.name) = g.withoutVolumes := by
    intro g hg
    have hmem := List.mem_map_of_mem (f := VolumeGroup.withoutVolumes) hg
    rw [hgroups] at hmem
    rcases List.mem_map.mp hmem with ⟨name, _, hname⟩
    obtain rfl : name = g.name := congrArg VolumeGroup.name hname
    exact hname
  refine ⟨fun v => isSome_of_mem_physicalVolumes h, hnames.trans (pendingNames_eq t), ?_,
    fun v => existsUnique_group h hnames, ?_, ?_, ?_⟩
  · rw [hnames]
    exact nodup_eraseDups _
  · -- What is said of the devices, of the encryption and of the sectors are fields of this one
    -- group.
    intro g hg
    rw [← map_volume_membersOfGroup h, List.map_map]
    exact (congrArg VolumeGroup.physicalVolumes (hform g hg)).symm
  · intro g hg
    rw [← map_volume_membersOfGroup h, List.filterMap_map]
    exact (congrArg VolumeGroup.encryption (hform g hg)).symm
  · intro g hg
    rw [← map_volume_membersOfGroup h, List.map_map]
    refine (congrArg VolumeGroup.sectors (hform g hg)).symm.trans (congrArg List.sum ?_)
    exact List.map_congr_left fun m _ => m.sectors_eq

end Topology

/-! ### Plans -/

/-- All partitions that are to be physical volumes have a group once the disks of a layout are
    done. A layout plans nothing, so this is true at first, and every change keeps it. -/
theorem isAttached_of_prepare {path contents : String} {probe : Probe}
    (hload : (Layout.load path contents).answer = .ok probe) (r : Requests) :
    (prepare probe r).state.ForallPartitions Partition.IsAttached := by
  refine prepare_disks r (fun name d hfound p hp => ?_)
    fun hasked hchange hd => hchange.isAttached hasked hd
  exact (isUnplanned_of_load hload hfound p hp).isAligned.isAttached

/-- The groups of a plan before they are filled. -/
theorem initializeGroups_prepare {probe : Probe} {r : Requests}
    (h : (prepare probe r).state.initializeGroups.answer = .ok ()) :
    (prepare probe r).state.initializeGroups.state.groups =
      (prepare probe r).state.pendingNames.map fun name =>
        .ofMembers name ((prepare probe r).state.membersOfGroup name) := by
  -- No group is made before this stage, so it makes all of them.
  have hnone := prepare_groups probe r
  rcases Topology.addGroups_state (prepare probe r).state.missingGroups (prepare probe r).state with
    ⟨added, _, hstate, hall⟩
  rw [← Topology.missingGroups_of_groups_eq_nil hnone, Topology.initializeGroups, hstate, hnone,
    hall h, List.nil_append]

/-- The groups of a plan that succeeds are made of the partitions that it ends with. -/
theorem configure_withoutVolumes {probe : Probe} {r : Requests}
    (hplan : (configure probe r).answer = .ok ()) :
    (configure probe r).state.groups.map VolumeGroup.withoutVolumes =
      (configure probe r).state.pendingNames.map fun name =>
        .ofMembers name ((configure probe r).state.membersOfGroup name) := by
  rcases configure_eq_ok_iff.mp hplan with ⟨_, hgroups, _⟩
  have hfilled := Kind.withoutVolumes_of_changes
    (stage_changes r .logical (prepare probe r).state.initializeGroups.state)
  rw [← configure_state_of_ok hplan, initializeGroups_prepare hgroups, List.map_map] at hfilled
  rw [hfilled]
  -- The names and the members are a matter of the disks alone, and volumes leave these alone.
  unfold Topology.pendingNames Topology.membersOfGroup Topology.members
  rw [configure_disks hplan]
  rfl

/-- They are those that the partitions of the plan ask for. -/
theorem isGrouped_of_ok {path contents : String} {probe : Probe} {r : Requests}
    (hload : (Layout.load path contents).answer = .ok probe)
    (hplan : (configure probe r).answer = .ok ()) : (configure probe r).state.IsGrouped := by
  refine Topology.isGrouped_of_withoutVolumes ?_ (configure_withoutVolumes hplan)
  unfold Topology.ForallPartitions
  rw [configure_disks hplan]
  exact isAttached_of_prepare hload r

/-- A plan that is made of a layout ends with exactly the groups that its partitions
    ask for, and the logical volumes change nothing of it but the volumes in those
    groups. -/
theorem configure_isGrouped {path contents : String} {probe : Probe} {r : Requests}
    (hload : (Layout.load path contents).answer = .ok probe)
    (hplan : (configure probe r).answer = .ok ()) :
    (configure probe r).state.IsGrouped ∧
      (configure probe { r with logicals := [] }).answer = .ok () ∧
        (configure probe { r with logicals := [] }).state =
          { (configure probe r).state with
            groups := (configure probe r).state.groups.map VolumeGroup.withoutVolumes } := by
  rcases configure_eq_ok_iff.mp hplan with ⟨hdisks, hgroups, _⟩
  have hfilled := stage_changes r .logical (prepare probe r).state.initializeGroups.state
  rw [← configure_state_of_ok hplan] at hfilled
  have hsame : (configure probe r).state.disks = (prepare probe r).state.disks :=
    configure_disks hplan
  have hmade : (configure probe r).state.groups.map VolumeGroup.withoutVolumes =
      (prepare probe r).state.initializeGroups.state.groups := by
    rw [Kind.withoutVolumes_of_changes hfilled, initializeGroups_prepare hgroups, List.map_map]
    rfl
  -- Without logical volumes the last stage is left out, so it cannot fail.
  have hbare : (configure probe { r with logicals := [] }).answer = .ok () :=
    configure_eq_ok_iff.mpr ⟨hdisks, hgroups, rfl⟩
  refine ⟨Topology.isGrouped_of_withoutVolumes ?_ ?_, hbare, ?_⟩
  · unfold Topology.ForallPartitions
    rw [hsame]
    exact isAttached_of_prepare hload r
  · rw [hmade, initializeGroups_prepare hgroups]
    unfold Topology.pendingNames Topology.membersOfGroup Topology.members
    rw [hsame]
  · rw [configure_state_of_ok hbare, hmade]
    -- The disks are those of the plan, before and after the groups are made.
    change (prepare probe r).state.initializeGroups.state =
      ⟨(configure probe r).state.disks, (prepare probe r).state.initializeGroups.state.groups⟩
    rw [hsame, ← Topology.initializeGroups_disks]

/-- A layout of two disks of different sector sizes, one of them with a partition. -/
def Layout.ofTwo : String :=
  "\x7b\"disks\":[\x7b\"device_path\":\"sda\",\"sectors\":40000,\"partitions\":[\x7b\"number\":1," ++
    "\"start_sector\":5000,\"end_sector\":9999\x7d]\x7d," ++
    "\x7b\"device_path\":\"sdb\",\"sectors\":9000,\"sector_size\":4096\x7d]\x7d"

/-- The disks that the layout describes. -/
def Disk.ofTwo : List Disk :=
  [{ Disk.ofThree with
      sectors := 40000
      table := none
      partitions := [{ Partition.found 1 5000 9999 with path := "/dev/sda1" }] },
    { Disk.ofThree with
      path := "/dev/sdb"
      sectors := 9000
      sectorSize := 4096
      table := none
      partitions := [] }]

/-- A plan with a group on both disks, the first of its partitions encrypted, and a
    group on one. -/
def Requests.ofTwo : Requests where
  disks := ["sda", "sdb"]
  tables := ["sdb:gpt"]
  deletes := []
  moves := []
  reuses := ["sda:1:ext4", "sda:1:enc=crypt,root,pass=secret"]
  creates := ["sdb:primary:start:50%:lvm=data", "sdb:primary:60%:end:lvm=root"]
  logicals := ["data:home:50%:ext4"]

theorem configure_isGrouped_ofTwo :
    (Layout.load "layout.json" Layout.ofTwo).answer = .ok (.static Disk.ofTwo) ∧
      (configure (.static Disk.ofTwo) .ofTwo).answer = .ok () ∧
        (configure (.static Disk.ofTwo) .ofTwo).state.groups.map
            (fun g => (g.name, g.physicalVolumes, g.sectors)) =
          [("root", ["/dev/mapper/crypt", "/dev/sdb2"], 29712), ("data", ["/dev/sdb1"], 31912)] ∧
        (configure (.static Disk.ofTwo) .ofTwo).state.IsGrouped := by
  have hread : (Layout.parse Layout.ofTwo >>= fun layout => layout.mapM DiskLayout.toDisk?) =
      .ok (Disk.ofTwo.map some) := by decide +kernel
  have hload : (Layout.load "layout.json" Layout.ofTwo).answer = .ok (.static Disk.ofTwo) :=
    load_eq_ok "layout.json" hread
  have hplan : (configure (.static Disk.ofTwo) .ofTwo).answer = .ok () := by decide +kernel
  exact ⟨hload, hplan, by decide +kernel, (configure_isGrouped hload hplan).1⟩

end DiskPlan
