import DiskPlan.Proofs.VolumePaths

/-!
# Making Volume Groups Again

What a second call leaves to be made.

A call makes the groups that physical volumes name and that are not known yet. It does so in
one pass over a list that is made up before it begins, so nothing in the pass says what the
next call is going to find. What it finds depends on the disks and on the names of the groups
alone. The pass leaves the disks as they are and adds the names of what it makes, and logical
volumes change neither, so what is missing afterwards is the list without the part that was
made.

The part is the whole list unless the size of a group cannot be written. Such a group has been
made when it is to be told of, and the ones behind it have not. The call fails then, and the
next one makes the others.

## Theorems

* `Topology.missingGroups_of_added`: What is missing when some of the groups are made.
* `Topology.initializeGroups_extends`: What a call makes, and what it leaves to the next.
-/

namespace DiskPlan

open Relation

namespace Topology

variable {t t' : Topology} {added rest : List VolumeGroup}

/-! ### What is missing -/

/-- The names that are waiting are those that some physical volume gives, each of them once. -/
theorem mem_pendingNames_iff {name : String} :
    name ∈ t.pendingNames ↔ ∃ v ∈ t.physicalVolumes, PhysicalVolume.group? v = some name := by
  rw [pendingNames_eq, List.mem_eraseDups, List.mem_filterMap]

theorem isNone_group?_iff {name : String} :
    (t.group? name).isNone = true ↔ name ∉ t.groups.map VolumeGroup.name := by
  rw [Option.isNone_iff_eq_none, group?, List.find?_eq_none, List.mem_map]
  simp only [beq_iff_eq, not_exists, not_and]

/-- What is missing after some of the missing groups have been added are the others. Nothing
    else is looked at but the disks and the names of the groups. -/
theorem missingGroups_of_added (hdisks : t'.disks = t.disks)
    (hnames : t'.groups.map VolumeGroup.name = (t.groups ++ added).map VolumeGroup.name)
    (hmissing : t.missingGroups = added ++ rest) : t'.missingGroups = rest := by
  -- Of the groups that were missing those are left whose names have not been added.
  have hfiltered : t'.missingGroups =
      t.missingGroups.filter fun g => decide (g.name ∉ added.map VolumeGroup.name) := by
    -- What is waiting depends on the disks alone.
    have hpending : t'.pendingGroups = t.pendingGroups := by
      unfold pendingGroups pendingNames membersOfGroup members
      rw [hdisks]
    unfold missingGroups
    rw [hpending, List.filter_map, List.filter_filter]
    refine congrArg (List.map _) (List.filter_congr fun g _ => ?_)
    rw [Bool.eq_iff_iff, Bool.and_eq_true, isNone_group?_iff, isNone_group?_iff, hnames,
      List.map_append, List.mem_append, not_or, and_comm, Function.comp_apply, decide_eq_true_eq]
    rfl
  have hnodup := t.nodup_missingGroups.1
  rw [hmissing, List.map_append, List.nodup_append] at hnodup
  rw [hfiltered, hmissing, List.filter_append, List.filter_eq_nil_iff.mpr, List.nil_append,
    List.filter_eq_self.mpr]
  · -- The names that are missing differ, so those that are left over are no names of the added.
    intro g hg
    rw [decide_eq_true_eq]
    exact fun hname => hnodup.2.2 g.name hname g.name (List.mem_map_of_mem hg) rfl
  · intro g hg
    rw [decide_eq_true_eq, not_not]
    exact List.mem_map_of_mem hg

/-! ### Calls -/

/-- With nothing missing a call adds nothing and cannot fail. -/
theorem initializeGroups_eq_done (h : t.missingGroups = []) : t.initializeGroups = .done t () := by
  rw [initializeGroups, h, addGroups]

/-- Making volume groups only adds groups, behind those that are there, and leaves the disks
    alone. What is added are the groups that physical volumes name and that are not known, each
    of them once, up to the first whose size cannot be told. Whatever logical volumes come then,
    the others are what is missing still, so a call that has made all of them is the last one
    that does anything. -/
theorem initializeGroups_extends (t : Topology) :
    ∃ added rest, Makes t.missingGroups added rest t.initializeGroups.answer ∧
      t.initializeGroups.state = { t with groups := t.groups ++ added } ∧
      (added ++ rest).map VolumeGroup.name =
        t.pendingNames.filter (fun name => (t.group? name).isNone) ∧
      (∀ name, name ∈ t.pendingNames ↔
        ∃ v ∈ t.physicalVolumes, PhysicalVolume.group? v = some name) ∧
      ∀ volumes : List String,
        let s := t.initializeGroups.state.afterTokens (volumes.map fun token => (.logical, token))
        s.missingGroups = rest ∧
          (t.initializeGroups.answer = .ok () → s.initializeGroups = .done s ()) := by
  rcases addGroups_makes t.missingGroups t with ⟨added, rest, hmakes, hstate⟩
  refine ⟨added, rest, hmakes, hstate, ?_, fun _ => mem_pendingNames_iff, fun volumes => ?_⟩
  · rw [hmakes.append_eq, map_name_missingGroups]
  · intro s
    -- Logical volumes are made within groups, so neither disks nor names of groups change.
    have hchanges := afterTokens_changes .logical volumes t.initializeGroups.state
    have hdisks : s.disks = t.disks :=
      (Kind.disks_of_logical_changes hchanges).trans t.initializeGroups_disks
    have hnames : s.groups.map VolumeGroup.name = (t.groups ++ added).map VolumeGroup.name := by
      rw [Kind.names_of_changes hchanges, initializeGroups, hstate]
    have hrest := missingGroups_of_added hdisks hnames hmakes.append_eq.symm
    refine ⟨hrest, fun hok => initializeGroups_eq_done ?_⟩
    rw [hrest]
    -- A call that succeeds has left nothing over.
    change (addGroups t.missingGroups t).answer = _ at hok
    rw [hok] at hmakes
    exact hmakes.of_ok.2

end Topology

/-- A disk with a partition that has more sectors than can be written, and another one. -/
def Disk.ofVast : Disk :=
  { Disk.ofThree with partitions :=
      [.found 1 0 (Nat.pow 10 Decimal.digitLimit - 1 : Nat), .found 2 6000 6999] }

namespace Topology

/-- Two physical volumes for two groups. The first has the smallest size that cannot be
    written, so the second group is left to the second call. -/
theorem initializeGroups_ofVast :
    let t := Topology.afterTokens ⟨[.ofVast], []⟩
      [(.reuse, "sda:1:lvm=vg"), (.reuse, "sda:2:lvm=data")]
    let first := t.initializeGroups
    let second := first.state.initializeGroups
    t.pendingNames = ["vg", "data"] ∧ t.groups = [] ∧
      first.answer = .error (.numeral .writing) ∧
      first.state.groups.map VolumeGroup.name = ["vg"] ∧
      second.answer = .ok () ∧ second.state.groups.map VolumeGroup.name = ["vg", "data"] := by
  decide +kernel

end Topology

end DiskPlan
