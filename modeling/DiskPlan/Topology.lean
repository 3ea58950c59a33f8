import DiskPlan.Disk
import DiskPlan.VolumeGroup

/-!
# Topologies

The disks of a plan and the volume groups made of their partitions.

A volume group comes into being when the partitions that are to be its physical
volumes are collected. The groups are found in the order in which the disks and
their partitions first name them, and a group that is known already is left
alone, however many more partitions name it.

A group is told of in the log with its size. A size beyond the limit on numerals
cannot be written there, so such a group ends the work, with the group made and
the groups after it not.

A change of one device is a change of the topology: `onDisk` and `onGroup` look
the device up, change it, and put it back where it stood.

## Main definitions

* `Topology`: Disks and volume groups.
* `Topology.onDisk`, `Topology.onGroup`: The change of one device.
* `Topology.addDisk`: A disk after the others.
* `Topology.pendingGroups`: The partitions that are to be physical volumes, by
  group.
* `Topology.initializeGroups`: The volume groups that the partitions ask for.

## Theorems

* `initializeGroups_disks`: Making volume groups leaves the disks alone.
-/

namespace DiskPlan

/-- Disks, and volume groups under their names. -/
structure Topology where
  disks : List Disk
  groups : List VolumeGroup
  deriving DecidableEq, Repr

/-- A partition that is to be a physical volume: its group, the disk it is on,
    and the partition itself. -/
structure Member where
  group : String
  disk : Disk
  partition : Partition
  deriving DecidableEq, Repr

namespace Member

/-- The sectors of 512 bytes that a physical volume brings into its group. -/
def sectors (m : Member) : Int :=
  Int.fdiv (m.partition.sectors * m.disk.sectorSize) 512

/-- How a physical volume is encrypted. -/
def encryption? (m : Member) : Option Encryption :=
  m.partition.membership.bind Membership.encryption

/-- The device that a physical volume is, after it has been opened. -/
def device (m : Member) : String :=
  match m.encryption? with
  | some e => mappedPath e.physicalVolume
  | none => m.partition.path

end Member

/-- The volume group that physical volumes make. -/
def VolumeGroup.ofMembers (name : String) (members : List Member) : VolumeGroup where
  name := name
  sectors := (members.map Member.sectors).foldr (· + ·) 0
  sectorSize := 512
  physicalVolumes := members.map Member.device
  encryption := members.filterMap Member.encryption?
  partitions := []

namespace Topology

/-- No disks and no volume groups. -/
def empty : Topology := ⟨[], []⟩

/-- The first disk with a name. -/
def disk? (t : Topology) (name : String) : Option Disk :=
  t.disks.find? fun d => d.isNamed name

/-- The volume group with a name. -/
def group? (t : Topology) (name : String) : Option VolumeGroup :=
  t.groups.find? fun g => g.name == name

/-- The change of one disk, which has to exist. -/
def onDisk {α : Type} (t : Topology) (name : String) (change : Disk → Outcome Disk α) :
    Outcome Topology α :=
  match t.disk? name with
  | none => .fail t (.ofLookup (.diskNotFound name))
  | some d =>
    (change d).lift fun d' =>
      { t with disks := updateFirst (fun d => d.isNamed name) (fun _ => d') t.disks }

/-- The change of one volume group, which has to exist. -/
def onGroup {α : Type} (t : Topology) (name : String)
    (change : VolumeGroup → Outcome VolumeGroup α) : Outcome Topology α :=
  match t.group? name with
  | none => .fail t (.ofLookup (.volumeGroupNotFound name))
  | some g =>
    (change g).lift fun g' =>
      { t with groups := updateFirst (fun g => g.name == name) (fun _ => g') t.groups }

/-- A disk after the others. -/
def addDisk (t : Topology) (d : Disk) : Outcome Topology Unit where
  state := { t with disks := t.disks ++ [d] }
  log := [.diskAdded d.path]
  answer := .ok ()

/-- A volume group in the place of the one with its name, or after the others. -/
def putGroup (t : Topology) (g : VolumeGroup) : Topology :=
  if (t.group? g.name).isSome then
    { t with groups := updateFirst (fun h => h.name == g.name) (fun _ => g) t.groups }
  else
    { t with groups := t.groups ++ [g] }

/-- The physical volumes that a disk is to hold. -/
def membersOf (d : Disk) : List Member :=
  -- A membership without the target of a physical volume does not count.
  d.active.filterMap fun p =>
    if p.isPhysicalVolume then p.membership.map fun m => ⟨m.group, d, p⟩ else none

/-- The physical volumes that the disks are to hold, in their order. -/
def members (t : Topology) : List Member :=
  t.disks.flatMap membersOf

/-- The groups that the partitions name, in the order of first appearance. -/
def pendingNames (t : Topology) : List String :=
  (t.members.map Member.group).eraseDups

/-- The physical volumes of a group. -/
def membersOfGroup (t : Topology) (name : String) : List Member :=
  t.members.filter fun m => m.group == name

/-- The physical volumes by group, in the order of first appearance. -/
def pendingGroups (t : Topology) : List (String × List Member) :=
  t.pendingNames.map fun name => (name, t.membersOfGroup name)

/-- The volume groups that the partitions name and that are not known yet. -/
def missingGroups (t : Topology) : List VolumeGroup :=
  (t.pendingGroups.filter fun g => (t.group? g.1).isNone).map fun g =>
    .ofMembers g.1 g.2

/-- Volume groups after those of a topology, as long as they can be told of. -/
def addGroups : List VolumeGroup → Topology → Outcome Topology Unit
  | [], t => .done t ()
  | g :: rest, t =>
    let t := { t with groups := t.groups ++ [g] }
    if Decimal.isWritable g.sectors then
      (addGroups rest t).logging [.groupInitialized g.name g.physicalVolumes g.sectors]
    else
      .fail t (.numeral .writing)

/-- The volume groups that the partitions ask for, after those already known. -/
def initializeGroups (t : Topology) : Outcome Topology Unit :=
  addGroups t.missingGroups t

theorem addGroups_disks (gs : List VolumeGroup) :
    ∀ t : Topology, (addGroups gs t).state.disks = t.disks := by
  induction gs with
  | nil => exact fun _ => rfl
  | cons g rest ih =>
    intro t
    unfold addGroups
    split
    · exact ih _
    · rfl

@[simp]
theorem initializeGroups_disks (t : Topology) : t.initializeGroups.state.disks = t.disks :=
  addGroups_disks _ t

end Topology

end DiskPlan
