import DiskPlan.Operation.Description
import DiskPlan.Topology

/-!
# Effects of Operations

What operations do to a topology.

A token is read, its device is looked up, and the device is changed. Nothing is
undone when one of these fails. Most operations make at most one change, so they
happen as a whole or not at all. A deletion goes through its numbers one by one,
and a move that gives both ends moves first and resizes then, so these two can
stop halfway.

## Main definitions

* `DiskAction.run`, `NewVolume.run`: An action on its device.
* `Operation.run`: An operation on a topology.
* `applyToken`: A token on a topology.
* `applyTokens`: A list of tokens of one kind on a topology.
-/

namespace DiskPlan

namespace DiskAction

/-- Partitions marked for removal, one after the other. -/
def deleteAll (d : Disk) : List Nat → Outcome Disk Unit
  | [] => .done d ()
  | number :: rest =>
    (d.change number fun p => { p with removed := true }).andThen fun d _ =>
      (deleteAll d rest).logging [.partitionMarked d.path number]

/-- A partition moved to begin at a position, if one is given. -/
def moveTo (d : Disk) (number : Nat) : Option Position → Outcome Disk Unit
  | none => .done d ()
  | some position => (Outcome.ofExcept d (d.resolve? position)).andThen fun d first =>
    d.move number first

/-- A partition resized to end at a position, if one is given. -/
def resizeTo (d : Disk) (number : Nat) : Option Position → Outcome Disk Unit
  | none => .done d ()
  | some position => (Outcome.ofExcept d (d.resolve? position)).andThen fun d last =>
    d.resize number last

/-- A partition with new contents to come, or as it was. A partition that was a
    physical volume before keeps its membership under a plain filesystem. -/
def withContent (content : Option Content) (p : Partition) : Partition :=
  match content with
  | none => p
  -- The membership stays where it is: only the target says what becomes of it.
  | some (.plain fs) => { p with target := some fs }
  | some (.physicalVolume m) => { p with membership := some m, target := some .lvm }

/-- A partition with what suffix fields say about it. -/
def withSuffix (suffix : Suffix) (p : Partition) : Partition :=
  let q := match suffix.mount with
    | none => p
    | some mount => p.mountedAt suffix.keyId mount
  match suffix.flags with
  | none => q
  | some flags => { q with flags := flags }

/-- The request for a new partition between two sectors. -/
def request (role : Role) (content : Content) (suffix : Suffix) (first last : Int) :
    Request where
  first := first
  last := last
  filesystem := content.target
  role := role
  name := none
  mount := suffix.mount
  keyId := suffix.keyId
  flags := suffix.flags.getD []
  membership := content.membership?

/-- The two sectors that a pair of positions stands for. -/
def range (d : Disk) (first last : Position) : Except Failure (Int × Int) := do
  let first ← d.resolve? first
  let last ← d.resolve? last
  return (first, last)

/-- An action on its disk. -/
def run : DiskAction → Disk → Outcome Disk Unit
  | relabel table, d => d.relabel table
  | delete numbers, d => deleteAll d numbers
  | move number first last, d =>
    -- The partition has to exist even if neither end is given.
    ((Outcome.ofExcept d (d.requirePartition number)).andThen fun d _ =>
      moveTo d number first).andThen fun d _ =>
        resizeTo d number last
  | reuse number content suffix, d => d.change number (withSuffix suffix ∘ withContent content)
  | create role first last content suffix, d =>
    (Outcome.ofExcept d (range d first last)).andThen fun d (first, last) =>
      (d.add (request role content suffix first last)).andThen fun d _ => .done d ()

end DiskAction

namespace NewVolume

/-- The request for a logical volume between two sectors. -/
def request (v : NewVolume) (first last : Int) : Request where
  first := first
  last := last
  filesystem := v.filesystem
  role := .primary
  name := some v.name
  mount := v.mount
  keyId := none
  flags := v.flags.getD []
  membership := none

/-- The first sector of the next volume of a group. -/
def firstSector (g : VolumeGroup) : Int :=
  match g.lastSector? with
  | none => 0
  | some last => last + 1

/-- The event of a volume that is to be mounted. -/
def mounted (v : NewVolume) : List Event :=
  (v.mount.map fun mount => .volumeMounted v.name mount).toList

/-- A new volume in its group, right behind the last one. -/
def run (v : NewVolume) (g : VolumeGroup) : Outcome VolumeGroup Unit :=
  (Outcome.ofExcept g (g.resolve? v.size)).andThen fun g size =>
    ((g.add (v.request (firstSector g) (firstSector g + size))).andThen fun g _ =>
      .done g ()).logging v.mounted

end NewVolume

/-- An operation on a topology. -/
def Operation.run : Operation → Topology → Outcome Topology Unit
  | onDisk disk action, t => t.onDisk disk action.run
  | onGroup group volume, t => t.onGroup group volume.run

/-- What a token of a kind says, carried out on a topology. -/
def Reading.run (kind : Kind) (r : Reading) (t : Topology) : Outcome Topology Unit :=
  ((Outcome.ofExcept t r.operation).andThen fun t op =>
    (op.run t).logging [.operationApplied kind.name op.describe]).logging
      (r.ignoredFlags.map .flagIgnored)

/-- A token of a kind on a topology. A failure records the token. -/
def applyToken (kind : Kind) (token : String) (t : Topology) : Outcome Topology Unit :=
  ((Operation.read kind token).run kind t).within ⟨kind.name, token⟩

/-- A list of tokens of one kind on a topology, one after the other. -/
def applyTokens (kind : Kind) : List String → Topology → Outcome Topology Unit
  | [], t => .done t ()
  | token :: rest, t => (applyToken kind token t).andThen fun t _ => applyTokens kind rest t

end DiskPlan
