import DiskPlan.Outcome
import DiskPlan.Partition
import DiskPlan.Position

/-!
# Volume Groups

A volume group, and the logical volumes placed in it.

A volume group is a device like a disk, with two differences: it keeps no
sectors free, and its volumes have names instead of numbers that a person uses.
A volume without a name of its own gets one from its number. The bound on a
volume is the size of the group itself, not its last sector.

A new volume is told of in the log once it is there. Where its sectors are beyond
the limit on numerals that fails, and the volume stays all the same.

## Main definitions

* `VolumeGroup`: A volume group with its volumes.
* `VolumeGroup.lastSector?`: The last sector of the last volume.
* `VolumeGroup.add`: A new volume.

## Theorems

* `add_of_refused`: A volume that is refused leaves the group as it was.
* `add_of_placed`: One that is placed stays, even if it cannot be told of.
-/

namespace DiskPlan

/-- A volume group with its volumes. -/
structure VolumeGroup where
  name : String
  sectors : Int
  sectorSize : Int
  physicalVolumes : List String
  encryption : List Encryption
  partitions : List Partition
  deriving DecidableEq, Repr

/-- The path of a device that is mapped under a name. -/
def mappedPath (name : String) : String :=
  "/dev/mapper/" ++ name

namespace VolumeGroup

/-- A volume group of a size with nothing in it. -/
def empty (name : String) (sectors sectorSize : Int) : VolumeGroup :=
  ⟨name, sectors, sectorSize, [], [], []⟩

/-- The path of a volume group. -/
def path (g : VolumeGroup) : String :=
  mappedPath g.name

/-- The path of a volume with a name. -/
def volumePath (g : VolumeGroup) (volume : String) : String :=
  mappedPath g.name ++ "-" ++ volume

/-- The size of a volume group in bytes. -/
def bytes (g : VolumeGroup) : Int :=
  g.sectors * g.sectorSize

/-- The sector that a position stands for in a volume group. -/
def resolve? (g : VolumeGroup) (p : Position) : Except Failure Int :=
  p.resolve? g.sectors g.sectorSize 0

/-- The last sector of the last volume. -/
def lastSector? (g : VolumeGroup) : Option Int :=
  g.partitions.getLast?.map Partition.last

/-- The volume with a name. -/
def volume? (g : VolumeGroup) (name : String) : Option Partition :=
  g.partitions.find? fun p => p.name == some (.ofString name)

/-- The number of the next volume. -/
def nextNumber (g : VolumeGroup) : Nat :=
  g.partitions.length + 1

/-- The name that a volume gets if it is asked for with an optional name. -/
def chosenName (g : VolumeGroup) (name : Option String) : String :=
  match name.filter (· != "") with
  | some name => name
  | none => "lv" ++ g.nextNumber.repr

/-- The range from `first` to `last` has to be one and to end within the group. -/
def checkBounds (g : VolumeGroup) (first last : Int) : Except Failure Unit :=
  if last ≤ first then
    .error (.ofDisk (.invalidGeometry first last))
  else if g.sectors < last then
    .error (.ofDisk (.partitionOutOfBounds g.path first last g.sectors))
  else
    .ok ()

/-- A name has to be free. -/
def checkName (g : VolumeGroup) (name : String) : Except Failure Unit :=
  if (g.volume? name).isSome then .error (.ofDisk (.duplicateLogicalVolume g.name name))
  else .ok ()

/-- The range from `first` to `last` has to be free of volumes. -/
def checkOverlap (g : VolumeGroup) (first last : Int) : Except Failure Unit :=
  match g.partitions.find? fun p => p.Overlaps first last with
  | some p => .error (.ofDisk (.sectorOverlaps g.path p.number))
  | none => .ok ()

/-- The volume that a request gets, unless the group has no room for it. -/
def place (g : VolumeGroup) (r : Request) : Except Failure Partition := do
  g.checkBounds r.first r.last
  -- A generated name can be taken too, by a volume that was named by hand.
  let name := g.chosenName r.name
  g.checkName name
  g.checkOverlap r.first r.last
  return { r with name := some name }.build (g.volumePath name) g.nextNumber

/-- A new volume after the others. -/
def add (g : VolumeGroup) (r : Request) : Outcome VolumeGroup Partition :=
  match g.place r with
  | .error f => .fail g f
  | .ok p =>
    -- The volume is there by the time that it is told of.
    .telling { g with partitions := g.partitions ++ [p] }
      (.volumeAdded g.name (g.chosenName r.name) p.first p.last) p

theorem add_of_refused {g : VolumeGroup} {r : Request} {f : Failure}
    (h : g.place r = .error f) : g.add r = .fail g f := by
  unfold add
  rw [h]

theorem add_of_placed {g : VolumeGroup} {r : Request} {p : Partition} (h : g.place r = .ok p) :
    g.add r = .telling { g with partitions := g.partitions ++ [p] }
      (.volumeAdded g.name (g.chosenName r.name) p.first p.last) p := by
  unfold add
  rw [h]

end VolumeGroup

end DiskPlan
