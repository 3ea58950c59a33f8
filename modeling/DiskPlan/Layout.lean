import DiskPlan.Checked
import DiskPlan.Json.Reader
import DiskPlan.Probe

/-!
# Layouts

The disks of a layout file.

A layout describes disks that need not be attached. A number can be left out
where there is a usual value, names of disks may omit `/dev/`, and the
filesystem of a partition is reported in any spelling. What is left out of a
partition is what a plan adds: a target, a mount point, a membership.

A partition whose fields are all valid is checked once more as a whole: it has
to end after it begins.

## Main definitions

* `PartitionLayout`, `DiskLayout`: The contents of a layout.
* `DiskLayout.toDisk?`: A disk of a layout.
* `Layout.ofJson`: The contents of a layout file.
* `Layout.load`: The probe of a layout file.
-/

namespace DiskPlan

/-- A partition in a layout. -/
structure PartitionLayout where
  number : Int
  first : Int
  last : Int
  role : Role
  filesystem : Option Filesystem
  name : Option Label
  flags : List Flag
  deriving DecidableEq, Repr

/-- A disk in a layout. It has no path if no name of a disk can be its path. -/
structure DiskLayout where
  path : Option String
  sectors : Int
  sectorSize : Int
  model : Label
  table : Option TableKind
  partitions : List PartitionLayout
  deriving DecidableEq, Repr

namespace PartitionLayout

/-- The filesystem of a partition, in any spelling. Anything but a text or null
    makes the whole file unusable. -/
def filesystemOfJson : Json → Checked (Option Filesystem)
  | .null => .value none
  | .text s => .value (some (.ofReport s))
  | .label l => .value (some (.ofReport l.repaired))
  | v => .halted (.misfit (.lacks v "lower"))

/-- A partition that has to end after it begins. -/
def isOrdered (p : PartitionLayout) : Bool :=
  p.first < p.last

/-- A partition of a layout file. -/
def ofJson (v : Json) : Checked PartitionLayout :=
  ((Checked.object v).refine fun fields =>
    mk <$> Checked.field "number" (fun v => (Checked.integer v).ensure (1 ≤ ·) (.atLeast 1)) fields
      <*> Checked.field "start_sector" sector fields
      <*> Checked.field "end_sector" sector fields
      <*> Checked.fieldOr "part_type" .primary (Checked.named Role.ofName?) fields
      <*> Checked.fieldOr "filesystem" none filesystemOfJson fields
      <*> Checked.fieldOr "name" none (Checked.optional Checked.label) fields
      <*> Checked.fieldOr "flags" [] (Checked.items (Checked.named Flag.ofName?)) fields).ensure
    isOrdered (.rule "start_sector must be before end_sector")
where
  /-- A sector. -/
  sector (v : Json) : Checked Int :=
    (Checked.integer v).ensure (0 ≤ ·) (.atLeast 0)

end PartitionLayout

namespace DiskLayout

/-- A disk of a layout file. -/
def ofJson (v : Json) : Checked DiskLayout :=
  (Checked.object v).refine fun fields =>
    mk <$> Checked.field "device_path"
        (fun v => (Checked.label v).map fun l => l.text?.map devicePath) fields
      <*> Checked.field "sectors"
        (fun v => (Checked.integer v).ensure (0 < ·) (.greaterThan 0)) fields
      <*> Checked.fieldOr "sector_size" 512
        (fun v => (Checked.integer v).ensure (512 ≤ ·) (.atLeast 512)) fields
      <*> Checked.fieldOr "model" (.ofString "Unknown") Checked.label fields
      <*> Checked.fieldOr "table" none
        (Checked.optional (Checked.named TableKind.ofName?)) fields
      <*> Checked.fieldOr "partitions" [] (Checked.items PartitionLayout.ofJson) fields

/-- A partition of a disk with a path. -/
def toPartition (path : String) (p : PartitionLayout) : Except Failure Partition := do
  return {
    path := ← Disk.partitionPath? path p.number
    number := p.number
    first := p.first
    last := p.last
    role := p.role
    filesystem := p.filesystem
    provenance := .existing
    target := none
    name := p.name
    mount := none
    keyId := none
    flags := p.flags
    membership := none
    removed := false }

/-- A disk of a layout, none if it has no path. Its partitions have to be numbered
    within the limit all the same. -/
def toDisk? (d : DiskLayout) : Except Failure (Option Disk) := do
  let partitions ← d.partitions.mapM (toPartition (d.path.getD ""))
  return d.path.map fun path => {
    path := path
    sectors := d.sectors
    sectorSize := d.sectorSize
    model := d.model
    table := d.table
    partitions := partitions
    relabeled := false }

end DiskLayout

namespace Layout

/-- The disks of a layout file. -/
def ofJson (v : Json) : Checked (List DiskLayout) :=
  (Checked.object v).refine (Checked.fieldOr "disks" [] (Checked.items DiskLayout.ofJson))

/-- The disks that the text of a layout file describes. -/
def parse (contents : String) : Except Failure (List DiskLayout) :=
  match Json.parse contents with
  | .error e => .error (.ofFault contents e)
  | .ok v => (ofJson v).result

/-- The probe of a layout file with a path and contents. -/
def load (path contents : String) : Outcome Unit Probe :=
  (Outcome.ofExcept () (parse contents)).andThen fun _ layout =>
    -- The file is told of before its disks are built, which can still fail.
    ((Outcome.ofExcept () (layout.mapM DiskLayout.toDisk?)).andThen fun _ disks =>
      .done () (.static (disks.filterMap id))).logging [.layoutLoaded path layout.length]

end Layout

end DiskPlan
