import DiskPlan.ByteSize
import DiskPlan.Console
import DiskPlan.Topology

/-!
# The Table of a Plan

A plan as a table for reading: a row for each device and, below it, a row for
each of its partitions, which says what is to become of it.

A row holds values, and `cells` spells them out as the console shows them: names
are escaped, and that of a device is set in bold. A number beyond the limit on
numerals cannot be spelled out, nor can a size beyond the range of a double.

## Main definitions

* `Change`: What is to become of a device or a partition.
* `Row`: A row of the table.
* `Topology.rows`: The rows of a plan.
* `Row.cells`: The texts of a row.
-/

namespace DiskPlan

/-- What is to become of a device or a partition. -/
inductive Change where
  | none
  | newTable
  | newGroup
  | remove
  | create
  | format
  | keep
  deriving DecidableEq, Repr

/-- A change in words. -/
def Change.name : Change → String
  | none => ""
  | newTable => "new table"
  | newGroup => "new volume group"
  | remove => "remove"
  | create => "create"
  | format => "format"
  | keep => "keep"

/-- The sectors of a row: how many a device has, or which ones a partition
    occupies. -/
inductive Extent where
  | whole (sectors : Int)
  | range (first last : Int)
  deriving DecidableEq, Repr

/-- A row of the table. -/
structure Row where
  path : String
  isDevice : Bool
  extent : Extent
  bytes : Int
  contents : Option String
  mount : Option Path
  flags : List Flag
  change : Change
  deriving DecidableEq, Repr

/-- What is to become of a partition. -/
def Partition.change (p : Partition) : Change :=
  if p.removed then .remove
  else if p.provenance = .new then .create
  else if p.target.isSome then .format
  else .keep

/-- The row of a partition of a disk. -/
def Partition.row (p : Partition) (sectorSize : Int) : Row where
  path := p.path
  isDevice := false
  extent := .range p.first p.last
  bytes := p.sectors * sectorSize
  contents := (p.target.or p.filesystem).map Filesystem.name
  mount := p.mount
  flags := p.flags
  change := p.change

/-- The row of a logical volume. -/
def Partition.volumeRow (p : Partition) (sectorSize : Int) : Row :=
  { p.row sectorSize with contents := p.target.map Filesystem.name, change := .create }

/-- The rows of a disk. -/
def Disk.rows (d : Disk) : List Row :=
  { path := d.path
    isDevice := true
    extent := .whole d.sectors
    bytes := d.bytes
    contents := d.table.map TableKind.name
    mount := none
    flags := []
    change := if d.relabeled then .newTable else .none } ::
  d.partitions.map fun p => p.row d.sectorSize

/-- The rows of a volume group. -/
def VolumeGroup.rows (g : VolumeGroup) : List Row :=
  { path := g.path
    isDevice := true
    extent := .whole g.sectors
    bytes := g.bytes
    contents := some Filesystem.lvm.name
    mount := none
    flags := []
    change := .newGroup } ::
  g.partitions.map fun p => p.volumeRow g.sectorSize

/-- The rows of a plan. -/
def Topology.rows (t : Topology) : List Row :=
  t.disks.flatMap Disk.rows ++ t.groups.flatMap VolumeGroup.rows

namespace Row

/-- The title of the table. -/
def tableTitle : String := "Partitioning Plan"

/-- The headings of the columns. -/
def headings : List String :=
  ["Device", "Sectors", "Size", "Filesystem", "Mount", "Flags", "Action"]

/-- A number as text. -/
def numeral (n : Int) : Except Failure String :=
  (Decimal.write n).mapError .numeral

/-- The sectors of a row as text. -/
def extentText : Extent → Except Failure String
  | .whole sectors => numeral sectors
  | .range first last => do return (← numeral first) ++ "-" ++ (← numeral last)

/-- The size of a row as text. -/
def sizeText (bytes : Int) : Except Failure String :=
  match ByteSize.text? bytes with
  | some s => .ok s
  | none => .error (.misfit .beyondDouble)

/-- A name as it is shown on its own. -/
def nameText (s : String) : String :=
  Console.shown (Markup.escape s)

/-- The device of a row, in bold, or set in if it is a partition. -/
def device (r : Row) : String :=
  Console.shown (if r.isDevice then "[bold]" ++ Markup.escape r.path ++ "[/bold]"
    else "  " ++ Markup.escape r.path)

/-- The texts of a row. -/
def cells (r : Row) : Except Failure (List String) := do
  let sectors ← extentText r.extent
  let size ← sizeText r.bytes
  return [r.device, sectors, size, r.contents.getD "-",
    (r.mount.map fun p => nameText p.text).getD "",
    ",".intercalate (r.flags.map Flag.name), r.change.name]

end Row

/-- The texts of the table of a plan. -/
def Topology.tableCells (t : Topology) : Except Failure (List (List String)) :=
  t.rows.mapM Row.cells

end DiskPlan
