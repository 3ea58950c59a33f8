import DiskPlan.Disk
import DiskPlan.Json.Reader

/-!
# Device Listings

The disks of a listing of block devices, as the system tool prints it in JSON.

Tools of different ages print the same listing with small differences. Numbers
come as numbers or as text, names with a path or without, and a field that says
nothing is absent or null. The reader takes all of it and falls back on a usual
value. What it cannot use is a value of a wrong kind where a text is needed,
which ends the reading with a `Misfit`.

The model of a disk is passed on with any lone halves of surrogate pairs. In all
the other texts they are replaced.

The number of a partition is the run of digits at the end of its path. A line
break may follow it.

## Main definitions

* `DeviceListing.blocks`: The devices of a listing.
* `DeviceListing.number`: A number in a listing.
* `DeviceListing.tableKind`: A kind of partition table in a listing.
* `DeviceListing.trailingNumber?`: The digits at the end of a path.
* `DeviceListing.partition?`: A partition in a listing.
* `DeviceListing.disk`: A disk in a listing.
-/

namespace DiskPlan

namespace DeviceListing

/-- A value whose type lacks a method that is called. -/
def unusable {α : Type} (v : Json) (method : String) : Except Failure α :=
  .error (.misfit (.lacks v method))

/-- The fields of a device. -/
def fieldsOf : Json → Except Failure Json.Fields
  | .object fields => .ok fields
  | v => unusable v "get"

/-- The values in a value that holds several: the items of a list, the names of
    the fields of an object, or the characters of a text. -/
def elements : Json → Except Failure (List Json)
  | .list items => .ok items
  | .object fields => .ok (fields.map fun f => .text f.1)
  | .text s => .ok (s.toList.map fun c => .text (String.singleton c))
  | .label l => .ok (l.glyphs.map fun g => .ofLabel ⟨[g]⟩)
  | v => .error (.misfit (.unfit v .items))

/-- The first of the values in a value that holds several, none if it counts as
    absent. -/
def firstElement? (v : Json) : Except Failure (Option Json) :=
  if !v.isTruthy then
    .ok none
  else
    match v with
    | .list items => .ok items.head?
    | .text s => .ok (s.toList.head?.map fun c => .text (String.singleton c))
    | .label l => .ok (l.glyphs.head?.map fun g => .ofLabel ⟨[g]⟩)
    | .object _ => .error (.misfit .noFirstItem)
    | v => .error (.misfit (.unfit v .item))

/-- The devices of a listing. A text that is not JSON lists none. -/
def blocks (output : String) : Except Failure Json :=
  match Json.parse output with
  | .error (.malformed _ _) => .ok (.list [])
  | .error fault => .error (.ofFault output fault)
  | .ok v => do return (Json.get? "blockdevices" (← fieldsOf v)).getD (.list [])

/-- A number in a listing, with a value in its absence. A fraction is cut off. -/
def number (absent : Int) : Json → Except Failure Int
  | .int n => .ok n
  | .bool b => .ok (if b then 1 else 0)
  | .text s => .ok ((Decimal.loose? s).getD absent)
  | .real (.infinite _) => .error (.misfit .infinite)
  | .real x => .ok (x.truncate?.getD absent)
  | _ => .ok absent

/-- A number in a field of a device. -/
def numberIn (absent : Int) (name : String) (fields : Json.Fields) : Except Failure Int :=
  number absent ((Json.get? name fields).getD .null)

/-- A label in a field of a device, none if it counts as absent. Whatever else stands there
    lacks the method that is called. -/
def labelIn? (method name : String) (fields : Json.Fields) : Except Failure (Option Label) :=
  match Json.get? name fields with
  | none => .ok none
  | some v =>
    if !v.isTruthy then
      .ok none
    else
      match v with
      | .text s => .ok (some (.ofString s))
      | .label l => .ok (some l)
      | v => unusable v method

/-- The path of a device. -/
def path (fields : Json.Fields) : Except Failure String :=
  match (Json.get? "path" fields).or (Json.get? "name" fields) with
  | none => .ok (devicePath "")
  | some (.text s) => .ok (devicePath s)
  | some (.label l) => .ok (devicePath l.repaired)
  | some v => unusable v "startswith"

/-- The kind of partition table that a word in a listing stands for. -/
def tableKindOf? (word : String) : Option TableKind :=
  let word := Text.lower word
  if word = "gpt" then some .gpt
  else if ["dos", "mbr", "msdos"].contains word then some .msdos
  else none

/-- A kind of partition table in a listing. -/
def tableKind (v : Json) : Except Failure (Option TableKind) :=
  if !v.isTruthy then
    .ok none
  else
    match v with
    | .text s => .ok (tableKindOf? s)
    | .label l => .ok (tableKindOf? l.repaired)
    | v => unusable v "lower"

/-- Whether a device is listed as a partition, or as nothing in particular. -/
def isPartition (fields : Json.Fields) : Bool :=
  match Json.get? "type" fields with
  | none => true
  | some (.text s) => ["part", "partition", ""].contains s
  | some _ => false

/-- A path without the line break at its end. -/
def withoutLineBreak (cs : List Char) : List Char :=
  if cs.getLast? = some '\n' then cs.dropLast else cs

/-- The digits at the end of a path, none if there are none. -/
def trailingDigits (path : String) : List Char :=
  ((withoutLineBreak path.toList).reverse.takeWhile Text.isDecimalDigit).reverse

/-- The number at the end of a path, none if there are no digits. -/
def trailingNumber? (path : String) : Option (Except Failure Nat) :=
  let digits := trailingDigits path
  if digits.isEmpty then none
  else if digits.length ≤ Decimal.digitLimit then some (.ok (Decimal.ofDecimalDigits digits))
  else some (.error (.numeral (.reading digits.length)))

/-- A number of bytes in whole sectors. -/
def inSectors (bytes sectorSize : Int) : Except Failure Int :=
  if sectorSize = 0 then .error .zeroDivisor else .ok (Int.fdiv bytes sectorSize)

/-- A partition in a listing, none if the device is something else. A partition
    is at least one sector long. -/
def partition? (v : Json) (sectorSize : Int) : Except Failure (Option Partition) := do
  let fields ← fieldsOf v
  let path ← path fields
  if !isPartition fields then
    return none
  match trailingNumber? path with
  | none => return none
  | some number =>
    -- The start is given in sectors and the size in bytes.
    let first ← numberIn 0 "start" fields
    let sectors ← inSectors (← numberIn 0 "size" fields) sectorSize
    -- The number is read after the sizes, so its length is the later fault.
    let number ← number
    let filesystem ← labelIn? "lower" "fstype" fields
    return some {
      path := path
      number := number
      first := first
      last := first + max sectors 1 - 1
      role := .primary
      filesystem := filesystem.map fun l => .ofReport l.repaired
      provenance := .existing
      target := none
      name := none
      mount := none
      keyId := none
      flags := []
      membership := none
      removed := false }

/-- The sector size of a device. Zero is as good as absent. -/
def sectorSize (fields : Json.Fields) : Except Failure Int := do
  let n ← numberIn 512 "log-sec" fields
  return if n = 0 then 512 else n

/-- The partitions of a disk. -/
def partitions (fields : Json.Fields) (sectorSize : Int) : Except Failure (List Partition) := do
  let children ← elements ((Json.get? "children" fields).getD (.list []))
  let found ← children.mapM fun child => partition? child sectorSize
  return found.filterMap id

/-- A disk in a listing. -/
def disk (v : Json) : Except Failure Disk := do
  let fields ← fieldsOf v
  let path ← path fields
  let sectorSize ← sectorSize fields
  let sectors ← inSectors (← numberIn 0 "size" fields) sectorSize
  let model ← labelIn? "strip" "model" fields
  let table ← tableKind ((Json.get? "pttype" fields).getD .null)
  let partitions ← partitions fields sectorSize
  return {
    path := path
    sectors := sectors
    sectorSize := sectorSize
    model := (model.map Label.stripped).getD (.ofString "Unknown")
    table := table
    partitions := partitions
    relabeled := false }

/-- The disks of a listing. -/
def disks (output : String) : Except Failure (List Disk) := do
  let devices ← elements (← blocks output)
  devices.mapM disk

end DeviceListing

end DiskPlan
