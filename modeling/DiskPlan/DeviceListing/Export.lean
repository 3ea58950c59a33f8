import DiskPlan.DeviceListing
import DiskPlan.Topology.Export

/-!
# Device Listings as JSON

The devices of a listing, as they are shown again.

A listing may give a number as a truth value, which counts as zero or one. When
the number is shown as it was given, it is shown as the truth value; what is
computed from it is a number. Besides this a device is shown like one of a plan.

## Main definitions

* `DeviceListing.numberJson`: A number of a listing.
* `DeviceListing.partitionJson?`: A partition of a listing.
* `DeviceListing.diskJson`: A disk of a listing.
* `DeviceListing.firstDiskJson?`: The first disk of a listing.
-/

namespace DiskPlan

namespace DeviceListing

/-- A number in a listing as it is shown. -/
def numberJson (absent : Int) : Json → Except Failure Json
  | .bool b => .ok (.bool b)
  | v => (number absent v).map .int

/-- An object with the truth value of a field of a device in place of the number
    that was read from it. -/
def showTruth (name : String) (given : Option Json) : Json → Json
  | .object shown =>
    match given with
    | some (.bool b) => .object (Json.put name (.bool b) shown)
    | _ => .object shown
  | v => v

/-- A partition in a listing as it is shown, none if the device is something
    else. -/
def partitionJson? (v : Json) (sectorSize : Int) : Except Failure (Option Json) := do
  let fields ← fieldsOf v
  let partition ← partition? v sectorSize
  return partition.map fun p => showTruth "start_sector" (Json.get? "start" fields) p.toJson

/-- The sector size of a device, if it is given and not as good as absent. -/
def givenSectorSize (fields : Json.Fields) : Option Json :=
  (Json.get? "log-sec" fields).filter Json.isTruthy

/-- A disk in a listing as it is shown. -/
def diskJson (v : Json) : Except Failure Json := do
  let fields ← fieldsOf v
  let d ← disk v
  let children ← elements ((Json.get? "children" fields).getD (.list []))
  let partitions ← children.mapM fun child => partitionJson? child d.sectorSize
  match d.toJson with
  | .object shown =>
    return showTruth "sector_size" (givenSectorSize fields)
      (.object (Json.put "partitions" (.list (partitions.filterMap id)) shown))
  | shown => return shown

/-- The disks of a listing as they are shown. -/
def disksJson (output : String) : Except Failure (List Json) := do
  let devices ← elements (← blocks output)
  devices.mapM diskJson

/-- The first disk of a listing as it is shown, if there is one. -/
def firstDiskJson? (output : String) : Except Failure (Option Json) := do
  match ← firstElement? (← blocks output) with
  | none => return none
  | some v => return some (← diskJson v)

end DeviceListing

end DiskPlan
