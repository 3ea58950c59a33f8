import DiskPlan.Disk

/-!
# Probes

Where disks come from.

A probe turns the name of a disk into the disk. It only reads, so all that it
leaves behind is its log. The probe of a layout answers from a list of disks
that is known beforehand.

## Main definitions

* `Probe`: A way to look disks up by name.
* `Probe.static`: The probe of a list of disks.
-/

namespace DiskPlan

/-- A way to look disks up by name. There may be no disk of a name. -/
structure Probe where
  name : String
  lookup : String → Outcome Unit (Option Disk)

namespace Probe

/-- The probe of a list of disks: the first disk with the name is found. -/
def static (disks : List Disk) : Probe where
  name := "static"
  lookup name :=
    match disks.find? fun d => d.isNamed name with
    | some d => .done () (some d)
    | none => (Outcome.done () none).logging [.diskNotInLayout name]

end Probe

end DiskPlan
