import DiskPlan.Filesystem
import DiskPlan.Flag
import DiskPlan.Path
import DiskPlan.Text.Label

/-!
# Partitions

A partition of a disk, a volume of a volume group, and the request for a new one.

A partition occupies an inclusive range of sectors. What it holds now, its
filesystem, is kept apart from what it is to be formatted as, its target, so that
a plan can say which partitions it touches. A partition that is to be removed
stays where it is and is only marked, which keeps its number taken.

## Main definitions

* `Encryption`: How a physical volume is encrypted.
* `Membership`: The volume group that a partition belongs to.
* `Partition`: A partition or a logical volume.
* `Partition.Overlaps`: Sharing a sector with a range.
* `Request`: What is asked for in a new partition.
* `Request.build`: The partition that answers a request.
-/

namespace DiskPlan

/-- How a physical volume is encrypted: the name it is opened under, and the
    passphrase or the key file that opens it. -/
structure Encryption where
  physicalVolume : String
  passphrase : Option String
  keyFile : Option String
  deriving DecidableEq, Repr

/-- The volume group that a partition belongs to. -/
structure Membership where
  group : String
  encryption : Option Encryption
  deriving DecidableEq, Repr

/-- Whether a partition is on the device already or is only asked for. -/
inductive Provenance where
  | existing
  | new
  deriving DecidableEq, Repr

/-- The name of a provenance. -/
def Provenance.name : Provenance → String
  | existing => "EXISTING"
  | new => "NEW"

/-- A partition of a disk or a logical volume of a volume group. -/
structure Partition where
  path : String
  number : Int
  first : Int
  last : Int
  role : Role
  filesystem : Option Filesystem
  provenance : Provenance
  target : Option Filesystem
  name : Option Label
  mount : Option Path
  keyId : Option String
  flags : List Flag
  membership : Option Membership
  removed : Bool
  deriving DecidableEq, Repr

namespace Partition

/-- The number of sectors that a partition occupies. -/
def sectors (p : Partition) : Int :=
  p.last - p.first + 1

/-- Whether a partition is to become a physical volume of a volume group. -/
def isPhysicalVolume (p : Partition) : Bool :=
  p.membership.isSome && p.target == some .lvm

/-- Sharing a sector with the range from `first` to `last`. -/
def Overlaps (p : Partition) (first last : Int) : Prop :=
  first ≤ p.last ∧ p.first ≤ last

instance (p : Partition) (first last : Int) : Decidable (p.Overlaps first last) :=
  inferInstanceAs (Decidable (_ ∧ _))

/-- A partition mounted at a path, with a key if one is given. -/
def mountedAt (p : Partition) (keyId : Option String) (mount : Path) : Partition :=
  match keyId with
  | none => { p with mount := some mount }
  | some key => { p with keyId := some key, mount := some mount }

end Partition

/-- What is asked for in a new partition. -/
structure Request where
  first : Int
  last : Int
  filesystem : Filesystem
  role : Role
  name : Option String
  mount : Option Path
  keyId : Option String
  flags : List Flag
  membership : Option Membership
  deriving DecidableEq, Repr

namespace Request

/-- The partition that answers a request, at a path and with a number. -/
def build (r : Request) (path : String) (number : Int) : Partition where
  path := path
  number := number
  first := r.first
  last := r.last
  role := r.role
  filesystem := none
  provenance := .new
  target := some r.filesystem
  name := r.name.map .ofString
  mount := r.mount
  keyId := r.keyId
  flags := r.flags
  membership := r.membership
  removed := false

end Request

end DiskPlan
