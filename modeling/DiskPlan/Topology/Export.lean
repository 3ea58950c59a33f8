import DiskPlan.Json
import DiskPlan.Topology

/-!
# Topologies as JSON

The JSON form of a plan: every field of every device, in a fixed order.

A passphrase is never written; in its place stands whether there is one.

## Main definitions

* `Partition.toJson`, `Disk.toJson`, `VolumeGroup.toJson`: The parts of a plan.
* `Topology.toJson`: A plan.
-/

namespace DiskPlan

/-- An encryption as JSON, without its passphrase. -/
def Encryption.toJson (e : Encryption) : Json :=
  .object
    [("physical_volume", .text e.physicalVolume),
      ("password", .bool e.passphrase.isSome),
      ("keydata", .ofText? e.keyFile)]

/-- A membership as JSON. -/
def Membership.toJson (m : Membership) : Json :=
  .object
    [("group", .text m.group),
      ("encryption", (m.encryption.map Encryption.toJson).getD .null)]

/-- A partition or a logical volume as JSON. -/
def Partition.toJson (p : Partition) : Json :=
  .object
    [("device_path", .text p.path),
      ("number", .int p.number),
      ("name", (p.name.map Json.ofLabel).getD .null),
      ("start_sector", .int p.first),
      ("end_sector", .int p.last),
      ("part_type", .text p.role.name),
      ("source", .text p.provenance.name),
      ("filesystem", .ofText? (p.filesystem.map Filesystem.name)),
      ("target", .ofText? (p.target.map Filesystem.name)),
      ("mount_point", .ofText? (p.mount.map Path.text)),
      ("key_id", .ofText? p.keyId),
      ("flags", .list (p.flags.map fun f => .text f.name)),
      ("volume_group", (p.membership.map Membership.toJson).getD .null),
      ("remove", .bool p.removed)]

/-- A disk as JSON. -/
def Disk.toJson (d : Disk) : Json :=
  .object
    [("device_path", .text d.path),
      ("model", .ofLabel d.model),
      ("sectors", .int d.sectors),
      ("sector_size", .int d.sectorSize),
      ("size_bytes", .int d.bytes),
      ("table", .ofText? (d.table.map TableKind.name)),
      ("relabeled", .bool d.relabeled),
      ("partitions", .list (d.partitions.map Partition.toJson))]

/-- A volume group as JSON. -/
def VolumeGroup.toJson (g : VolumeGroup) : Json :=
  .object
    [("volume_group", .text g.name),
      ("device_path", .text g.path),
      ("sectors", .int g.sectors),
      ("sector_size", .int g.sectorSize),
      ("size_bytes", .int g.bytes),
      ("physical_volumes", .list (g.physicalVolumes.map .text)),
      ("encryption", .list (g.encryption.map Encryption.toJson)),
      ("partitions", .list (g.partitions.map Partition.toJson))]

/-- A plan as JSON. -/
def Topology.toJson (t : Topology) : Json :=
  .object
    [("disks", .list (t.disks.map Disk.toJson)),
      ("volume_groups", .list (t.groups.map VolumeGroup.toJson))]

end DiskPlan
