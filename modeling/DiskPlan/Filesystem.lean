import DiskPlan.Table
import DiskPlan.Text.Blank
import DiskPlan.Text.Lower

/-!
# Filesystems

The filesystems that a partition can hold, and their names.

Tokens name a filesystem exactly and may not name the three that are no
filesystems of their own: a physical volume, an encrypted volume, and what is
not known. Devices and layout files report a filesystem in whatever spelling the
system uses, so `ofReport` folds case, drops white space and knows four more
words; what it does not know is `unknown`, and no report is refused.

## Main definitions

* `Filesystem`: What a partition is formatted as.
* `Filesystem.isSelectable`: Whether a token may name it.
* `Filesystem.ofReport`: The filesystem of a reported name.

## Theorems

* `ofName?_name`, `ofReport_name`: A filesystem is found under its own name.
-/

namespace DiskPlan

/-- What a partition is formatted as. -/
inductive Filesystem where
  | btrfs
  | exfat
  | ext2
  | ext3
  | ext4
  | f2fs
  | fat16
  | fat32
  | ntfs
  | swap
  | xfs
  | lvm
  | luks
  | unknown
  deriving DecidableEq, Repr

namespace Filesystem

/-- Every filesystem. -/
def all : List Filesystem :=
  [btrfs, exfat, ext2, ext3, ext4, f2fs, fat16, fat32, ntfs, swap, xfs, lvm, luks, unknown]

/-- The name of a filesystem. -/
def name : Filesystem → String
  | btrfs => "btrfs"
  | exfat => "exfat"
  | ext2 => "ext2"
  | ext3 => "ext3"
  | ext4 => "ext4"
  | f2fs => "f2fs"
  | fat16 => "fat16"
  | fat32 => "fat32"
  | ntfs => "ntfs"
  | swap => "swap"
  | xfs => "xfs"
  | lvm => "lvm"
  | luks => "luks"
  | unknown => "unknown"

/-- The filesystem with a name. -/
def ofName? : String → Option Filesystem := ofNameIn? name all

/-- Whether a token may name a filesystem. Physical and encrypted volumes are
    asked for in another way, and nobody asks for the unknown. -/
def isSelectable : Filesystem → Bool
  | lvm | luks | unknown => false
  | _ => true

/-- The words that systems use for filesystems besides their names. -/
def reportWords : List (String × Filesystem) :=
  [("vfat", fat32), ("linux-swap", swap), ("lvm2_member", lvm), ("crypto_luks", luks)]

/-- The filesystem of a reported name, in any case and with white space
    around it. -/
def ofReport (s : String) : Filesystem :=
  let word := Text.stripped (Text.lower s)
  match ofName? word with
  | some fs => fs
  | none =>
    match reportWords.find? fun w => w.1 == word with
    | some (_, fs) => fs
    | none => unknown

theorem ofName?_name (fs : Filesystem) : ofName? fs.name = some fs := by
  cases fs <;> decide

theorem ofReport_name (fs : Filesystem) : ofReport fs.name = fs := by
  cases fs <;> decide +kernel

end Filesystem

end DiskPlan
