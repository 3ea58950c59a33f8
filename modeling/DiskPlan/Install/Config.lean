import DiskPlan.Checked
import DiskPlan.Path

/-!
# What Is Installed

The parameters of the system that an installation puts on the disks.

## Main definitions

* `InstallConfig`: The parameters of an installation.
* `InstallConfig.ofJson`: The parameters in a JSON value.
-/

namespace DiskPlan

/-- The parameters of an installation: the image that is unpacked, the names that
    the new system gets, and the manifest of what is removed afterwards. -/
structure InstallConfig where
  image : Path
  hostname : String
  keyboard : String
  language : String
  manifest : Path
  deriving DecidableEq, Repr

namespace InstallConfig

/-- The path of a file. -/
def pathOfJson : Json → Checked Path
  | .text s => .value (.parse s)
  | _ => .expected .path

/-- A text of at least one character. -/
def filledText (v : Json) : Checked String :=
  (Checked.text v).ensure (1 ≤ ·.length) (.longerString 1)

/-- The parameters in a JSON value. -/
def ofJson (v : Json) : Checked InstallConfig :=
  (Checked.object v).refine fun fields =>
    mk <$> Checked.field "squashfs" pathOfJson fields
      <*> Checked.field "hostname"
        (fun v => (filledText v).ensure (·.length ≤ 63) (.shorterString 63)) fields
      <*> Checked.field "keyboard" filledText fields
      <*> Checked.field "lang" filledText fields
      <*> Checked.field "remove" pathOfJson fields

/-- The parameters as JSON. -/
def toJson (c : InstallConfig) : Json :=
  .object
    [("squashfs", .text c.image.text),
      ("hostname", .text c.hostname),
      ("keyboard", .text c.keyboard),
      ("lang", .text c.language),
      ("remove", .text c.manifest.text)]

end InstallConfig

end DiskPlan
