import DiskPlan.Failure
import DiskPlan.Filesystem
import DiskPlan.Json.Writer
import DiskPlan.Path

/-!
# Events

What the program logs while it works.

An event is a fact, with the values it is about; the words, the level and the
part of the program it is logged under follow from it. `record` spells an event
out, as a list of named fields, and masks the fields that are named for
passphrases before anything leaves the program. A field that is named like a part
of the record itself gives way to that part.

A stage brackets a stretch of work: it is started once and then either completed
or failed, with the same context each time. A stage that fails tells the failure
and, if one is recorded, the token that it arose from. The context must leave the
names alone that the log needs to tell all this.

## Main definitions

* `Level`, `Source`: How grave an event is, and which part of the program logs it.
* `Stage`: A stretch of work.
* `Event`: Something worth logging.
* `Record`: An event spelled out.
* `redact`: Fields with the passphrases masked.
* `Event.record`: The record of an event.
* `Event.isWritable`: Whether an event can be written.
* `Stage.openingMisfit?`: What keeps a stage from being started.

## Theorems

* `redact_eq_self`: Fields that are not named for passphrases stay as they are.
* `withoutOwnNames_eq_self`: Nor does a field with a name of its own give way.
-/

namespace DiskPlan

/-- How grave an event is. -/
inductive Level where
  | debug
  | info
  | warning
  | error
  deriving DecidableEq, Repr

/-- The name of a level. -/
def Level.name : Level → String
  | debug => "debug"
  | info => "info"
  | warning => "warning"
  | error => "error"

/-- The part of the program that logs an event. -/
inductive Source where
  | program
  | flags
  | operations
  | pipeline
  | topology
  | layout
  | probe
  | install
  deriving DecidableEq, Repr

/-- The name of a part of the program in the log. -/
def Source.name : Source → String
  | program => "diskspec"
  | flags => "diskspec.spec.flags"
  | operations => "diskspec.spec.operations"
  | pipeline => "diskspec.spec.pipeline"
  | topology => "diskspec.core.topology"
  | layout => "diskspec.platform.static"
  | probe => "diskspec.platform.linux.probe"
  | install => "diskspec.core.install"

/-- A stretch of work: where it happens, what it is called, and what it is
    about. -/
structure Stage where
  source : Source
  title : String
  context : Json.Fields

/-- Something worth logging. -/
inductive Event where
  | stageStarted (stage : Stage)
  | stageCompleted (stage : Stage)
  | stageFailed (stage : Stage) (failure : Failure)
  | flagIgnored (name : String)
  | operationApplied (kind operation : String)
  | partitionMarked (disk : String) (number : Int)
  | volumeMounted (name : String) (mount : Path)
  | diskAdded (disk : String)
  | tableReplaced (disk : String) (table : TableKind) (dropped : Nat)
  | partitionMoved (disk : String) (number first last : Int)
  | partitionResized (disk : String) (number last : Int)
  | partitionAdded (disk : String) (number first last : Int) (filesystem : Filesystem)
  | volumeAdded (group name : String) (first last : Int)
  | groupInitialized (group : String) (physicalVolumes : List String) (sectors : Int)
  | disksConfigured (disks : Nat) (groups : List String)
  | layoutLoaded (path : String) (disks : Nat)
  | diskNotInLayout (disk : String)
  | commandStarted (command : List String)
  | commandFailed (command : List String) (status : Int) (errors : String)
  | diskProbed (disk : String) (sectors : Int) (partitions : Nat)
  | wouldInstall (image : Path) (hostname keyboard language : String)
  | wouldWriteTable (disk : String) (table : TableKind)
  | wouldRemove (partition : String)
  | wouldFormat (partition : String) (filesystem : Filesystem) (mount : Option Path)
  | wouldCreateGroup (group : String) (physicalVolumes : List String)
      (volumes : List (Option Label))
  | wouldExtract (image : Path)
  | wouldConfigure (manifest : Path) (language : String)
  | wouldInstallBootloader
  | partitioningTested

/-- An event spelled out. -/
structure Record where
  event : String
  level : Level
  source : Source
  fields : Json.Fields

/-- The names of fields that hold a passphrase. -/
def secretNames : List String := ["password", "passphrase", "pass"]

/-- Fields with the passphrases masked. A passphrase that is not there stays
    visibly absent. -/
def redact (fields : Json.Fields) : Json.Fields :=
  fields.map fun f =>
    if secretNames.contains f.1 && f.2.isTruthy then (f.1, .text "***") else f

theorem redact_eq_self {fields : Json.Fields} (h : ∀ f ∈ fields, f.1 ∉ secretNames) :
    redact fields = fields := by
  unfold redact
  rw [List.map_congr_left (g := id), List.map_id]
  intro f hf
  have hc := h f hf
  simp [hc]

/-- The names of the parts of a record, and of the fields that ask for a trace of
    the program, which is not kept. -/
def ownNames : List String :=
  ["event", "level", "logger", "timestamp", "exc_info", "stack_info"]

/-- Fields without those that give way to a part of the record. -/
def withoutOwnNames (fields : Json.Fields) : Json.Fields :=
  fields.filter fun f => !ownNames.contains f.1

theorem withoutOwnNames_eq_self {fields : Json.Fields} (h : ∀ f ∈ fields, f.1 ∉ ownNames) :
    withoutOwnNames fields = fields := by
  unfold withoutOwnNames
  rw [List.filter_eq_self]
  intro f hf
  simp [h f hf]

namespace Event

/-- A list of texts as a value. -/
def texts (xs : List String) : Json := .list (xs.map .text)

/-- The fields of a failed stage, besides its context. -/
def failureFields (f : Failure) : Json.Fields :=
  [("error_type", .text f.name), ("error", .ofText? f.message?)] ++
    match f.origin? with
    | none => []
    | some o => [("operation", .text o.kind), ("token", .text o.token)]

/-- The words, the level, the source and the fields of an event. -/
def spelled : Event → Record
  | stageStarted s =>
    ⟨"stage started", .info, s.source, ("stage", .text s.title) :: s.context⟩
  | stageCompleted s =>
    ⟨"stage completed", .info, s.source, ("stage", .text s.title) :: s.context⟩
  | stageFailed s f =>
    ⟨"stage failed", .error, s.source,
      ("stage", .text s.title) :: (failureFields f ++ s.context)⟩
  | flagIgnored name =>
    ⟨"Ignoring unknown partition flag", .debug, .flags, [("flag", .text name)]⟩
  | operationApplied kind operation =>
    ⟨"Applying operation", .debug, .operations,
      [("kind", .text kind), ("operation", .text operation)]⟩
  | partitionMarked disk number =>
    ⟨"Marked partition for removal", .debug, .operations,
      [("disk", .text disk), ("number", .int number)]⟩
  | volumeMounted name mount =>
    ⟨"Logical volume mount point", .debug, .operations,
      [("name", .text name), ("mount", .text mount.text)]⟩
  | diskAdded disk => ⟨"Adding disk to configuration", .info, .topology, [("disk", .text disk)]⟩
  | tableReplaced disk table dropped =>
    ⟨"Replacing partition table", .info, .topology,
      [("disk", .text disk), ("table", .text table.name), ("dropped", .int dropped)]⟩
  | partitionMoved disk number first last =>
    ⟨"Moving partition", .debug, .topology,
      [("disk", .text disk), ("number", .int number), ("start", .int first), ("end", .int last)]⟩
  | partitionResized disk number last =>
    ⟨"Resizing partition", .debug, .topology,
      [("disk", .text disk), ("number", .int number), ("end", .int last)]⟩
  | partitionAdded disk number first last filesystem =>
    ⟨"Added partition", .debug, .topology,
      [("disk", .text disk), ("number", .int number), ("start", .int first), ("end", .int last),
        ("filesystem", .text filesystem.name)]⟩
  | volumeAdded group name first last =>
    ⟨"Added logical volume", .debug, .topology,
      [("volume_group", .text group), ("name", .text name), ("start", .int first),
        ("end", .int last)]⟩
  | groupInitialized group physicalVolumes sectors =>
    ⟨"Initialized volume group", .info, .topology,
      [("volume_group", .text group), ("physical_volumes", texts physicalVolumes),
        ("sectors", .int sectors)]⟩
  | disksConfigured disks groups =>
    ⟨"Disks configured", .info, .pipeline,
      [("disks", .int disks), ("volume_groups", texts groups)]⟩
  | layoutLoaded path disks =>
    ⟨"Loaded disk layout", .info, .layout, [("path", .text path), ("disks", .int disks)]⟩
  | diskNotInLayout disk => ⟨"Disk not in static layout", .debug, .layout, [("disk", .text disk)]⟩
  | commandStarted command => ⟨"Running command", .debug, .probe, [("command", texts command)]⟩
  | commandFailed command status errors =>
    ⟨"Command failed", .warning, .probe,
      [("command", texts command), ("returncode", .int status), ("stderr", .text errors)]⟩
  | diskProbed disk sectors partitions =>
    ⟨"Probed disk", .debug, .probe,
      [("disk", .text disk), ("sectors", .int sectors), ("partitions", .int partitions)]⟩
  | wouldInstall image hostname keyboard language =>
    ⟨"Would install", .info, .install,
      [("squashfs", .text image.text), ("hostname", .text hostname),
        ("keyboard", .text keyboard), ("lang", .text language)]⟩
  | wouldWriteTable disk table =>
    ⟨"Would write partition table", .info, .install,
      [("disk", .text disk), ("table", .text table.name)]⟩
  | wouldRemove partition =>
    ⟨"Would remove partition", .info, .install, [("partition", .text partition)]⟩
  | wouldFormat partition filesystem mount =>
    ⟨"Would format partition", .info, .install,
      [("partition", .text partition), ("filesystem", .text filesystem.name),
        ("mount", .ofText? (mount.map Path.text))]⟩
  | wouldCreateGroup group physicalVolumes volumes =>
    ⟨"Would create volume group", .info, .install,
      [("volume_group", .text group), ("physical_volumes", texts physicalVolumes),
        ("logical_volumes", .list (volumes.map fun name => (name.map Json.ofLabel).getD .null))]⟩
  | wouldExtract image => ⟨"Would extract", .info, .install, [("squashfs", .text image.text)]⟩
  | wouldConfigure manifest language =>
    ⟨"Would configure", .info, .install,
      [("remove", .text manifest.text), ("lang", .text language)]⟩
  | wouldInstallBootloader => ⟨"Would install bootloader", .info, .install, []⟩
  | partitioningTested =>
    ⟨"Partitioning test complete, stopping install", .info, .install, []⟩

/-- The record of an event, with the passphrases masked. -/
def record (e : Event) : Record :=
  let r := e.spelled
  { r with fields := redact (withoutOwnNames r.fields) }

/-- Whether an event can be written, which takes every number in its record. -/
@[irreducible]
def isWritable (e : Event) : Bool :=
  (Json.object e.record.fields).isWritable

theorem isWritable_partitionMoved_iff {disk : String} {number first last : Int} :
    (partitionMoved disk number first last).isWritable = true ↔
      Decimal.isWritable number = true ∧ Decimal.isWritable first = true ∧
        Decimal.isWritable last = true := by
  have hfields : (partitionMoved disk number first last).record.fields =
      [("disk", .text disk), ("number", .int number), ("start", .int first),
        ("end", .int last)] := rfl
  simp [isWritable, hfields, Json.isWritable, Json.areFieldsWritable]

theorem isWritable_partitionResized_iff {disk : String} {number last : Int} :
    (partitionResized disk number last).isWritable = true ↔
      Decimal.isWritable number = true ∧ Decimal.isWritable last = true := by
  have hfields : (partitionResized disk number last).record.fields =
      [("disk", .text disk), ("number", .int number), ("end", .int last)] := rfl
  simp [isWritable, hfields, Json.isWritable, Json.areFieldsWritable]

theorem isWritable_partitionAdded_iff {disk : String} {number first last : Int}
    {filesystem : Filesystem} :
    (partitionAdded disk number first last filesystem).isWritable = true ↔
      Decimal.isWritable number = true ∧ Decimal.isWritable first = true ∧
        Decimal.isWritable last = true := by
  have hfields : (partitionAdded disk number first last filesystem).record.fields =
      [("disk", .text disk), ("number", .int number), ("start", .int first), ("end", .int last),
        ("filesystem", .text filesystem.name)] := rfl
  simp [isWritable, hfields, Json.isWritable, Json.areFieldsWritable]

theorem isWritable_volumeAdded_iff {group name : String} {first last : Int} :
    (volumeAdded group name first last).isWritable = true ↔
      Decimal.isWritable first = true ∧ Decimal.isWritable last = true := by
  have hfields : (volumeAdded group name first last).record.fields =
      [("volume_group", .text group), ("name", .text name), ("start", .int first),
        ("end", .int last)] := rfl
  simp [isWritable, hfields, Json.isWritable, Json.areFieldsWritable]

end Event

namespace Stage

/-- The functions that a context passes through before a stage is started, each with the
    parameters that are given to it besides. -/
def openingFunctions : List (String × List String) :=
  [("OperationLogger.__init__", ["self", "stage", "logger"]),
    ("BoundLogger.info", ["event"]),
    ("BoundLogger._proxy_to_logger", ["method_name"])]

/-- What keeps a stage from being started: a field that is named like a parameter, of which
    the first function with one tells, or a field `_record`. That would have to be a record
    that has a source, and no value is one. -/
def openingMisfit? (s : Stage) : Option Misfit :=
  let taken := openingFunctions.findSome? fun f =>
    (s.context.find? fun c => f.2.contains c.1).map fun c =>
      Misfit.givenTwice f.1 ("argument '" ++ c.1 ++ "'")
  match taken, Json.get? "_record" s.context with
  | some m, _ => some m
  | none, none | none, some .null => none
  | none, some v => some (.lacks v "name")

/-- The names that the end of a stage adds: how long it took and, if it failed,
    the failure. -/
def endingNames {α : Type} : Except Failure α → List String
  | .ok _ => ["elapsed_ms"]
  | .error f => "elapsed_ms" :: (Event.failureFields f).map Prod.fst

/-- The first name in the context of a stage that its end adds as well. -/
def repeatedName? {α : Type} (s : Stage) (answer : Except Failure α) : Option String :=
  (s.context.find? fun f => (endingNames answer).contains f.1).map Prod.fst

end Stage

end DiskPlan
