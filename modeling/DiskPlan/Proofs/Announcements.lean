import DiskPlan.Install
import DiskPlan.PlanTable
import DiskPlan.Proofs.PartitionPaths
import DiskPlan.Proofs.PlannedDisks
import DiskPlan.Proofs.VolumePaths

/-!
# Announcements

A plan is told twice, and both times the same.

The table of a plan has a row for each of its devices, partitions and volumes. The log of
an installation names what partitioning would do to them. The two go through the same
plan and look at different sides of it. A row says that a partition is created if it is
new, and the log that it is formatted if it is to hold a filesystem. A row says that a
disk gets a new table if it was relabeled, and the log asks for the kind of the table as
well. So they agree only because of what every operation keeps: a disk that was relabeled
has a table, and a new partition has a filesystem to hold.

The rows and the events are cut into pieces that belong together. For the disks a piece
is a row with the events for it, at most one. For the volume groups it is an event with
the rows of the group that it is for.

## Main definitions

* `Row.Agrees`: A row of a disk or of one of its partitions with the events for it.
* `GroupAgrees`: The rows of a volume group with its event.
* `Topology.IsAnnounced`: A plan with a log that says what its rows say.
* `Disk.IsSettled`: What makes the rows of a disk and its events agree.

## Theorems

* `IsProbed.isFound`: No probe finds a new table or a new partition.
* `DiskAction.Change.isSettled`: Every change keeps a disk settled.
* `IsSettled.agrees`: The rows of a settled disk agree with its events.
* `configure_isAnnounced`: Every plan is announced as its rows say.
-/

namespace DiskPlan

/-! ### Rows and events -/

namespace Row

/-- The row of a disk says that there is a new table exactly if the writing of the table is the
    event for it, and otherwise there is none. The kind of the table is in both, since the event
    needs it. -/
structure AgreesAsDisk (r : Row) (events : List Event) : Prop where
  newTable : r.change.name = "new table" ↔
    ∃ table : TableKind, r.contents = some table.name ∧ events = [.wouldWriteTable r.path table]
  unchanged : r.change.name = "" ↔ events = []

/-- The row of a partition says what the event for it is, with its filesystem and its mount
    point, or that it is kept and there is no event. A row tells creating from formatting and an
    event does not, so one event goes with two kinds of rows. -/
structure AgreesAsPartition (r : Row) (events : List Event) : Prop where
  remove : r.change.name = "remove" ↔ events = [.wouldRemove r.path]
  format : r.change.name = "create" ∨ r.change.name = "format" ↔
    ∃ fs : Filesystem, r.contents = some fs.name ∧ events = [.wouldFormat r.path fs r.mount]
  keep : r.change.name = "keep" ↔ events = []

/-- A row of a disk or of one of its partitions agrees with the events for it. -/
def Agrees (r : Row) (events : List Event) : Prop :=
  if r.isDevice then r.AgreesAsDisk events else r.AgreesAsPartition events

/-- A row is that of a volume in a group, which is created under a name. -/
def IsOfVolume (group : String) (r : Row) (name : Option Label) : Prop :=
  r.isDevice = false ∧ r.change.name = "create" ∧
    ∃ volume, name = some (.ofString volume) ∧ r.path = mappedPath group ++ "-" ++ volume

end Row

/-- The rows of a volume group agree with an event: a row for the group that is created,
    and below it one for each volume that the event names. -/
inductive GroupAgrees : List Row → Event → Prop
  | mk {head : Row} {rows : List Row} {group : String} {physicalVolumes : List String}
      {names : List (Option Label)} (hdevice : head.isDevice = true)
      (hnew : head.change.name = "new volume group") (hpath : head.path = mappedPath group)
      (hrows : List.Forall₂ (Row.IsOfVolume group) rows names) :
      GroupAgrees (head :: rows) (.wouldCreateGroup group physicalVolumes names)

/-- A plan whose rows say the same as a log, in the same order: the rows of the disks one by one,
    and then those of the volume groups, group by group. A row may have no event, so the events
    are cut into pieces, and the log is the pieces one after the other. -/
def Topology.IsAnnounced (t : Topology) (log : List Event) : Prop :=
  ∃ events groups, log = events.flatten ++ groups ∧
    List.Forall₂ Row.Agrees (t.disks.flatMap Disk.rows) events ∧
    List.Forall₂ GroupAgrees (t.groups.map VolumeGroup.rows) groups

/-! ### Disks -/

namespace DeviceListing

/-- A disk in a listing is as it is found. -/
theorem isFound_of_disk {v : Json} {d : Disk} (h : disk v = .ok d) : d.IsFound := by
  rcases disk_eq_ok h with ⟨fields, sectorSize, hpath, hrelabeled, hlisted⟩
  refine ⟨hrelabeled, fun p hp => ?_⟩
  rcases partition?_of_disk h p hp with ⟨child, sectorSize, hchild⟩
  rcases partition?_eq_ok hchild with ⟨_, _, _, hexisting, _⟩
  exact hexisting

end DeviceListing

namespace Disk

variable {d : Disk} {p : Partition}

/-- No probe finds a new table or a new partition. A layout file has no fields for these, and a
    listing is read as a list of what exists. -/
theorem IsProbed.isFound (h : d.IsProbed) : d.IsFound := by
  cases h with
  | ofLayout hload hfound => exact isFound_of_load hload hfound
  | ofSystem hfound =>
      rcases disk_of_lookup hfound with ⟨v, hv⟩
      exact DeviceListing.isFound_of_disk hv

/-- A disk that was relabeled has a table, and all new partitions of a disk are to hold
    something. These are the two facts that the rows and the events of a disk need of each other. -/
structure IsSettled (d : Disk) : Prop where
  table : d.relabeled = true → ∃ table, d.table = some table
  target : ∀ p ∈ d.partitions, p.provenance = .new → ∃ fs, p.target = some fs

/-- Nothing on a disk that was found is new, so there is nothing to be settled. -/
theorem IsFound.isSettled (h : d.IsFound) : d.IsSettled := by
  refine ⟨fun hrelabeled => ?_, fun p hp hnew => ?_⟩
  · exact absurd (h.1.symm.trans hrelabeled) Bool.false_ne_true
  · exact absurd ((h.2 p hp).symm.trans hnew) (by simp only [reduceCtorEq, not_false_eq_true])

end Disk

namespace DiskAction

variable {action : DiskAction} {d d' : Disk} {p q : Partition}

/-- An edit can change what a partition is to hold, but not to nothing. A token that reuses a
    partition either names contents or leaves those that were asked for before. -/
theorem Edit.target (h : action.Edit p q) (hp : ∃ fs, p.target = some fs) :
    ∃ fs, q.target = some fs := by
  cases h with
  | mark _ _ => exact hp
  | range _ _ _ _ _ _ => exact hp
  | reuse _ content suffix _ =>
      rw [(withSuffix_tags suffix _).1]
      cases content with
      | none => exact hp
      | some c => cases c <;> exact ⟨_, rfl⟩

/-- Every change keeps a disk settled. The table is put on together with the mark that it is new,
    and a new partition gets the contents that every token for one has to name. -/
theorem Change.isSettled (h : action.Change d d') (hd : d.IsSettled) : d'.IsSettled := by
  constructor
  · cases h with
    | relabel table _ => exact fun _ => ⟨table, rfl⟩
    | mark _ _ => exact hd.table
    | shift _ _ _ => exact hd.table
    | resize _ _ _ => exact hd.table
    | reuse _ => exact hd.table
    | create _ _ => exact hd.table
  · -- A new partition is made with a target, and edits do not take it away again.
    refine h.forall_partitions (fun p q hedit hp hnew => ?_) ?_ hd.target
    · exact hedit.target (hp ((Partition.provenance_of_identity hedit.identity).symm.trans hnew))
    · exact fun _ _ _ _ _ _ _ _ _ _ _ => ⟨_, rfl⟩

end DiskAction

/-! ### Agreement -/

/-- The events for the rows of a disk, row by row. -/
def Disk.eventsByRow (d : Disk) : List (List Event) :=
  d.tableEvent?.toList :: d.partitions.map fun p => p.event?.toList

/-- Row by row the events are those of the disk. -/
theorem Disk.flatten_eventsByRow (d : Disk) : d.eventsByRow.flatten = d.events := by
  -- A piece has one event at most, so all pieces together are the events that there are.
  have hpartitions : ∀ ps : List Partition,
      (ps.map fun p => p.event?.toList).flatten = ps.filterMap Partition.event? := by
    intro ps
    induction ps with
    | nil => rfl
    | cons p rest ih =>
        rw [List.map_cons, List.flatten_cons, ih, List.filterMap_cons]
        cases p.event? <;> rfl
  unfold eventsByRow events
  rw [List.flatten_cons, hpartitions]

/-- A partition that has a filesystem to hold, unless it is there already, agrees with its event.
    Both the row and the event first ask whether it is removed, and then what it is to hold. Only
    the row asks whether it is new, and the hypothesis is there for this question. -/
theorem Partition.agrees {p : Partition}
    (h : p.provenance = .new → ∃ fs, p.target = some fs) (sectorSize : Int) :
    (p.row sectorSize).AgreesAsPartition p.event?.toList := by
  cases hremoved : p.removed with
  | true =>
      have hchange : (p.row sectorSize).change = .remove := by
        change p.change = .remove
        rw [change, if_pos hremoved]
      have hevent : p.event?.toList = [.wouldRemove p.path] := by
        rw [event?, if_pos hremoved, Option.toList_some]
      rw [hevent]
      -- Removal goes before everything else in both.
      constructor <;> rw [hchange] <;> simp [Change.name, row]
  | false =>
      have hevent : p.event? = p.target.map fun fs => .wouldFormat p.path fs p.mount := by
        rw [event?, hremoved]
        rfl
      cases htarget : p.target with
      | none =>
          -- A partition without a filesystem to come is there already, so it is kept.
          have hold : p.provenance ≠ .new := by
            intro hnew
            rcases h hnew with ⟨fs, hfs⟩
            exact absurd (htarget.symm.trans hfs) (by simp only [reduceCtorEq, not_false_eq_true])
          have hchange : (p.row sectorSize).change = .keep := by
            change p.change = .keep
            rw [change, hremoved, if_neg hold, htarget]
            rfl
          rw [hevent, htarget]
          constructor <;> rw [hchange] <;> simp [Change.name]
      | some fs =>
          -- Created or formatted, which is one and the same to the event.
          have hchange : (p.row sectorSize).change = .create ∨
              (p.row sectorSize).change = .format := by
            change p.change = .create ∨ p.change = .format
            rw [change, hremoved, htarget]
            cases p.provenance with
            | new => exact Or.inl rfl
            | existing => exact Or.inr rfl
          have hcontents : (p.row sectorSize).contents = some fs.name := by
            change (p.target.or p.filesystem).map Filesystem.name = _
            rw [htarget]
            rfl
          rw [hevent, htarget]
          rcases hchange with hchange | hchange <;> constructor <;>
            simp only [hchange, hcontents, Change.name] <;> simp [row]

/-- The rows of a settled disk agree with its events. The row of the disk itself comes first, and
    then those of its partitions in their order. -/
theorem Disk.IsSettled.agrees {d : Disk} (h : d.IsSettled) :
    List.Forall₂ Row.Agrees d.rows d.eventsByRow := by
  refine .cons ?_ ?_
  · change Row.AgreesAsDisk _ d.tableEvent?.toList
    cases hrelabeled : d.relabeled with
    | true =>
        rcases h.table hrelabeled with ⟨table, htable⟩
        have hevent : d.tableEvent? = some (.wouldWriteTable d.path table) := by
          rw [tableEvent?, if_pos hrelabeled, htable]
          rfl
        rw [hevent]
        constructor <;> simp [Change.name, htable]
    | false =>
        have hevent : d.tableEvent? = none := by
          rw [tableEvent?, hrelabeled]
          rfl
        rw [hevent]
        constructor <;> simp [Change.name]
  · rw [List.forall₂_map_left_iff, List.forall₂_map_right_iff, List.forall₂_same]
    exact fun p hp => Partition.agrees (h.target p hp) d.sectorSize

/-- The rows of a group of stacked volumes agree with its event. Volumes are named when they are
    made, so the event knows them by the names that their paths end in. -/
theorem VolumeGroup.IsStacked.agrees {g : VolumeGroup} (h : g.IsStacked) :
    GroupAgrees g.rows g.event := by
  refine .mk rfl rfl rfl ?_
  rw [List.forall₂_map_left_iff, List.forall₂_map_right_iff, List.forall₂_same]
  intro p hp
  rcases h.named p hp with ⟨volume, _, hname, hpath⟩
  exact ⟨rfl, rfl, volume, hname, hpath⟩

/-! ### Plans -/

/-- The devices of a plan are gone through in order, and nothing else is told. What is reported
    on the way goes to the statuses, not to the log. -/
theorem Installation.describeDevices_log (i : Installation) (count index : Nat)
    (devices : List (List Event)) (p : Progress) :
    (i.describeDevices count index devices p).answer = .ok () ∧
      (i.describeDevices count index devices p).log = devices.flatten := by
  induction devices generalizing index p with
  | nil => exact ⟨rfl, rfl⟩
  | cons events rest ih =>
      rw [describeDevices]
      refine ⟨(ih _ _).1, ?_⟩
      rw [List.flatten_cons, ← (ih _ _).2]
      exact congrArg (· ++ _) (List.append_nil events)

/-- A plan of settled disks and stacked volumes is announced as its rows say. The log goes
    through the disks first and through the groups then, like the table. -/
theorem Topology.isAnnounced {t : Topology} (hdisks : ∀ d ∈ t.disks, d.IsSettled)
    (hgroups : ∀ g ∈ t.groups, g.IsStacked) : t.IsAnnounced t.events.flatten := by
  refine ⟨t.disks.flatMap Disk.eventsByRow, t.groups.map VolumeGroup.event, ?_, ?_, ?_⟩
  · have hdevices : (t.disks.map Disk.events).flatten =
        (t.disks.flatMap Disk.eventsByRow).flatten := by
      rw [List.flatMap_def, List.flatten_flatten, List.map_map]
      exact congrArg _ (List.map_congr_left fun d _ => d.flatten_eventsByRow.symm)
    unfold events
    rw [List.flatten_append, hdevices, ← List.flatMap_def, ← List.map_eq_flatMap]
  · -- The rows and the pieces belong to the same disk, which has to be known to be in the plan.
    have hsame : List.Forall₂ (fun d d' => d = d' ∧ d ∈ t.disks) t.disks t.disks :=
      List.forall₂_same.mpr fun _ hd => ⟨rfl, hd⟩
    refine List.rel_flatMap hsame fun d d' hd => ?_
    rw [← hd.1]
    exact (hdisks d hd.2).agrees
  · rw [List.forall₂_map_left_iff, List.forall₂_map_right_iff, List.forall₂_same]
    exact fun g hg => (hgroups g hg).agrees

/-- The rows of every plan say what the partitioning of its devices would do. Nothing is asked of
    how the plan has ended: what is there when a token fails is announced as it is, and whether
    the installation is a test or is cancelled later does not matter to this step. -/
theorem configure_isAnnounced {probe : Probe}
    (hprobe : ∀ name d, (probe.lookup name).answer = .ok (some d) → d.IsProbed) (r : Requests)
    {i : Installation} (hi : i.topology = (configure probe r).state) (p : Progress) :
    (i.describe .partition p).answer = .ok () ∧
      (configure probe r).state.IsAnnounced (i.describe .partition p).log := by
  -- What is found is settled, what operations do keeps it so, and volumes are always stacked.
  have hregistered := (registerDisks_state probe (P := Disk.IsSettled)
    (fun name d hlookup => (hprobe name d hlookup).isFound.isSettled) r.disks .empty
    fun _ hd => absurd hd List.not_mem_nil).1
  have hdisks := Topology.disks_of_reaches (fun _ hchange => hchange.isSettled)
    (configure_reaches probe r) hregistered
  have hlog := i.describeDevices_log i.topology.events.length 0 i.topology.events p
  refine ⟨hlog.1, ?_⟩
  change Topology.IsAnnounced _ (i.describeDevices _ _ _ p).log
  rw [hlog.2, hi]
  exact Topology.isAnnounced hdisks (configure_groups probe r).2

/-- A plan with a partition that is kept and one that is removed, a new table, new
    partitions, and a group with a volume that gets its name from its number. -/
def Requests.ofRows : Requests where
  disks := ["sda", "nvme0n1"]
  tables := ["nvme0n1:gpt"]
  deletes := ["sda:3"]
  moves := []
  reuses := []
  creates := ["sda:primary:12000:end:ext4:mount=/boot", "nvme0n1:primary:start:end:lvm=data"]
  logicals := ["data::50%:xfs:mount=/"]

/-- An installation of a plan that nobody cancels and in which nothing fails. -/
def Installation.ofPlan (plan : Topology) : Installation where
  topology := plan
  config := ⟨.parse "/image", "host", "us", "en", .parse "/manifest"⟩
  testOnly := true
  cancels _ := false
  fault _ := none

theorem configure_isAnnounced_ofRows :
    let plan := (configure (.static Disk.ofGap) .ofRows).state
    let log := ((Installation.ofPlan plan).describe .partition (.start false)).log
    (Layout.load "layout.json" Layout.ofGap).answer = .ok (.static Disk.ofGap) ∧
      (configure (.static Disk.ofGap) .ofRows).answer = .ok () ∧
      plan.rows.map (fun row => (row.path, row.change)) =
        [("/dev/sda", .none), ("/dev/sda1", .keep), ("/dev/sda3", .remove),
          ("/dev/sda4", .create), ("/dev/nvme0n1", .newTable), ("/dev/nvme0n1p1", .create),
          ("/dev/mapper/data", .newGroup), ("/dev/mapper/data-lv1", .create)] ∧
      log.map (fun event => event.record.event) =
        ["Would remove partition", "Would format partition", "Would write partition table",
          "Would format partition", "Would create volume group"] ∧
      plan.IsAnnounced log := by
  intro plan log
  have hprobe : ∀ name d, ((Probe.static Disk.ofGap).lookup name).answer = .ok (some d) →
      d.IsProbed := fun _ _ hfound => .ofLayout Layout.load_ofGap hfound
  have hplan : ∀ t, (Installation.ofPlan t).topology = t := fun _ => rfl
  exact ⟨Layout.load_ofGap, by decide +kernel, by decide +kernel, by decide +kernel,
    (configure_isAnnounced hprobe .ofRows (hplan plan) (.start false)).2⟩

end DiskPlan
