import DiskPlan.Proofs.DiskNames
import DiskPlan.Proofs.LayoutValues
import DiskPlan.Proofs.Placement
import DiskPlan.Proofs.VolumePaths
import DiskPlan.Topology.Export

/-!
# Plans as Layouts

The disks of a plan, written as JSON, are a layout again.

A plan is written for people and for other programs, and a layout is read with checks of
its own, so nothing in the one refers to the other. Two things make them meet. Each field
that a layout has is written by a plan under the same name and in a spelling that is read
back; what a plan says beyond that is passed over. And what a layout is checked for is kept
by every change of a disk: ranges are not empty, numbers count from one, and the path of a
partition is the one that its number leads to, so a layout need not tell it.

What is read back is the disk as it would be found if it looked like the plan. Its
partitions are there already, and nothing is said of what is to become of them.

The only obstacle is the limit on numerals. The numbers of a partition are within it, since
its path was written, but sectors and bytes are computed. A plan with a number beyond the
limit cannot be written at all.

## Main definitions

* `Partition.IsStorable`, `Disk.IsStorable`: What a layout needs of a disk.
* `Partition.asLayout`, `Disk.asLayout`, `Topology.asLayout`: The disks of a plan as a
  layout.
* `Partition.asFound`, `Disk.asFound`: A disk of a plan as it is found in that layout.

## Theorems

* `DiskAction.Change.isStorable`: Every change keeps what a layout needs.
* `configure_disks_of_parse`: What every change keeps holds of the disks of a plan.
* `configure_isStorable`: The disks of a plan over a layout can be in a layout.
* `PartitionLayout.ofJson_toJson`, `DiskLayout.ofJson_toJson`: What is written is read.
* `Partition.isWritable_toJson_iff`, `Disk.isWritable_toJson_iff`: The numbers that are
  written.
* `Layout.parse_built`: Whatever is sound stands in some layout.
* `load_asLayout`: The layout of a plan is loaded.
-/

namespace DiskPlan

/-! ### What a layout needs -/

/-- What a layout needs of a partition of a disk with a path. -/
structure Partition.IsStorable (device : String) (p : Partition) : Prop where
  path : Disk.partitionPath? device p.number = .ok p.path
  number : 1 ≤ p.number
  first : 0 ≤ p.first
  lt : p.first < p.last
  name : ∀ l ∈ p.name, l.IsSpelled

/-- What a layout needs of a disk. -/
structure Disk.IsStorable (d : Disk) : Prop where
  path : ∃ name, d.path = devicePath name
  sectors : 0 < d.sectors
  sectorSize : 512 ≤ d.sectorSize
  model : d.model.IsSpelled
  partitions : ∀ p ∈ d.partitions, p.IsStorable d.path

/-- A partition may be exchanged for one that is known by the same, if its range is one. The
    number, the path and the name are part of what it is known by. -/
theorem Partition.IsStorable.of_identity {device : String} {p q : Partition}
    (hp : p.IsStorable device) (h : q.identity = p.identity) (hfirst : 0 ≤ q.first)
    (hlt : q.first < q.last) : q.IsStorable device where
  path := by
    rw [Partition.number_of_identity h, Partition.path_of_identity h]
    exact hp.path
  number := by
    rw [Partition.number_of_identity h]
    exact hp.number
  first := hfirst
  lt := hlt
  name := by
    rw [Partition.name_of_identity h]
    exact hp.name

/-- Numbers count from one. Without any partitions the next number is one by itself, and with
    some it is above one that is. -/
theorem Disk.one_le_nextNumber {d : Disk} (h : ∀ p ∈ d.partitions, 1 ≤ p.number) :
    1 ≤ d.nextNumber := by
  cases hpartitions : d.partitions with
  | nil =>
      unfold nextNumber
      rw [hpartitions]
      exact Int.le_refl 1
  | cons p _ =>
      have hp : p ∈ d.partitions := by
        rw [hpartitions]
        exact List.mem_cons_self
      have hone := h p hp
      have hlt := number_lt_nextNumber hp
      omega

/-- Every change keeps what a layout needs. -/
theorem DiskAction.Change.isStorable {action : DiskAction} {d d' : Disk}
    (h : action.Change d d') (hd : d.IsStorable) : d'.IsStorable := by
  -- Where a disk is and how large it is stays as it was.
  suffices hpartitions : ∀ p ∈ d'.partitions, p.IsStorable d.path by
    obtain ⟨hpath, hsize⟩ := Prod.mk.inj h.device
    obtain ⟨hsectors, hsize⟩ := Prod.mk.inj hsize
    obtain ⟨hsectorSize, hmodel⟩ := Prod.mk.inj hsize
    refine ⟨hpath ▸ hd.path, hsectors ▸ hd.sectors, hsectorSize ▸ hd.sectorSize,
      hmodel ▸ hd.model, ?_⟩
    rw [hpath]
    exact hpartitions
  cases h with
  | relabel _ _ => exact fun _ hp => absurd hp List.not_mem_nil
  | mark _ hat =>
      exact hat.forall_mem_exchange (fun hp => hp.of_identity rfl hp.first hp.lt) hd.partitions
  -- The check has found the new range in order and within the disk.
  | shift hat _ hfits =>
      exact hat.forall_mem_exchange (fun hp => hp.of_identity rfl hfits.nonneg hfits.lt)
        hd.partitions
  | resize hat _ hfits =>
      exact hat.forall_mem_exchange (fun hp => hp.of_identity rfl hp.first hfits.lt)
        hd.partitions
  | @reuse number content suffix _ _ _ p hat =>
      refine hat.forall_mem_exchange (fun hp => ?_) hd.partitions
      -- What a partition is to hold says nothing of where it is.
      have hsuffix := withSuffix_range suffix (withContent content p)
      have hcontent := withContent_range content p
      refine hp.of_identity (Edit.reuse number content suffix p).identity ?_ ?_
      · rw [hsuffix.1, hcontent.1]
        exact hp.first
      · rw [hsuffix.1, hsuffix.2.1, hcontent.1, hcontent.2.1]
        exact hp.lt
  | create _ hplace =>
      -- The path was made from the number, so the number was within the limit.
      rcases Disk.place_eq_ok hplace with ⟨hfits, path, hpath, rfl⟩
      refine List.forall_mem_append.mpr ⟨hd.partitions, List.forall_mem_singleton.mpr ?_⟩
      exact ⟨hpath, Disk.one_le_nextNumber fun p hp => (hd.partitions p hp).number, hfits.nonneg,
        hfits.lt, fun _ hl => absurd hl (Option.not_mem_none _)⟩

/-- What is built of a layout could be in a layout. -/
theorem DiskLayout.isStorable_built {layout : DiskLayout} (h : layout.IsSound) {path : String}
    (hpath : path ∈ layout.path) : (layout.built path).IsStorable := by
  refine ⟨h.path path hpath, h.sectors, h.sectorSize, h.model, List.forall_mem_map.mpr ?_⟩
  intro p hp
  have hp := h.partitions p hp
  exact ⟨Disk.partitionPath?_of_isWritable path hp.number_isWritable, hp.number, hp.first, hp.lt,
    hp.name⟩

/-- What is true of every disk that is built of a layout, and kept by every change, is true of
    the disks of a plan over the layout, as far as the plan gets. -/
theorem configure_disks_of_parse {P : Disk → Prop} {path contents : String}
    {layouts : List DiskLayout} {probe : Probe} (hparse : Layout.parse contents = .ok layouts)
    (hload : (Layout.load path contents).answer = .ok probe)
    (hbuilt : ∀ layout ∈ layouts, layout.IsSound → ∀ path ∈ layout.path, P (layout.built path))
    (hchange : ∀ {action : DiskAction} {d d' : Disk}, action.Change d d' → P d → P d')
    (r : Requests) : ∀ d ∈ (configure probe r).state.disks, P d := by
  obtain rfl := Except.ok.inj (hload.symm.trans (Layout.load_of_parse path hparse))
  have hfound : ∀ name d, ((Probe.static (Layout.built layouts)).lookup name).answer =
      .ok (some d) → P d := by
    intro name d hlookup
    rcases Layout.mem_built_iff.mp (mem_of_lookup_static hlookup) with
      ⟨layout, hlayout, path, hpath, rfl⟩
    exact hbuilt layout hlayout (Layout.isSound_of_parse hparse layout hlayout) path hpath
  -- The disks that are registered are those that the probe finds, and the steps that follow keep
  -- what is true of them.
  have hregistered := (registerDisks_state _ hfound r.disks .empty
    fun _ hd => absurd hd List.not_mem_nil).1
  exact Topology.disks_of_reaches (fun _ h => hchange h) (configure_reaches _ r) hregistered

/-- The disks of a plan over a layout could be in a layout, as far as the plan gets. -/
theorem configure_isStorable {path contents : String} {probe : Probe}
    (hload : (Layout.load path contents).answer = .ok probe) (r : Requests) :
    ∀ d ∈ (configure probe r).state.disks, d.IsStorable := by
  rcases Layout.load_eq_ok_iff.mp hload with ⟨layouts, hparse, _⟩
  exact configure_disks_of_parse hparse hload
    (fun _ _ hsound _ hpath => DiskLayout.isStorable_built hsound hpath)
    DiskAction.Change.isStorable r

/-! ### Reading back -/

/-- A partition as a layout has it. -/
def Partition.asLayout (p : Partition) : PartitionLayout where
  number := p.number
  first := p.first
  last := p.last
  role := p.role
  filesystem := p.filesystem
  name := p.name
  flags := p.flags

/-- A disk as a layout has it. -/
def Disk.asLayout (d : Disk) : DiskLayout where
  path := some d.path
  sectors := d.sectors
  sectorSize := d.sectorSize
  model := d.model
  table := d.table
  partitions := d.partitions.map Partition.asLayout

/-- A partition that is there already, as it is in a plan. -/
def Partition.asFound (p : Partition) : Partition :=
  { p with
    provenance := .existing
    target := none
    mount := none
    keyId := none
    membership := none
    removed := false }

/-- A disk that is there already, as it is in a plan. -/
def Disk.asFound (d : Disk) : Disk :=
  { d with
    partitions := d.partitions.map Partition.asFound
    relabeled := false }

namespace Checked

variable {α : Type}

/-- A label is written as a text, if it is one, and is read as the same label either way. -/
theorem label_ofLabel (l : Label) : label (.ofLabel l) = .value l := by
  unfold Json.ofLabel
  split
  · rename_i s hs
    rw [← Label.ofString_of_text? hs]
    rfl
  · rfl

/-- The name of a value is read as that value. -/
theorem named_name {ofName? : String → Option α} {name : String} {a : α}
    (h : ofName? name = some a) : named ofName? (.text name) = .value a := by
  unfold named
  dsimp only
  rw [h]

/-- A value that is there is read, unless it is the sign of one that is not. -/
theorem optional_eq_value {read : Json → Checked α} {v : Json} {a : α} (hv : v ≠ .null)
    (h : read v = .value a) : optional read v = .value (some a) := by
  have hread := congrArg (Checked.map some) h
  -- A value that is missing is told from one that is there by the null alone.
  cases v with
  | null => exact absurd rfl hv
  | _ => exact hread

end Checked

/-- What is written of a partition is read. -/
theorem PartitionLayout.ofJson_toJson {device : String} {p : Partition}
    (h : p.IsStorable device) : ofJson p.toJson = .value p.asLayout := by
  -- A name that is missing is written as a null and read as missing.
  have hname : Checked.optional Checked.label ((p.name.map Json.ofLabel).getD .null) =
      .value p.name := by
    cases p.name with
    | none => rfl
    | some l => exact Checked.optional_eq_value (Json.ofLabel_ne_null l) (Checked.label_ofLabel l)
  have hfilesystem : filesystemOfJson (.ofText? (p.filesystem.map Filesystem.name)) =
      .value p.filesystem := by
    cases p.filesystem with
    | none => rfl
    | some fs => exact congrArg (fun fs => Checked.value (some fs)) fs.ofReport_name
  -- The flags are written by their names, and each name is that of one flag.
  have hflags : Checked.items (Checked.named Flag.ofName?)
      (.list (p.flags.map fun f => .text f.name)) = .value p.flags := by
    refine Checked.items_eq_value_iff.mpr ⟨_, rfl, ?_⟩
    rw [List.forall₂_map_left_iff, List.forall₂_same]
    exact fun f _ => Checked.named_name f.ofName?_name
  -- Each field is read by itself. The last condition is the only one that looks at two of them.
  refine ofJson_eq_value_iff.mpr ⟨⟨_, rfl, ?number, ?first, ?last, ?role, ?filesystem, ?name,
    ?flags⟩, h.lt⟩
  case number =>
    refine Checked.field_eq_value_iff.mpr ⟨_, rfl, ?_⟩
    exact Checked.ensure_eq_value_iff.mpr ⟨rfl, decide_eq_true h.number⟩
  case first =>
    refine Checked.field_eq_value_iff.mpr ⟨_, rfl, ?_⟩
    exact Checked.ensure_eq_value_iff.mpr ⟨rfl, decide_eq_true h.first⟩
  case last =>
    refine Checked.field_eq_value_iff.mpr ⟨_, rfl, ?_⟩
    have hlast : 0 ≤ p.last := Int.le_of_lt (Int.lt_of_le_of_lt h.first h.lt)
    exact Checked.ensure_eq_value_iff.mpr ⟨rfl, decide_eq_true hlast⟩
  case role =>
    exact Checked.fieldOr_eq_value_iff.mpr
      (Or.inr ⟨_, rfl, Checked.named_name p.role.ofName?_name⟩)
  case filesystem => exact Checked.fieldOr_eq_value_iff.mpr (Or.inr ⟨_, rfl, hfilesystem⟩)
  case name => exact Checked.fieldOr_eq_value_iff.mpr (Or.inr ⟨_, rfl, hname⟩)
  case flags => exact Checked.fieldOr_eq_value_iff.mpr (Or.inr ⟨_, rfl, hflags⟩)

/-- What is written of a disk is read. -/
theorem DiskLayout.ofJson_toJson {d : Disk} (h : d.IsStorable) :
    ofJson d.toJson = .value d.asLayout := by
  -- The path of a disk is a path under the directory of devices already, so it is not put there
  -- once more.
  have hpath : (Checked.label (.text d.path)).map (fun l => l.text?.map devicePath) =
      .value (some d.path) := by
    rcases h.path with ⟨name, hname⟩
    rw [hname]
    unfold Checked.label
    dsimp only [Checked.map]
    rw [Label.text?_ofString, Option.map_some, devicePath_devicePath]
  have htable : Checked.optional (Checked.named TableKind.ofName?)
      (.ofText? (d.table.map TableKind.name)) = .value d.table := by
    cases d.table with
    | none => rfl
    | some kind =>
        exact Checked.optional_eq_value
          (by simp only [Option.map_some, Json.ofText?, ne_eq, reduceCtorEq, not_false_eq_true])
          (Checked.named_name kind.ofName?_name)
  -- The partitions are read one by one, and no check looks at two of them.
  have hpartitions : Checked.items PartitionLayout.ofJson
      (.list (d.partitions.map Partition.toJson)) = .value d.asLayout.partitions := by
    refine Checked.items_eq_value_iff.mpr ⟨_, rfl, ?_⟩
    change List.Forall₂ _ _ (d.partitions.map Partition.asLayout)
    rw [List.forall₂_map_left_iff, List.forall₂_map_right_iff, List.forall₂_same]
    exact fun p hp => PartitionLayout.ofJson_toJson (h.partitions p hp)
  refine ofJson_eq_value_iff.mpr ⟨_, rfl, ?path, ?sectors, ?sectorSize, ?model, ?table,
    ?partitions⟩
  case path => exact Checked.field_eq_value_iff.mpr ⟨_, rfl, hpath⟩
  case sectors =>
    refine Checked.field_eq_value_iff.mpr ⟨_, rfl, ?_⟩
    exact Checked.ensure_eq_value_iff.mpr ⟨rfl, decide_eq_true h.sectors⟩
  case sectorSize =>
    refine Checked.fieldOr_eq_value_iff.mpr (Or.inr ⟨_, rfl, ?_⟩)
    exact Checked.ensure_eq_value_iff.mpr ⟨rfl, decide_eq_true h.sectorSize⟩
  case model =>
    exact Checked.fieldOr_eq_value_iff.mpr (Or.inr ⟨_, rfl, Checked.label_ofLabel d.model⟩)
  case table => exact Checked.fieldOr_eq_value_iff.mpr (Or.inr ⟨_, rfl, htable⟩)
  case partitions => exact Checked.fieldOr_eq_value_iff.mpr (Or.inr ⟨_, rfl, hpartitions⟩)

/-- What is read of a disk is built as the disk that is there already. -/
theorem Disk.built_asLayout {d : Disk} (h : d.IsStorable) :
    d.asLayout.built d.path = d.asFound := by
  have hpartitions : d.asLayout.partitions.map (PartitionLayout.built d.path) =
      d.partitions.map Partition.asFound := by
    change (d.partitions.map Partition.asLayout).map _ = _
    rw [List.map_map]
    refine List.map_congr_left fun p hp => ?_
    -- The path of a partition is not read, but its number leads there.
    have hpath := Disk.partitionPath?_eq_ok (h.partitions p hp).path
    unfold Partition.asFound
    rw [hpath]
    rfl
  unfold DiskLayout.built
  rw [hpartitions]
  rfl

/-- The disks of a plan, written as a layout. -/
def Topology.asLayout (t : Topology) : Json :=
  .object [("disks", (t.toJson.field? "disks").getD .null)]

/-- The disks of a plan are read as a layout. -/
theorem Layout.parse_asLayout {t : Topology} (h : ∀ d ∈ t.disks, d.IsStorable)
    {contents : String} (hread : Json.parse contents = .ok t.asLayout) :
    parse contents = .ok (t.disks.map Disk.asLayout) := by
  refine parse_eq_ok_iff.mpr ⟨_, hread, Or.inr ⟨t.disks.map Disk.toJson, rfl, ?_⟩⟩
  rw [List.forall₂_map_left_iff, List.forall₂_map_right_iff, List.forall₂_same]
  exact fun d hd => DiskLayout.ofJson_toJson (h d hd)

/-- The disks of a plan that are read as a layout are built as they would be found. -/
theorem Layout.built_asLayout {t : Topology} (h : ∀ d ∈ t.disks, d.IsStorable) :
    built (t.disks.map Disk.asLayout) = t.disks.map Disk.asFound := by
  unfold built
  rw [List.filterMap_map, ← List.filterMap_eq_map]
  exact List.filterMap_congr fun d hd => congrArg some (Disk.built_asLayout (h d hd))

/-! ### Writing -/

/-- An encryption can be spelled, as it has no numbers. The passphrase is not written. -/
theorem Encryption.isSpelled_toJson (e : Encryption) (depth : Nat) :
    Json.IsSpelled False (depth + 1) e.toJson := by
  refine .object ?_ (show ["physical_volume", "password", "keydata"].Nodup by decide)
  simp only [List.forall_mem_cons]
  exact ⟨.text _, .bool _, Json.isSpelled_ofText? _ _ _, fun _ hf => absurd hf List.not_mem_nil⟩

/-- So can the membership of a volume group, which may hold an encryption. -/
theorem Membership.isSpelled_toJson (m : Membership) (depth : Nat) :
    Json.IsSpelled False (depth + 2) m.toJson := by
  have hencryption : Json.IsSpelled False (depth + 1)
      ((m.encryption.map Encryption.toJson).getD .null) := by
    cases m.encryption with
    | none => exact .null
    | some e => exact e.isSpelled_toJson depth
  refine .object ?_ (show ["group", "encryption"].Nodup by decide)
  simp only [List.forall_mem_cons]
  exact ⟨.text _, hencryption, fun _ hf => absurd hf List.not_mem_nil⟩

/-- A label that may be missing can be written, since it is no number. -/
theorem Json.isWritable_ofLabel? (l? : Option Label) :
    ((l?.map ofLabel).getD .null).isWritable = true := by
  cases l? with
  | none => rfl
  | some l =>
      rw [Option.map_some, Option.getD_some]
      unfold ofLabel
      split <;> rfl

/-- A membership that may be missing can be spelled. -/
theorem Membership.isSpelled_toJson? (m? : Option Membership) (depth : Nat) :
    Json.IsSpelled False (depth + 2) ((m?.map toJson).getD .null) := by
  cases m? with
  | none => exact .null
  | some m => exact m.isSpelled_toJson depth

/-- Flags can be spelled by their names. -/
theorem Flag.isSpelled_toJson (flags : List Flag) (depth : Nat) :
    Json.IsSpelled False (depth + 1) (.list (flags.map fun f => .text f.name)) :=
  .list (List.forall_mem_map.mpr fun _ _ => .text _)

/-- The numbers of a partition that are written. -/
theorem Partition.isWritable_toJson_iff {p : Partition} :
    p.toJson.isWritable = true ↔ Decimal.isWritable p.number = true ∧
      Decimal.isWritable p.first = true ∧ Decimal.isWritable p.last = true := by
  refine Iff.trans Json.areFieldsWritable_iff ?_
  -- The other fields are texts, truth values and lists of texts.
  simp only [List.forall_mem_cons]
  constructor
  · rintro ⟨_, hnumber, _, hfirst, hlast, _⟩
    exact ⟨hnumber, hfirst, hlast⟩
  · rintro ⟨hnumber, hfirst, hlast⟩
    exact ⟨rfl, hnumber, Json.isWritable_ofLabel? _, hfirst, hlast, rfl, rfl,
      Json.isWritable_ofText? _, Json.isWritable_ofText? _, Json.isWritable_ofText? _,
      Json.isWritable_ofText? _, (Flag.isSpelled_toJson p.flags 0).isWritable,
      (Membership.isSpelled_toJson? p.membership 0).isWritable, rfl,
      fun _ hf => absurd hf List.not_mem_nil⟩

/-- A partition can be spelled if it can be written. -/
theorem Partition.isSpelled_toJson {device : String} {p : Partition} (hp : p.IsStorable device)
    (h : p.toJson.isWritable = true) (depth : Nat) :
    Json.IsSpelled False (depth + 3) p.toJson := by
  have hname : Json.IsSpelled False (depth + 2) ((p.name.map Json.ofLabel).getD .null) := by
    cases hcases : p.name with
    | none => exact .null
    | some l => exact Json.isSpelled_ofLabel (hp.name l hcases) _ _
  rcases isWritable_toJson_iff.mp h with ⟨hnumber, hfirst, hlast⟩
  refine .object ?_ (show ["device_path", "number", "name", "start_sector", "end_sector",
    "part_type", "source", "filesystem", "target", "mount_point", "key_id", "flags",
    "volume_group", "remove"].Nodup by decide)
  simp only [List.forall_mem_cons]
  exact ⟨.text _, .int hnumber, hname, .int hfirst, .int hlast, .text _, .text _,
    Json.isSpelled_ofText? _ _ _, Json.isSpelled_ofText? _ _ _, Json.isSpelled_ofText? _ _ _,
    Json.isSpelled_ofText? _ _ _, Flag.isSpelled_toJson _ _, Membership.isSpelled_toJson? _ _,
    .bool _, fun _ hf => absurd hf List.not_mem_nil⟩

/-- The numbers of a disk that are written, its bytes among them. -/
theorem Disk.isWritable_toJson_iff {d : Disk} :
    d.toJson.isWritable = true ↔ Decimal.isWritable d.sectors = true ∧
      Decimal.isWritable d.sectorSize = true ∧ Decimal.isWritable d.bytes = true ∧
        ∀ p ∈ d.partitions, p.toJson.isWritable = true := by
  -- A list can be written if each of its items can.
  have hpartitions : (Json.list (d.partitions.map Partition.toJson)).isWritable = true ↔
      ∀ p ∈ d.partitions, p.toJson.isWritable = true :=
    Json.areItemsWritable_iff.trans List.forall_mem_map
  refine Iff.trans Json.areFieldsWritable_iff ?_
  simp only [List.forall_mem_cons]
  constructor
  · rintro ⟨_, _, hsectors, hsectorSize, hbytes, _, _, hlist, _⟩
    exact ⟨hsectors, hsectorSize, hbytes, hpartitions.mp hlist⟩
  · rintro ⟨hsectors, hsectorSize, hbytes, hall⟩
    exact ⟨rfl, Json.isWritable_ofLabel? (some d.model), hsectors, hsectorSize, hbytes,
      Json.isWritable_ofText? _, rfl, hpartitions.mpr hall,
      fun _ hf => absurd hf List.not_mem_nil⟩

/-- A disk can be spelled if it can be written. -/
theorem Disk.isSpelled_toJson {d : Disk} (hd : d.IsStorable) (h : d.toJson.isWritable = true)
    (depth : Nat) : Json.IsSpelled False (depth + 5) d.toJson := by
  rcases isWritable_toJson_iff.mp h with ⟨hsectors, hsectorSize, hbytes, hall⟩
  have hpartitions : Json.IsSpelled False (depth + 4)
      (.list (d.partitions.map Partition.toJson)) :=
    .list (List.forall_mem_map.mpr fun p hp =>
      Partition.isSpelled_toJson (hd.partitions p hp) (hall p hp) depth)
  refine .object ?_ (show ["device_path", "model", "sectors", "sector_size", "size_bytes",
    "table", "relabeled", "partitions"].Nodup by decide)
  simp only [List.forall_mem_cons]
  exact ⟨.text _, Json.isSpelled_ofLabel hd.model _ _, .int hsectors, .int hsectorSize,
    .int hbytes, Json.isSpelled_ofText? _ _ _, .bool _, hpartitions,
    fun _ hf => absurd hf List.not_mem_nil⟩

/-- The layout of a plan can be written if its disks can. -/
theorem Topology.isWritable_asLayout_iff {t : Topology} :
    t.asLayout.isWritable = true ↔ ∀ d ∈ t.disks, d.toJson.isWritable = true :=
  Json.areFieldsWritable_iff.trans (List.forall_mem_singleton.trans
    (Json.areItemsWritable_iff.trans List.forall_mem_map))

/-- The disks of a plan can be written if all of it can. -/
theorem Topology.isWritable_asLayout {t : Topology} (h : t.toJson.isWritable = true) :
    t.asLayout.isWritable = true :=
  Json.areFieldsWritable_iff.mpr (List.forall_mem_singleton.mpr
    (Json.areFieldsWritable_iff.mp h ("disks", _) List.mem_cons_self))

/-- The layout of a plan that can be written is read as what it is. -/
theorem Topology.parse_asLayout {t : Topology} (ht : ∀ d ∈ t.disks, d.IsStorable)
    (h : t.asLayout.isWritable = true) : Json.parse t.asLayout.indented = .ok t.asLayout := by
  -- The disks stand in a list in an object, so two levels of nesting are taken up.
  have hdisks : Json.IsSpelled False (Json.depthLimit - 1)
      (.list (t.disks.map Disk.toJson)) :=
    .list (List.forall_mem_map.mpr fun d hd =>
      Disk.isSpelled_toJson (ht d hd) (isWritable_asLayout_iff.mp h d hd) (Json.depthLimit - 7))
  exact Json.parse_indented
    (.object (List.forall_mem_singleton.mpr hdisks) (List.nodup_singleton _))

/-! ### Loading again -/

/-- What is built of a disk in a layout is written as it was. -/
theorem DiskLayout.asLayout_built {layout : DiskLayout} {path : String}
    (hpath : layout.path = some path) : (layout.built path).asLayout = layout := by
  -- Building a partition adds its path to what the layout says, and the layout drops it again.
  have hpartitions : (layout.partitions.map (PartitionLayout.built path)).map Partition.asLayout =
      layout.partitions := by
    rw [List.map_map]
    exact List.map_id layout.partitions
  unfold Disk.asLayout
  change DiskLayout.mk (some path) _ _ _ _ (List.map _ (List.map _ _)) = _
  rw [hpartitions, ← hpath]
  rfl

/-- A disk that is sound is one of a layout, if its bytes can be written. -/
theorem Layout.parse_built {layout : DiskLayout} (h : layout.IsSound) {path : String}
    (hpath : layout.path = some path)
    (hbytes : Decimal.isWritable (layout.sectors * layout.sectorSize) = true) :
    parse (Topology.asLayout ⟨[layout.built path], []⟩).indented = .ok [layout] := by
  have hstorable : ∀ d ∈ [layout.built path], d.IsStorable :=
    List.forall_mem_singleton.mpr (DiskLayout.isStorable_built h hpath)
  have hwritable : (layout.built path).toJson.isWritable = true := by
    -- The numbers of the layout are within the limit because they were read. The bytes are not
    -- among them.
    refine Disk.isWritable_toJson_iff.mpr
      ⟨h.sectors_isWritable, h.sectorSize_isWritable, hbytes, List.forall_mem_map.mpr ?_⟩
    intro p hp
    have hp := h.partitions p hp
    exact Partition.isWritable_toJson_iff.mpr
      ⟨hp.number_isWritable, hp.first_isWritable, hp.last_isWritable⟩
  have hparse := Topology.parse_asLayout (t := ⟨[layout.built path], []⟩) hstorable
    (Topology.isWritable_asLayout_iff.mpr (List.forall_mem_singleton.mpr hwritable))
  rw [parse_asLayout hstorable hparse, List.map_singleton, DiskLayout.asLayout_built hpath]

/-- A layout is loaded and a plan is made over it, as far as it gets. If the plan can be
    written, so can the layout of its disks; and exactly then it is read as what it is.
    Any text that is read so is a layout that is loaded, and the disks in it are those of
    the plan as they are found. -/
theorem load_asLayout {path contents : String} {probe : Probe}
    (hload : (Layout.load path contents).answer = .ok probe) (r : Requests) :
    let plan := (configure probe r).state
    (plan.toJson.isWritable = true → plan.asLayout.isWritable = true) ∧
      (Json.parse plan.asLayout.indented = .ok plan.asLayout ↔
        plan.asLayout.isWritable = true) ∧
      ∀ path' contents', Json.parse contents' = .ok plan.asLayout →
        (Layout.load path' contents').answer = .ok (.static (plan.disks.map Disk.asFound)) := by
  intro plan
  have hdisks : ∀ d ∈ plan.disks, d.IsStorable := configure_isStorable hload r
  refine ⟨Topology.isWritable_asLayout, ⟨fun h => ?_, fun h => ?_⟩, fun path' contents' h => ?_⟩
  · -- Whatever was read had its numbers within the limit.
    exact (Json.isSpelled_of_parse h).isWritable
  · exact Topology.parse_asLayout hdisks h
  · -- How the text is laid out does not matter, as long as this value is read from it.
    rw [← Layout.built_asLayout hdisks]
    exact Layout.load_of_parse path' (Layout.parse_asLayout hdisks h)

/-- A partition that is to be removed is in the layout of a plan like any other, and the
    new ones are in it as if they were there. -/
theorem load_asLayout_ofGap :
    let plan := configure (.static Disk.ofGap) .ofGap
    (Layout.load "layout.json" Layout.ofGap).answer = .ok (.static Disk.ofGap) ∧
      plan.answer = .ok () ∧ plan.state.toJson.isWritable = true ∧
      (Layout.load "plan.json" plan.state.asLayout.indented).answer =
        .ok (.static (plan.state.disks.map Disk.asFound)) ∧
      (plan.state.disks.map Disk.asFound).map (fun d =>
          (d.table, d.partitions.map fun p => (p.path, p.number, p.first, p.last))) =
        [(some .gpt, [("/dev/sda1", 1, 5000, 9999), ("/dev/sda3", 3, 10000, 11999),
            ("/dev/sda4", 4, 10000, 35904)]),
          (some .gpt,
            [("/dev/nvme0n1p1", 1, 4096, 20000), ("/dev/nvme0n1p2", 2, 24000, 35904)])] := by
  intro plan
  have hwritable : plan.state.toJson.isWritable = true := by decide +kernel
  rcases load_asLayout Layout.load_ofGap .ofGap with ⟨hlayout, hread, hload⟩
  have hparse := hread.mpr (hlayout hwritable)
  exact ⟨Layout.load_ofGap, by decide +kernel, hwritable, hload "plan.json" _ hparse,
    by decide +kernel⟩

end DiskPlan
