import DiskPlan.Proofs.Placement
import DiskPlan.Proofs.StoredPlans
import Mathlib.Algebra.BigOperators.Ring.List
import Mathlib.Algebra.Order.BigOperators.Group.List

/-!
# Conservation of Capacity

A plan makes no capacity out of nothing, from the disks to the volume groups.

Three things have to be known for this. The partitions that stay on a disk share no sector,
so counting what they occupy counts nothing twice, and it all lies on the disk: this is
where the placement of partitions turns from a fact about pairs into a bound on a sum. A
physical volume brings whole sectors of 512 bytes into its group and loses what is left
over, which is less than one sector for each of them, and nothing where sectors of 512 bytes
fill those of the disk. And no partition is in two groups, since groups have different names
and a partition names one.

A layout is not checked for overlaps when it is read, and neither is where its partitions
end. Both are asked of it here, for all that follows from them is that they stay so.

## Main definitions

* `DiskLayout.IsDisjoint`: A disk whose partitions lie on it and share no sector.
* `Partition.occupied`: The sectors of a partition, one by one.
* `PhysicalVolume.bytes`: The size of a physical volume.
* `Topology.IsConserved`: No capacity comes out of nothing.

## Theorems

* `Partition.nodup_flatMap_occupied`: No sector is occupied twice.
* `Disk.IsPlaced.sum_sectors_le`: Partitions that share no sector fit on their disk.
* `PhysicalVolume.sum_bounds`, `PhysicalVolume.sum_eq`: What is lost to rounding.
* `sum_filter_le`: What is divided by names is no more than the whole.
* `Topology.isConserved`: Groups as they are made take their sectors from disks.
* `configure_isPlaced`: A plan over a disjoint layout keeps partitions apart.
* `configure_isConserved`: A plan over a disjoint layout conserves capacity.
-/

namespace DiskPlan

/-- A disk of a layout whose partitions end on the disk and share no sector. A layout file can
    say otherwise: nothing in it is compared with anything but a partition's own range. -/
structure DiskLayout.IsDisjoint (d : DiskLayout) : Prop where
  bound : ∀ p ∈ d.partitions, p.last < d.sectors
  apart : d.partitions.Pairwise fun p q => p.last < q.first ∨ q.last < p.first

/-! ### Sectors of a disk -/

namespace Partition

/-- The sectors that a partition occupies, one by one. The sum of sizes on a disk is a count of
    these. -/
def occupied (p : Partition) : List Int :=
  (List.range p.sectors.toNat).map fun index : Nat => p.first + index

/-- A sector is occupied exactly if it lies between the first and the last one. -/
theorem mem_occupied_iff {p : Partition} {sector : Int} : sector ∈ p.occupied ↔ p.Holds sector := by
  unfold occupied Holds sectors
  rw [List.mem_map]
  constructor
  · rintro ⟨index, hindex, rfl⟩
    have hlast := List.mem_range.mp hindex
    omega
  · rintro ⟨hfirst, hlast⟩
    exact ⟨(sector - p.first).toNat, List.mem_range.mpr (by omega), by omega⟩

/-- No sector is counted twice in one partition. -/
theorem nodup_occupied (p : Partition) : p.occupied.Nodup :=
  List.nodup_range.map fun _ _ hsame => Int.ofNat.inj (Int.add_left_cancel hsame)

variable {ps : List Partition}

/-- Partitions that share no sector occupy no sector twice, neither within one of them nor in
    two. -/
theorem nodup_flatMap_occupied (h : ps.Pairwise Apart) : (ps.flatMap occupied).Nodup := by
  refine List.nodup_flatMap.mpr ⟨fun p _ => p.nodup_occupied, h.imp fun {p q} hapart => ?_⟩
  intro sector hp hq
  exact hapart sector ⟨mem_occupied_iff.mp hp, mem_occupied_iff.mp hq⟩

/-- There are as many occupied sectors as the sizes add up to, unless a size is negative. -/
theorem length_flatMap_occupied (h : ∀ p ∈ ps, 0 ≤ p.sectors) :
    ((ps.flatMap occupied).length : Int) = (ps.map sectors).sum := by
  induction ps with
  | nil => rfl
  | cons p rest ih =>
      rw [List.forall_mem_cons] at h
      have hfirst : (p.occupied.length : Int) = p.sectors := by
        unfold occupied
        rw [List.length_map, List.length_range, Int.toNat_of_nonneg h.1]
      rw [List.flatMap_cons, List.length_append, List.map_cons, List.sum_cons, ← ih h.2, ← hfirst]
      exact Int.natCast_add _ _

end Partition

theorem Disk.IsPlaced.sectors_nonneg {d : Disk} (h : d.IsPlaced) :
    ∀ p ∈ d.active, 0 ≤ p.sectors := by
  intro p hp
  have hrange := (h.within p hp).2.1
  unfold Partition.sectors
  omega

/-- The partitions that stay on a disk have no more sectors together than the disk. What they
    occupy is a list without repetitions inside the list of all sectors, so it is no longer than
    that one. -/
theorem Disk.IsPlaced.sum_sectors_le {d : Disk} (h : d.IsPlaced) (hsectors : 0 ≤ d.sectors) :
    (d.active.map Partition.sectors).sum ≤ d.sectors := by
  -- Whatever is occupied lies on the disk, since each partition does.
  have hwithin : d.active.flatMap Partition.occupied ⊆
      (List.range d.sectors.toNat).map fun sector : Nat => (sector : Int) := by
    intro sector hsector
    rcases List.mem_flatMap.mp hsector with ⟨p, hp, hoccupied⟩
    rcases Partition.mem_occupied_iff.mp hoccupied with ⟨hfirst, hlast⟩
    rcases h.within p hp with ⟨hnonneg, _, hbound⟩
    exact List.mem_map.mpr ⟨sector.toNat, List.mem_range.mpr (by omega), by omega⟩
  -- Nothing is counted twice, so there are no more of these sectors than of all.
  have hnodup := Partition.nodup_flatMap_occupied h.apart
  have hlength := (List.subperm_of_subset hnodup hwithin).length_le
  rw [List.length_map, List.length_range] at hlength
  rw [← Partition.length_flatMap_occupied h.sectors_nonneg]
  omega

/-! ### Sectors of a group -/

namespace PhysicalVolume

/-- The size of a physical volume in bytes. Its sectors are those of its disk, which need not
    have the 512 bytes that a sector of a group has. -/
def bytes (v : Disk × Partition) : Int :=
  v.2.sectors * v.1.sectorSize

/-- A physical volume loses less than a sector of 512 bytes. Each of them is rounded down by
    itself, so what a group loses is bounded by the number of its members and not by a single
    sector. -/
theorem sum_bounds (vs : List (Disk × Partition)) :
    512 * (vs.map sectors).sum ≤ (vs.map bytes).sum ∧
      (vs.map bytes).sum ≤ 512 * (vs.map sectors).sum + 511 * vs.length := by
  induction vs with
  | nil => exact ⟨Int.le_refl 0, Int.le_refl 0⟩
  | cons v rest ih =>
      -- The division is known to the arithmetic, which bounds the rest by the divisor.
      have hsectors : sectors v = bytes v / 512 := rfl
      rw [List.map_cons, List.map_cons, List.sum_cons, List.sum_cons, List.length_cons, hsectors]
      push_cast
      omega

/-- Nothing is lost where sectors of 512 bytes fill those of the disk. This is so for all usual
    sizes. -/
theorem sum_eq {vs : List (Disk × Partition)} (h : ∀ v ∈ vs, 512 ∣ v.1.sectorSize) :
    512 * (vs.map sectors).sum = (vs.map bytes).sum := by
  induction vs with
  | nil => rfl
  | cons v rest ih =>
      rw [List.forall_mem_cons] at h
      have hfirst : 512 * sectors v = bytes v :=
        Int.mul_ediv_cancel' (Dvd.dvd.mul_left h.1 v.2.sectors)
      rw [List.map_cons, List.map_cons, List.sum_cons, List.sum_cons, Int.mul_add, hfirst,
        ih h.2]

end PhysicalVolume

/-! ### Groups of a plan -/

section Division

variable {α : Type} (key : α → Option String)

/-- What has another name is left where one name is taken out. A name divides the same part off,
    whether or not another one has been divided off before. -/
theorem filter_filter_of_ne {name other : String} (hne : other ≠ name) (as : List α) :
    (as.filter fun a => !(key a == some name)).filter (fun a => key a == some other) =
      as.filter fun a => key a == some other := by
  rw [List.filter_filter]
  refine List.filter_congr fun a _ => ?_
  cases hkey : key a == some other with
  | false => rfl
  | true =>
      have hname : key a ≠ some name := by
        rw [beq_iff_eq.mp hkey]
        exact fun hsame => hne (Option.some.inj hsame)
      rw [beq_eq_false_iff_ne.mpr hname]
      rfl

/-- What is divided by different names is no more than the whole. Something may have a name that
    is not in the list, or none, which is why the two sides need not be equal. -/
theorem sum_filter_le {size : α → Int} {names : List String} (hnames : names.Nodup)
    {as : List α} (hsize : ∀ a ∈ as, 0 ≤ size a) :
    (names.map fun name => ((as.filter fun a => key a == some name).map size).sum).sum ≤
      (as.map size).sum := by
  induction names generalizing as with
  | nil => exact List.sum_nonneg (List.forall_mem_map.mpr hsize)
  | cons name rest ih =>
      rw [List.nodup_cons] at hnames
      -- The other names divide what is left without the first one.
      have hsplit := ((as.filter_append_perm fun a => key a == some name).map size).sum_eq
      have hleft : ∀ a ∈ as.filter fun a => !(key a == some name), 0 ≤ size a :=
        fun a ha => hsize a (List.mem_filter.mp ha).1
      have hothers := ih hnames.2 hleft
      have hne : ∀ other ∈ rest, other ≠ name := fun other hother hsame =>
        hnames.1 (hsame ▸ hother)
      rw [List.map_congr_left fun other hother => by
        rw [filter_filter_of_ne key (hne other hother)]] at hothers
      rw [List.map_append, List.sum_append] at hsplit
      rw [List.map_cons, List.sum_cons]
      omega

end Division

namespace Topology

/-- A topology in which no capacity comes out of nothing: neither on a disk, nor from the
    physical volumes to their group, nor from all disks to all groups. -/
structure IsConserved (t : Topology) : Prop where
  /-- The partitions that stay fit on their disk. -/
  disks : ∀ d ∈ t.disks, (d.active.map Partition.sectors).sum ≤ d.sectors
  members : ∀ g ∈ t.groups,
    g.physicalVolumes = (t.physicalVolumesOf g.name).map PhysicalVolume.device
  sectors_le : ∀ g ∈ t.groups,
    512 * g.sectors ≤ ((t.physicalVolumesOf g.name).map PhysicalVolume.bytes).sum
  /-- A group loses less than a sector for each of its members. -/
  sectors_lt : ∀ g ∈ t.groups,
    ((t.physicalVolumesOf g.name).map PhysicalVolume.bytes).sum - 512 * g.sectors <
      512 * (t.physicalVolumesOf g.name).length
  sectors_eq : ∀ g ∈ t.groups, (∀ v ∈ t.physicalVolumesOf g.name, 512 ∣ v.1.sectorSize) →
    512 * g.sectors = ((t.physicalVolumesOf g.name).map PhysicalVolume.bytes).sum
  total : (t.groups.map VolumeGroup.bytes).sum ≤ (t.disks.map Disk.bytes).sum

variable {t : Topology}

/-- The physical volumes on a disk are among the partitions that stay, so they share its room
    with these. -/
theorem sublist_active (d : Disk) :
    (d.partitions.filter fun p => !p.removed && p.target == some .lvm).Sublist d.active :=
  List.monotone_filter_right _ fun _ hp => ((Bool.and_eq_true _ _).mp hp).1

section Sizes

variable (hplaced : ∀ d ∈ t.disks, d.IsPlaced)
  (hsizes : ∀ d ∈ t.disks, 0 ≤ d.sectors ∧ 0 ≤ d.sectorSize)
include hplaced hsizes

theorem bytes_nonneg : ∀ v ∈ t.physicalVolumes, 0 ≤ PhysicalVolume.bytes v := by
  intro v hv
  rcases List.mem_flatMap.mp hv with ⟨d, hd, hv⟩
  rcases List.mem_map.mp hv with ⟨p, hp, rfl⟩
  have hactive := (sublist_active d).subset hp
  exact Int.mul_nonneg ((hplaced d hd).sectors_nonneg p hactive) (hsizes d hd).2

/-- The physical volumes are no larger than the disks that they are on. Disk by disk they are
    some of the partitions that stay, and these are no larger than the disk. -/
theorem sum_physicalVolumes_le :
    (t.physicalVolumes.map PhysicalVolume.bytes).sum ≤ (t.disks.map Disk.bytes).sum := by
  unfold physicalVolumes
  rw [List.map_flatMap, List.flatMap_def, List.sum_flatten, List.map_map]
  refine List.sum_le_sum fun d hd => ?_
  have hnonneg := List.forall_mem_map.mpr (hplaced d hd).sectors_nonneg
  have hsectors := (((sublist_active d).map Partition.sectors).sum_le_sum hnonneg).trans
    ((hplaced d hd).sum_sectors_le (hsizes d hd).1)
  have hbytes : PhysicalVolume.bytes ∘ (fun p => (d, p)) = fun p => p.sectors * d.sectorSize := rfl
  -- On one disk all sectors have one size, which can be taken out of the sum.
  rw [Function.comp_apply, List.map_map, hbytes, List.sum_map_mul_right]
  exact Int.mul_le_mul_of_nonneg_right hsectors (hsizes d hd).2

end Sizes

/-- A group has a member, since its name comes from one. This is what makes the bound on the loss
    strict. -/
theorem IsGrouped.length_pos (h : t.IsGrouped) {g : VolumeGroup} (hg : g ∈ t.groups) :
    0 < (t.physicalVolumesOf g.name).length := by
  have hname := List.mem_map_of_mem (f := VolumeGroup.name) hg
  rw [h.names, List.mem_eraseDups] at hname
  rcases List.mem_filterMap.mp hname with ⟨v, hv, hgroup⟩
  exact List.length_pos_of_mem (List.mem_filter.mpr ⟨hv, beq_iff_eq.mpr hgroup⟩)

/-- Groups that are made of their members, of sectors of 512 bytes, conserve capacity. The four
    clauses about a single group follow from its members, and the total from dividing all
    physical volumes by the names of the groups. -/
theorem isConserved (hplaced : ∀ d ∈ t.disks, d.IsPlaced)
    (hsizes : ∀ d ∈ t.disks, 0 ≤ d.sectors ∧ 0 ≤ d.sectorSize)
    (hgrouped : t.IsGrouped) (hsectors : ∀ g ∈ t.groups, g.sectorSize = 512) :
    t.IsConserved := by
  have hbounds := fun name => PhysicalVolume.sum_bounds (t.physicalVolumesOf name)
  have hdisks := fun d hd => (hplaced d hd).sum_sectors_le (hsizes d hd).1
  refine ⟨hdisks, hgrouped.devices, ?_, ?_, ?_, ?_⟩
  · intro g hg
    rw [hgrouped.sectors g hg]
    exact (hbounds g.name).1
  · intro g hg
    rw [hgrouped.sectors g hg]
    have hle := (hbounds g.name).2
    have hmember := hgrouped.length_pos hg
    omega
  · intro g hg hfills
    rw [hgrouped.sectors g hg]
    exact PhysicalVolume.sum_eq hfills
  · -- A group has no more bytes than its members, and the members are divided among the groups.
    have hbytes : ∀ g ∈ t.groups, g.bytes ≤
        ((t.physicalVolumesOf g.name).map PhysicalVolume.bytes).sum := by
      intro g hg
      unfold VolumeGroup.bytes
      rw [hsectors g hg, hgrouped.sectors g hg, Int.mul_comm]
      exact (hbounds g.name).1
    have hdivided := sum_filter_le PhysicalVolume.group? hgrouped.nodup
      (bytes_nonneg hplaced hsizes)
    rw [List.map_map] at hdivided
    exact (List.sum_le_sum hbytes).trans (hdivided.trans (sum_physicalVolumes_le hplaced hsizes))

end Topology

/-! ### Plans -/

/-- A disk that is built of a disjoint one in a layout is placed. Nothing on it is to be removed
    yet, so all its partitions are active. -/
theorem DiskLayout.isPlaced_built {layout : DiskLayout} (hsound : layout.IsSound)
    (h : layout.IsDisjoint) (path : String) : (layout.built path).IsPlaced := by
  have hactive : (layout.built path).active = layout.partitions.map (PartitionLayout.built path) :=
    List.filter_eq_self.mpr (List.forall_mem_map.mpr fun _ _ => rfl)
  constructor
  · rw [hactive]
    refine List.forall_mem_map.mpr fun p hp => ?_
    exact ⟨(hsound.partitions p hp).first, (hsound.partitions p hp).lt.le, h.bound p hp⟩
  · rw [hactive, List.pairwise_map]
    refine h.apart.imp fun {p q} hapart => ?_
    rintro sector ⟨⟨hp, hp'⟩, hq, hq'⟩
    -- Of two partitions one ends before the other begins, so a sector cannot be in both.
    rcases hapart with hbefore | hbehind
    · exact absurd (hp'.trans_lt hbefore) (Int.not_lt.mpr hq)
    · exact absurd (hq'.trans_lt hbehind) (Int.not_lt.mpr hp)

/-- The disks of a plan over a layout whose disks are disjoint are placed, as far as the plan
    gets. -/
theorem configure_isPlaced {path contents : String} {layouts : List DiskLayout} {probe : Probe}
    (hparse : Layout.parse contents = .ok layouts)
    (hload : (Layout.load path contents).answer = .ok probe)
    (hdisjoint : ∀ layout ∈ layouts, layout.IsDisjoint) (r : Requests) :
    ∀ d ∈ (configure probe r).state.disks, d.IsPlaced :=
  configure_disks_of_parse hparse hload
    (fun layout hlayout hsound path _ =>
      DiskLayout.isPlaced_built hsound (hdisjoint layout hlayout) path)
    DiskAction.Change.isPlaced r

/-- A plan over a layout whose disks are disjoint conserves capacity: the partitions that stay
    fit on their disks, a volume group has the bytes of its members up to what is left over of
    less than a sector each, and all groups together have no more than all disks. Nothing is
    asked of the sizes of sectors, and the plan may move, remove and add partitions as it likes. -/
theorem configure_isConserved {path contents : String} {layouts : List DiskLayout} {probe : Probe}
    {r : Requests} (hparse : Layout.parse contents = .ok layouts)
    (hload : (Layout.load path contents).answer = .ok probe)
    (hdisjoint : ∀ layout ∈ layouts, layout.IsDisjoint)
    (hplan : (configure probe r).answer = .ok ()) :
    (configure probe r).state.IsConserved := by
  -- Groups are made once, in the stage before the volumes, and nothing changes their members
  -- later.
  have hmade := configure_withoutVolumes hplan
  have hattached : (configure probe r).state.ForallPartitions Partition.IsAttached := by
    unfold Topology.ForallPartitions
    rw [configure_disks hplan]
    exact isAttached_of_prepare hload r
  refine Topology.isConserved (configure_isPlaced hparse hload hdisjoint r) (fun d hd => ?_)
    (Topology.isGrouped_of_withoutVolumes hattached hmade) fun g hg => ?_
  · have hstorable := configure_isStorable hload r d hd
    have hsectorSize := hstorable.sectorSize
    exact ⟨hstorable.sectors.le, by omega⟩
  · -- A group has the sectors that it was made with, which volumes do not change.
    have hmem := List.mem_map_of_mem (f := VolumeGroup.withoutVolumes) hg
    rw [hmade] at hmem
    rcases List.mem_map.mp hmem with ⟨_, _, hsame⟩
    exact (congrArg VolumeGroup.sectorSize hsame).symm

/-- A layout of two disks, one of them with two partitions and one with sectors that are
    not filled by sectors of 512 bytes. -/
def Layout.ofUneven : String :=
  "\x7b\"disks\":[\x7b\"device_path\":\"sda\",\"sectors\":40000,\"partitions\":[" ++
    "\x7b\"number\":1,\"start_sector\":5000,\"end_sector\":9999\x7d," ++
    "\x7b\"number\":2,\"start_sector\":10000,\"end_sector\":19999\x7d]\x7d," ++
    "\x7b\"device_path\":\"sdb\",\"sectors\":20000,\"sector_size\":520\x7d]\x7d"

/-- The disks that the layout describes. -/
def DiskLayout.ofUneven : List DiskLayout :=
  [{ path := some "/dev/sda"
     sectors := 40000
     sectorSize := 512
     model := .ofString "Unknown"
     table := none
     partitions :=
      [⟨1, 5000, 9999, .primary, none, none, []⟩, ⟨2, 10000, 19999, .primary, none, none, []⟩] },
    { path := some "/dev/sdb"
      sectors := 20000
      sectorSize := 520
      model := .ofString "Unknown"
      table := none
      partitions := [] }]

/-- A plan with a group on both disks and a group on the one with the odd sectors. -/
def Requests.ofUneven : Requests where
  disks := ["sda", "sdb"]
  tables := ["sdb:gpt"]
  deletes := ["sda:2"]
  moves := []
  reuses := ["sda:1:lvm=root"]
  creates := ["sdb:primary:start:50%:lvm=data", "sdb:primary:11000:end:lvm=root"]
  logicals := ["data:home:50%:ext4"]

theorem configure_isConserved_ofUneven :
    let plan := configure (.static (Layout.built DiskLayout.ofUneven)) Requests.ofUneven
    Layout.parse Layout.ofUneven = .ok DiskLayout.ofUneven ∧
      (Layout.load "layout.json" Layout.ofUneven).answer =
        .ok (.static (Layout.built DiskLayout.ofUneven)) ∧
      (∀ layout ∈ DiskLayout.ofUneven, layout.IsDisjoint) ∧ plan.answer = .ok () ∧
      plan.state.groups.map (fun g => (g.name, g.sectors,
          ((plan.state.physicalVolumesOf g.name).map PhysicalVolume.bytes).sum)) =
        [("root", 10046, 5143880), ("data", 6062, 3103880)] ∧
      plan.state.IsConserved := by
  intro plan
  have hparse : Layout.parse Layout.ofUneven = .ok DiskLayout.ofUneven := by decide +kernel
  have hload := Layout.load_of_parse "layout.json" hparse
  have hdisjoint : ∀ layout ∈ DiskLayout.ofUneven, layout.IsDisjoint :=
    List.forall_mem_cons.mpr ⟨⟨by decide, by decide⟩,
      List.forall_mem_singleton.mpr ⟨by decide, by decide⟩⟩
  have hplan : plan.answer = .ok () := by decide +kernel
  exact ⟨hparse, hload, hdisjoint, hplan, by decide +kernel,
    configure_isConserved hparse hload hdisjoint hplan⟩

end DiskPlan
