import DiskPlan.Proofs.ListedDevices
import Mathlib.Algebra.Order.Ring.Int

/-!
# Listed Extents

Where the partitions of a listed disk lie, in bytes and in sectors.

A listing gives the start of a partition in units of 512 bytes, whatever the sectors of its
disk are, and its size in bytes. The size is turned into sectors of the disk. The start is
taken as it is, so the range that is read begins in one unit and goes on in another one. The
two are the same on a disk with sectors of 512 bytes. On any other disk a partition that
does not begin with the disk is read as one that begins too late, by as much as the sectors
are larger, though it has the right number of sectors.

So a partition that lies on its disk can be read as one that does not. What survives is the
order: starts are spread too far apart, and lengths are not, so partitions that are apart in
bytes are apart in sectors.

## Main definitions

* `ByteExtent`: A range of bytes.
* `ByteExtent.IsListed`: The range of a partition, as a listing gives it.
* `ByteExtent.IsReadAs`: A range in sectors, as it is read.

## Theorems

* `ByteExtent.IsReadAs.first_mul_iff`, `ByteExtent.IsReadAs.end_mul_iff`: Where a partition begins
  and ends as it should.
* `ByteExtent.IsReadAs.last_lt_iff`: Where a partition lies on its disk.
* `DeviceListing.disk_extents`: The partitions of a disk and their ranges.
* `DeviceListing.extents_ofLargeSectors`: A disk on which they are astray.
-/

namespace DiskPlan

/-- A range of bytes. -/
structure ByteExtent where
  offset : Int
  size : Int
  deriving DecidableEq, Repr

namespace ByteExtent

/-- Ranges that have no byte in common: one of them ends where the other begins, or before. -/
def Apart (e f : ByteExtent) : Prop :=
  e.offset + e.size ≤ f.offset ∨ f.offset + f.size ≤ e.offset

/-- A range of whole sectors, as a partition has it on a disk with sectors of that size. -/
structure IsWhole (unit : Int) (e : ByteExtent) : Prop where
  offset_nonneg : 0 ≤ e.offset
  size_nonneg : 0 ≤ e.size
  offset_dvd : unit ∣ e.offset
  size_dvd : unit ∣ e.size

/-- The range of the partition that a child lists: its start counts units of 512 bytes, whatever
    the sectors are, and its size counts bytes. -/
structure IsListed (child : Json.Fields) (e : ByteExtent) : Prop where
  lists : ∃ path digits, DeviceListing.Lists child path digits
  start : ∃ start, DeviceListing.Reads 0 (Json.get? "start" child) start ∧
    start * 512 = e.offset
  size : DeviceListing.Reads 0 (Json.get? "size" child) e.size

/-- A partition that is read for a range: its start in units of 512 bytes, and its length in
    sectors, at least one. The two are put together as if the units were the same. -/
structure IsReadAs (unit : Int) (e : ByteExtent) (p : Partition) : Prop where
  first : p.first * 512 = e.offset
  sectors : p.sectors = max (e.size.fdiv unit) 1

variable {unit : Int} {e f : ByteExtent} {p q : Partition}

theorem IsWhole.le_size (h : e.IsWhole unit) (hsize : 0 < e.size) : unit ≤ e.size :=
  Int.le_of_dvd hsize h.size_dvd

/-- A partition begins where it should if its sectors are those of a listing, or if it begins
    with its disk. The factor between the two units is lost otherwise. -/
theorem IsReadAs.first_mul_iff (h : e.IsReadAs unit p) :
    p.first * unit = e.offset ↔ unit = 512 ∨ e.offset = 0 := by
  rw [← h.first]
  constructor
  · -- The same number of sectors and of units are the same bytes only if there are none.
    intro hsame
    by_cases hfirst : p.first = 0
    · exact Or.inr (by rw [hfirst, Int.zero_mul])
    · exact Or.inl (Int.eq_of_mul_eq_mul_left hfirst hsame)
  · rintro (rfl | hzero)
    · rfl
    · have hfirst : p.first = 0 := by omega
      rw [hfirst, Int.zero_mul, Int.zero_mul]

/-- The bytes of a partition are those of its range, or those of one sector, since a length in
    whole sectors loses nothing when it is divided. -/
theorem IsReadAs.sectors_mul (h : e.IsReadAs unit p) (hpos : 0 < unit) (hwhole : e.IsWhole unit) :
    p.sectors * unit = max e.size unit := by
  rw [h.sectors, max_mul_of_nonneg _ _ (Int.le_of_lt hpos), Int.fdiv_mul_cancel hwhole.size_dvd,
    Int.one_mul]

/-- The bytes up to the end of a partition. -/
theorem IsReadAs.end_mul (h : e.IsReadAs unit p) (hpos : 0 < unit) (hwhole : e.IsWhole unit) :
    (p.last + 1) * unit = p.first * unit + max e.size unit := by
  rw [← h.sectors_mul hpos hwhole, ← Int.add_mul]
  congr 1
  unfold Partition.sectors
  omega

/-- A partition ends where it should if it begins there, unless it has no bytes: then it is given
    one sector, which ends behind its range. -/
theorem IsReadAs.end_mul_iff (h : e.IsReadAs unit p) (hpos : 0 < unit) (hunits : 512 ∣ unit)
    (hwhole : e.IsWhole unit) :
    (p.last + 1) * unit = e.offset + e.size ↔ 0 < e.size ∧ (unit = 512 ∨ e.offset = 0) := by
  have hle : 512 ≤ unit := Int.le_of_dvd hpos hunits
  have hfirst : 0 ≤ p.first := by
    have hoffset := hwhole.offset_nonneg
    rw [← h.first] at hoffset
    omega
  -- The start in sectors is never in front of the start in units of 512 bytes.
  have hspread : p.first * 512 ≤ p.first * unit := Int.mul_le_mul_of_nonneg_left hle hfirst
  have hstart := h.first
  have hsize := hwhole.size_nonneg
  rw [h.end_mul hpos hwhole, ← h.first_mul_iff]
  constructor
  · intro hsame
    have hpositive : 0 < e.size := by omega
    exact ⟨hpositive, by have := hwhole.le_size hpositive; omega⟩
  · rintro ⟨hpositive, hsame⟩
    have := hwhole.le_size hpositive
    omega

/-- A partition is read as one on its disk if its start leaves room for it there. Its start is
    moved away from zero by the factor between the units. -/
theorem IsReadAs.last_lt_iff (h : e.IsReadAs unit p) (hpos : 0 < unit) (hunits : 512 ∣ unit)
    (hwhole : e.IsWhole unit) (bytes : Int) :
    p.last < bytes.fdiv unit ↔ e.offset * (unit / 512) + max e.size unit ≤ bytes := by
  have hstart : p.first * unit = e.offset * (unit / 512) := by
    rw [← h.first, Int.mul_assoc, Int.mul_ediv_cancel' hunits]
  rw [Int.fdiv_eq_ediv_of_nonneg _ (Int.le_of_lt hpos), ← Int.add_one_le_iff,
    Int.le_ediv_iff_mul_le hpos, h.end_mul hpos hwhole, hstart]

/-- A range that ends in front of another one is read as one that does, as the units of the
    starts are not longer than the sectors of the length. -/
theorem IsReadAs.last_lt_first (he : e.IsReadAs unit p) (hf : f.IsReadAs unit q) (hpos : 0 < unit)
    (hunits : 512 ∣ unit) (hwhole : e.IsWhole unit) (hsize : 0 < e.size)
    (hbefore : e.offset + e.size ≤ f.offset) : p.last < q.first := by
  have hsectors : p.sectors * unit = e.size := by
    rw [he.sectors_mul hpos hwhole, Int.max_eq_left (hwhole.le_size hsize)]
  -- A partition of no sectors would have no bytes.
  have hpositive : 0 < p.sectors := by
    by_contra hnone
    have hproduct := Int.mul_nonpos_of_nonpos_of_nonneg (Int.not_lt.mp hnone) (Int.le_of_lt hpos)
    omega
  -- The length in units of 512 bytes is not less than the length in sectors.
  have hlength : p.sectors * 512 ≤ p.sectors * unit :=
    Int.mul_le_mul_of_nonneg_left (Int.le_of_dvd hpos hunits) (Int.le_of_lt hpositive)
  have hstart := he.first
  have hnext := hf.first
  have hlast : p.last = p.first + p.sectors - 1 := by
    unfold Partition.sectors
    omega
  omega

/-- What is apart in bytes is read as apart in sectors, so partitions may be read in wrong
    places, but not on top of each other. -/
theorem IsReadAs.not_overlaps (he : e.IsReadAs unit p) (hf : f.IsReadAs unit q) (hpos : 0 < unit)
    (hunits : 512 ∣ unit) (hewhole : e.IsWhole unit) (hfwhole : f.IsWhole unit)
    (hesize : 0 < e.size) (hfsize : 0 < f.size) (hapart : e.Apart f) :
    ¬ p.Overlaps q.first q.last := by
  rintro ⟨hfirst, hlast⟩
  -- Whichever of the two comes first.
  rcases hapart with hbefore | hbehind
  · have hlt := he.last_lt_first hf hpos hunits hewhole hesize hbefore
    omega
  · have hlt := hf.last_lt_first he hpos hunits hfwhole hfsize hbehind
    omega

end ByteExtent

namespace DeviceListing

variable {fields child : Json.Fields} {children : List Json.Fields}

theorem Reads.unique {absent n m : Int} {v : Option Json} (hn : Reads absent v n)
    (hm : Reads absent v m) : n = m := by
  cases hn with
  | missing => cases hm; rfl
  | null => cases hm; rfl
  | int => cases hm; rfl
  | text hs =>
      cases hm with
      | text hs' => exact Option.some.inj (hs.symm.trans hs')

/-- The range of a partition is read with its start and its length, as both are read from the
    same fields. -/
theorem IsListedBy.isReadAs {unit : Int} {e : ByteExtent} {p : Partition}
    (hlisted : IsListedBy unit child p) (he : e.IsListed child) : e.IsReadAs unit p := by
  rcases he.start with ⟨start, hstart, hoffset⟩
  rcases hlisted.last with ⟨size, hsize, hlast⟩
  obtain rfl := hsize.unique he.size
  refine ⟨by rw [hlisted.first.unique hstart, hoffset], ?_⟩
  unfold Partition.sectors
  omega

/-- The partitions of a disk are read with their starts in units of 512 bytes, and those of
    whole sectors with their lengths. So each of these begins where it should if the sectors
    have 512 bytes or it begins with its disk, and only then, and so with their ends. Those that
    are apart are read as such. -/
theorem disk_extents {unit bytes : Int} {extents : List ByteExtent} (h : HasTree fields children)
    (hunit : Reads 512 (Json.get? "log-sec" fields) unit) (hpos : 0 < unit) (hunits : 512 ∣ unit)
    (hbytes : Reads 0 (Json.get? "size" fields) bytes)
    (hextents : Selects ByteExtent.IsListed ListsNone children extents) :
    ∃ d, disk (.object fields) = .ok d ∧ d.sectorSize = unit ∧
      List.Forall₂ (fun e p => p.first * 512 = e.offset ∧
        (p.first * unit = e.offset ↔ unit = 512 ∨ e.offset = 0) ∧
        (e.IsWhole unit → p.sectors * unit = max e.size unit ∧
          ((p.last + 1) * unit = e.offset + e.size ↔
            0 < e.size ∧ (unit = 512 ∨ e.offset = 0)) ∧
          (p.last < d.sectors ↔ e.offset * (unit / 512) + max e.size unit ≤ bytes)))
        extents d.partitions ∧
      ∀ a ∈ extents.zip d.partitions, ∀ b ∈ extents.zip d.partitions,
        a.1.IsWhole unit → b.1.IsWhole unit → 0 < a.1.size → 0 < b.1.size → a.1.Apart b.1 →
          ¬ a.2.Overlaps b.2.first b.2.last := by
  -- A child that lists a partition has a range, so its numbers are there.
  have hnumbers : ∀ child ∈ children, (∃ path digits, Lists child path digits) →
      (∃ start, Reads 0 (Json.get? "start" child) start) ∧
        ∃ size, Reads 0 (Json.get? "size" child) size := by
    rintro child hchild ⟨path, digits, hlists⟩
    rcases hextents.keeps_or_passes child hchild with ⟨e, he⟩ | hnone
    · rcases he.start with ⟨start, hstart, _⟩
      exact ⟨⟨start, hstart⟩, e.size, he.size⟩
    · exact absurd hlists (hnone path digits)
  rcases disk_of_hasTree h hunit hbytes hnumbers with ⟨d, hd, hsectorSize, hsectors, hselects⟩
  rw [if_neg (Int.ne_of_gt hpos)] at hsectorSize
  rw [hsectorSize] at hsectors hselects
  -- Ranges and partitions are both chosen from the children, so they go together.
  have hread : List.Forall₂ (ByteExtent.IsReadAs unit) extents d.partitions := by
    refine (hextents.forall₂ hselects (fun child e he hnone => ?_)
      fun child p hlisted hnone => ?_).imp fun e p ⟨child, he, hlisted⟩ => hlisted.isReadAs he
    · rcases he.lists with ⟨path, digits, hlists⟩
      exact hnone path digits hlists
    · rcases hlisted.number with ⟨digits, hlists, _⟩
      exact hnone p.path digits hlists
  refine ⟨d, hd, hsectorSize, hread.imp fun e p he => ?_, fun a ha b hb => ?_⟩
  · rw [hsectors]
    exact ⟨he.first, he.first_mul_iff, fun hwhole => ⟨he.sectors_mul hpos hwhole,
      he.end_mul_iff hpos hunits hwhole, he.last_lt_iff hpos hunits hwhole bytes⟩⟩
  · exact (List.forall₂_zip hread ha).not_overlaps (List.forall₂_zip hread hb) hpos hunits

/-- The children of a disk of 16 MiB: two partitions of 4 MiB, behind the first and behind the
    eighth mebibyte. -/
def childrenOfLargeSectors : List Json.Fields :=
  [[("path", .text "/dev/sda1"), ("type", .text "part"), ("start", .int 2048),
      ("size", .int 4194304)],
    [("path", .text "/dev/sda2"), ("type", .text "part"), ("start", .int 16384),
      ("size", .int 4194304)]]

/-- The disk, with sectors of 4096 bytes. -/
def fieldsOfLargeSectors : Json.Fields :=
  [("path", .text "/dev/sda"), ("type", .text "disk"), ("size", .int 16777216),
    ("log-sec", .int 4096), ("children", .list (childrenOfLargeSectors.map .object))]

/-- The ranges of the two partitions. -/
def extentsOfLargeSectors : List ByteExtent :=
  [⟨1048576, 4194304⟩, ⟨8388608, 4194304⟩]

theorem hasTree_ofLargeSectors : HasTree fieldsOfLargeSectors childrenOfLargeSectors := by
  have htyped : ∀ device ∈ fieldsOfLargeSectors :: childrenOfLargeSectors, IsTyped device := by
    intro device hdevice
    refine isTyped_of_lengths ?_
    revert device
    decide
  rw [List.forall_mem_cons] at htyped
  exact ⟨htyped.1, Or.inl rfl, htyped.2⟩

theorem selects_ofLargeSectors :
    Selects ByteExtent.IsListed ListsNone childrenOfLargeSectors extentsOfLargeSectors := by
  have hfirst : EndsInDigits "/dev/sda1" ['1'] := endsInDigits_iff.mpr (by decide +kernel)
  have hsecond : EndsInDigits "/dev/sda2" ['2'] := endsInDigits_iff.mpr (by decide +kernel)
  refine .keep ?_ (.keep ?_ .nil)
  · exact ⟨⟨_, _, Or.inr ⟨"part", by decide, rfl⟩, rfl, hfirst⟩, ⟨2048, .int 2048, by decide⟩,
      .int _⟩
  · exact ⟨⟨_, _, Or.inr ⟨"part", by decide, rfl⟩, rfl, hsecond⟩, ⟨16384, .int 16384, by decide⟩,
      .int _⟩

theorem isWhole_ofLargeSectors : ∀ e ∈ extentsOfLargeSectors, e.IsWhole 4096 := by
  refine List.forall_mem_cons.mpr ⟨⟨?_, ?_, ?_, ?_⟩, List.forall_mem_singleton.mpr ⟨?_, ?_, ?_, ?_⟩⟩
  all_goals decide

/-- Both partitions are read with their lengths. -/
theorem disk_extents_ofLargeSectors :
    ∃ d, disk (.object fieldsOfLargeSectors) = .ok d ∧ d.sectorSize = 4096 ∧
      ∀ a ∈ extentsOfLargeSectors.zip d.partitions,
        a.2.first * 512 = a.1.offset ∧ a.2.sectors * 4096 = max a.1.size 4096 := by
  have hunit : Reads 512 (Json.get? "log-sec" fieldsOfLargeSectors) 4096 := .int 4096
  rcases disk_extents hasTree_ofLargeSectors hunit (by decide) (by decide)
    (.int 16777216) selects_ofLargeSectors with ⟨d, hd, hsectorSize, hread, _⟩
  refine ⟨d, hd, hsectorSize, fun a ha => ?_⟩
  rcases List.forall₂_zip hread ha with ⟨hfirst, _, hwhole⟩
  exact ⟨hfirst, (hwhole (isWhole_ofLargeSectors a.1 (List.of_mem_zip ha).1)).1⟩

/-- Both partitions lie on the disk, as sectors 256 to 1279 and 2048 to 3071. The first one is
    read where the second one should be, and the second one behind the end of the disk. -/
theorem extents_ofLargeSectors :
    Selects ByteExtent.IsListed ListsNone childrenOfLargeSectors extentsOfLargeSectors ∧
      (∀ e ∈ extentsOfLargeSectors, e.IsWhole 4096) ∧
      extentsOfLargeSectors.map (fun e => (e.offset, e.offset + e.size)) =
        [(256 * 4096, (1279 + 1) * 4096), (2048 * 4096, (3071 + 1) * 4096)] ∧
      ∃ d, disk (.object fieldsOfLargeSectors) = .ok d ∧ d.sectorSize = 4096 ∧ d.sectors = 4096 ∧
        d.partitions.map (fun p => (p.first, p.last)) = [(2048, 3071), (16384, 17407)] := by
  have hread : (disk (.object fieldsOfLargeSectors)).toOption.map (fun d =>
      (d.sectorSize, d.sectors, d.partitions.map fun p => (p.first, p.last))) =
        some (4096, 4096, [(2048, 3071), (16384, 17407)]) := by decide +kernel
  refine ⟨selects_ofLargeSectors, isWhole_ofLargeSectors, by decide, ?_⟩
  cases hd : disk (.object fieldsOfLargeSectors) with
  | error f =>
      rw [hd] at hread
      exact absurd hread (by simp [Except.toOption])
  | ok d =>
      rw [hd, Except.toOption, Option.map_some, Option.some.injEq, Prod.mk.injEq,
        Prod.mk.injEq] at hread
      exact ⟨d, rfl, hread.1, hread.2.1, hread.2.2⟩

end DeviceListing

end DiskPlan
