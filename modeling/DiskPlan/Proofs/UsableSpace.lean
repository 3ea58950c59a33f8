import DiskPlan.Disk

/-!
# The Usable Space of a Disk

The sectors that a position can stand for on a disk.

A disk keeps some sectors free at both of its ends, and a position that points at one of
them, or beyond the disk, is moved into the space between. A range between two positions
therefore never reaches outside of this space, whatever the two positions are. All that can
be wrong with it is its direction. This is also how a disk without any room between its
ends is refused: every position then stands for the same sector, the first one behind those
that are kept free at the start.

Both numbers are found by dividing by the size of a sector. On a disk whose sectors have a
size no division fails, so `Disk.reserved` and `Disk.sectorAt` are plain numbers, and
`Disk.resolve?_eq_sectorAt` says that they are what is found.

## Main definitions

* `Disk.reserved`: The sectors kept free at each end of a disk.
* `Disk.sectorAt`: The sector that a position stands for.

## Theorems

* `Disk.resolve?_bounds`: A position lies between the sectors that are kept free.
* `Disk.resolve?_eq_sectorAt`: A position on a disk whose sectors have a size.
* `Disk.range_bounds`: A range of positions lies in the usable space.
* `Disk.sectorAt_of_le`: Without usable space all positions are the same.
-/

namespace DiskPlan

namespace Disk

/-- A position lies between the sectors that are kept free, or on the last of those at the
    start where nothing is left between the two ends. -/
theorem resolve?_bounds {d : Disk} {position : Position} {reserved sector : Int}
    (hreserved : d.reserved? = .ok reserved) (h : d.resolve? position = .ok sector) :
    reserved ≤ sector ∧ sector ≤ Position.limit d.sectors reserved := by
  unfold resolve? at h
  rw [hreserved] at h
  dsimp only at h
  unfold Position.resolve? at h
  -- Only the division can fail, and here it did not.
  split at h
  · exact absurd h (by simp)
  · rw [← Except.ok.inj h]
    exact ⟨Position.reserved_le_resolve _ _ _ _, Position.resolve_le _ _ _ _⟩

/-- The sectors that a disk keeps free at each of its ends. -/
def reserved (d : Disk) : Int :=
  Int.fdiv reservedBytes d.sectorSize

/-- The sector that a position stands for on a disk. -/
def sectorAt (d : Disk) (position : Position) : Int :=
  position.resolve d.sectors d.sectorSize d.reserved

variable {d : Disk}

section SectorSize

variable (hsize : 0 < d.sectorSize)
include hsize

/-- On a disk whose sectors have a size, what is kept free at its ends can be found. -/
theorem reserved?_eq : d.reserved? = .ok d.reserved :=
  if_neg (Int.ne_of_gt hsize)

/-- So can the sector of a position. -/
theorem resolve?_eq_sectorAt (position : Position) :
    d.resolve? position = .ok (d.sectorAt position) := by
  unfold resolve?
  rw [reserved?_eq hsize]
  exact Position.resolve?_eq (Int.ne_of_gt hsize) _ _ position

/-- Neither number is negative, so it makes no difference how the quotient is rounded. -/
theorem reserved_eq : d.reserved = reservedBytes / d.sectorSize :=
  Int.fdiv_eq_ediv_of_nonneg _ (Int.le_of_lt hsize)

/-- A disk does not keep fewer than no sectors free. -/
theorem reserved_nonneg : 0 ≤ d.reserved := by
  rw [reserved_eq hsize]
  exact Int.ediv_nonneg (by decide) (Int.le_of_lt hsize)

/-- A disk keeps no more sectors free than it keeps bytes free. -/
theorem reserved_le : d.reserved ≤ reservedBytes := by
  rw [reserved_eq hsize]
  exact Int.ediv_le_self _ (by decide)

/-- A sector that is not larger than what is kept free is kept free. -/
theorem one_le_reserved (hle : d.sectorSize ≤ reservedBytes) : 1 ≤ d.reserved := by
  rw [reserved_eq hsize, Int.le_ediv_iff_mul_le hsize, Int.one_mul]
  exact hle

end SectorSize

/-- A position never points at the sectors that are kept free at the start. -/
theorem reserved_le_sectorAt (d : Disk) (position : Position) :
    d.reserved ≤ d.sectorAt position :=
  Position.reserved_le_resolve _ _ _ _

/-- Nor does it point at those at the end, unless there is nothing left between the two. -/
theorem sectorAt_le (d : Disk) (position : Position) :
    d.sectorAt position ≤ max d.reserved (d.sectors - d.reserved) :=
  Position.resolve_le _ _ _ _

/-- A range between two positions leaves the sectors at both ends free. -/
theorem range_bounds {first last : Position} (h : d.sectorAt first < d.sectorAt last) :
    d.reserved ≤ d.sectorAt first ∧ d.sectorAt last ≤ d.sectors - d.reserved := by
  have hfirst := d.reserved_le_sectorAt first
  have hlast := d.sectorAt_le last
  -- Were there nothing between the two ends, the last sector could only be the first one.
  omega

/-- On a disk that has no more sectors than it keeps free, every position stands for the
    same sector. -/
theorem sectorAt_of_le (h : d.sectors ≤ 2 * d.reserved) (position : Position) :
    d.sectorAt position = d.reserved := by
  -- The two bounds of a position meet in the first sector that is not kept free.
  have hfirst := d.reserved_le_sectorAt position
  have hlast := d.sectorAt_le position
  omega

end Disk

end DiskPlan
