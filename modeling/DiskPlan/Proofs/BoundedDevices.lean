import DiskPlan.Proofs.Actions
import DiskPlan.Proofs.LayoutValues
import DiskPlan.Proofs.ModestTokens
import DiskPlan.Proofs.Placement
import DiskPlan.Proofs.UsableSpace

/-!
# Devices of Bounded Numbers

What is told while a device is changed whose numbers are bounded.

A number that is shown has to be written, so it has to be known how large the numbers of a
device can get. Only one thing makes them grow: a new partition gets a number behind the
others. Where a partition begins and ends is bounded by its device, since a range is checked
before it is taken, and a range that fails the check is made of bounded numbers too. So
`IsBounded` is kept by every action, but that a partition that is added takes the bound up
by one. As long as the bound itself is in reach of `Decimal.vastLimit`, all that an action
tells can be written.

A sector size is at least that of the smallest sectors, so no division by it fails, and a
position always stands for a sector. That is the other half of what could go wrong.

## Main definitions

* `Decimal.vastLimit`: A limit of which any small multiple can be written.
* `Partition.IsBounded`, `Disk.IsBounded`, `VolumeGroup.IsBounded`: Bounded numbers.

## Theorems

* `Disk.IsBounded.resolve?`, `VolumeGroup.IsBounded.resolve?`: A position stands for a sector.
* `Disk.IsBounded.tells_move`, `Disk.IsBounded.tells_add`: Changes of a disk.
* `DiskAction.tells_run`: Every action on a disk can be told.
* `NewVolume.tells_run`: So can every logical volume.
-/

namespace DiskPlan

open Outcome

/-! ### Limits -/

namespace Decimal

/-- A limit far beyond the numbers of a modest plan and far below the limit on numerals. It
    stands between the two with room on either side, so sums and products on the way need not be
    estimated with care. -/
def vastLimit : Nat :=
  10 ^ 4100

/-- Small multiples of the limit can be written. The factor leaves room for sums of several
    numbers that are within the limit each. -/
theorem isWritable_of_lt_vastLimit {n : Int} (h : n.natAbs < 1000 * vastLimit) :
    isWritable n = true := by
  -- The power itself is too large to be computed.
  have hroom : ∀ {bound k : Nat}, bound = 10 ^ k → n.natAbs < 1000 * bound →
      k + 3 ≤ digitLimit → isWritable n = true := by
    rintro _ k rfl hn hk
    refine isWritable_of_natAbs_lt (k := k + 3) ?_ hk
    rw [Nat.pow_add]
    omega
  exact hroom vastLimit.eq_1 h (by decide)

theorem lt_vastLimit : 10000 < vastLimit := by
  have hpow : ∀ {large k : Nat}, large = 10 ^ k → 4 < k → 10000 < large := by
    rintro _ k rfl hk
    exact Nat.pow_lt_pow_right (show 1 < 10 by decide) hk
  exact hpow vastLimit.eq_1 (by decide)

/-- The product of four numbers a little beyond a thousand digits is below the limit. The largest
    number of a plan is such a product: a group can have all partitions of all disks as members,
    and each of them has as many bytes as its sectors times their size. -/
theorem pow_modestLimit_lt : (7 * modestLimit) ^ 4 < vastLimit := by
  -- Exponents are compared in place of the powers, which are too large to be computed.
  have hpow : ∀ {bound large j k : Nat}, bound = 10 ^ j → large = 10 ^ k → j * 4 + 4 ≤ k →
      (7 * bound) ^ 4 < large := by
    rintro _ _ j k rfl rfl hk
    calc (7 * 10 ^ j) ^ 4 = 7 ^ 4 * 10 ^ (j * 4) := by rw [Nat.mul_pow, Nat.pow_mul]
      _ < 10 ^ 4 * 10 ^ (j * 4) :=
        Nat.mul_lt_mul_of_pos_right (by decide) (Nat.pow_pos (by decide))
      _ = 10 ^ (j * 4 + 4) := by rw [← Nat.pow_add, Nat.add_comm]
      _ ≤ 10 ^ k := Nat.pow_le_pow_right (by decide) hk
  exact hpow modestLimit.eq_1 vastLimit.eq_1 (by decide)

theorem le_vastLimit_of_pow_lt {bound : Nat} (h : bound ^ 4 < vastLimit) : bound ≤ vastLimit :=
  (Nat.le_self_pow (by decide) bound).trans (Nat.le_of_lt h)

end Decimal

/-! ### Partitions -/

/-- A partition with a number below one bound and a range below another. The two differ for
    volumes, whose numbers count up from one while their ranges grow with the group. -/
structure Partition.IsBounded (bound limit : Nat) (p : Partition) : Prop where
  number_nonneg : 0 ≤ p.number
  number_lt : p.number < bound
  first_nonneg : 0 ≤ p.first
  lt : p.first < p.last
  last_lt : p.last < limit

namespace Partition.IsBounded

variable {bound bound' limit limit' : Nat} {p : Partition}

theorem mono (h : p.IsBounded bound limit) (hbound : bound ≤ bound') (hlimit : limit ≤ limit') :
    p.IsBounded bound' limit' where
  number_nonneg := h.number_nonneg
  number_lt := by
    have hlt := h.number_lt
    omega
  first_nonneg := h.first_nonneg
  lt := h.lt
  last_lt := by
    have hlt := h.last_lt
    omega

theorem isWritable_number (h : p.IsBounded bound limit) (hbound : bound ≤ Decimal.vastLimit) :
    Decimal.isWritable p.number = true := by
  have hnonneg := h.number_nonneg
  have hlt := h.number_lt
  exact Decimal.isWritable_of_lt_vastLimit (by omega)

/-- Only the number and the range of a partition are bounded, so it can be given contents, a
    mount point or a mark without another proof. -/
theorem congr {q : Partition} (h : p.IsBounded bound limit) (hnumber : q.number = p.number)
    (hfirst : q.first = p.first) (hlast : q.last = p.last) : q.IsBounded bound limit where
  number_nonneg := hnumber ▸ h.number_nonneg
  number_lt := hnumber ▸ h.number_lt
  first_nonneg := hfirst ▸ h.first_nonneg
  lt := by
    rw [hfirst, hlast]
    exact h.lt
  last_lt := hlast ▸ h.last_lt

end Partition.IsBounded

/-! ### Disks -/

/-- A disk with numbers below a bound, and with as few partitions. Sectors are not smaller than
    the usual ones, which keeps the reserved part of the disk small. -/
structure Disk.IsBounded (bound : Nat) (d : Disk) : Prop where
  sectors_pos : 0 < d.sectors
  sectors_lt : d.sectors < bound
  sectorSize_ge : 512 ≤ d.sectorSize
  sectorSize_lt : d.sectorSize < bound
  length_lt : d.partitions.length < bound
  partitions : ∀ p ∈ d.partitions, p.IsBounded bound bound

namespace Disk

variable {bound : Nat} {d : Disk} {number first last : Int}

/-! #### Checks -/

theorem activeBesides_subset (d : Disk) (number : Int) : d.activeBesides number ⊆ d.partitions :=
  fun _ hq => List.mem_of_mem_eraseP (List.mem_filter.mp hq).1

/-- That there is no partition of a number can be told if the number can be written. -/
theorem told_requirePartition (d : Disk) (hnumber : Decimal.isWritable number = true) :
    FailsWith Failure.IsTold (d.requirePartition number) := by
  unfold requirePartition
  split
  · exact failsWith_ok _
  · exact failsWith_error (Failure.isTold_ofProblem (List.forall_mem_singleton.mpr hnumber))

/-- That a range does not lie on the disk can be told if its ends and the size can be written. -/
theorem told_checkBounds (hfirst : Decimal.isWritable first = true)
    (hlast : Decimal.isWritable last = true) (hsectors : Decimal.isWritable d.sectors = true) :
    FailsWith Failure.IsTold (d.checkBounds first last) := by
  have hrange : ∀ n ∈ [first, last], Decimal.isWritable n = true :=
    List.forall_mem_cons.mpr ⟨hfirst, List.forall_mem_singleton.mpr hlast⟩
  unfold checkBounds
  split
  · exact failsWith_error (Failure.isTold_ofProblem hrange)
  · split
    · exact failsWith_error (Failure.isTold_ofProblem
        (List.forall_mem_append.mpr ⟨hrange, List.forall_mem_singleton.mpr hsectors⟩))
    · exact failsWith_ok _

/-- That a range is taken can be told if the numbers of the partitions can be written. -/
theorem told_checkOverlap (path : String) {others : List Partition}
    (h : ∀ q ∈ others, Decimal.isWritable q.number = true) (first last : Int) :
    FailsWith Failure.IsTold (checkOverlap path others first last) := by
  unfold checkOverlap
  split
  · rename_i q hq
    exact failsWith_error (Failure.isTold_ofProblem
      (List.forall_mem_singleton.mpr (h q (List.mem_of_find?_eq_some hq))))
  · exact failsWith_ok _

/-- What is told of a role spells out no number. -/
theorem told_checkRole (d : Disk) (table : TableKind) (role : Role) :
    FailsWith Failure.IsTold (d.checkRole table role) := by
  have hnone : ∀ p : DiskProblem, p.numbers = [] → (Failure.ofDisk p).IsTold := by
    intro p hp
    refine Failure.isTold_ofProblem fun n hn => absurd hn ?_
    rw [show (Problem.disk p).numbers = [] from hp]
    exact List.not_mem_nil
  unfold checkRole
  split
  · split
    · exact failsWith_error (hnone _ rfl)
    · exact failsWith_ok _
  · split
    · exact failsWith_error (hnone _ rfl)
    · exact failsWith_ok _

namespace IsBounded

theorem mono {bound' : Nat} (h : d.IsBounded bound) (hbound : bound ≤ bound') :
    d.IsBounded bound' where
  sectors_pos := h.sectors_pos
  sectors_lt := by
    have hlt := h.sectors_lt
    omega
  sectorSize_ge := h.sectorSize_ge
  sectorSize_lt := by
    have hlt := h.sectorSize_lt
    omega
  length_lt := Nat.lt_of_lt_of_le h.length_lt hbound
  partitions := fun p hp => (h.partitions p hp).mono hbound hbound

/-! #### Numbers -/

/-- Numbers count up from below the bound, so the next one may be the bound itself. -/
theorem nextNumber (h : d.IsBounded bound) : 0 ≤ d.nextNumber ∧ d.nextNumber ≤ bound := by
  have hpos := h.sectors_pos
  have hlt := h.sectors_lt
  unfold Disk.nextNumber
  cases hmax : (d.partitions.map Partition.number).max? with
  | none =>
      rw [Option.getD_none]
      omega
  | some greatest =>
      rcases List.mem_map.mp (List.max?_mem hmax) with ⟨p, hp, rfl⟩
      have hnonneg := (h.partitions p hp).number_nonneg
      have hnumber := (h.partitions p hp).number_lt
      rw [Option.getD_some]
      omega

/-- The sectors that are kept free are few, since no sector is smaller than the usual one. -/
theorem reserved_le (h : d.IsBounded bound) : d.reserved ≤ 4096 := by
  have hsize := h.sectorSize_ge
  rw [reserved_eq (by omega)]
  unfold reservedBytes
  exact Int.ediv_le_of_le_mul (by omega) (by omega)

/-- A position stands for a sector that is at most a little behind the end of the disk. There is
    always one, since the division by the size of a sector cannot fail here. -/
theorem resolve? (h : d.IsBounded bound) (p : Position) :
    ∃ sector, d.resolve? p = .ok sector ∧ 0 ≤ sector ∧ sector < bound + 4097 := by
  have hsize : 0 < d.sectorSize := by
    -- A disk without sectors of a size would leave the position without an answer.
    have hsize := h.sectorSize_ge
    omega
  refine ⟨d.sectorAt p, resolve?_eq_sectorAt hsize p, ?_⟩
  have hsectors := h.sectors_lt
  have hnonneg := reserved_nonneg hsize
  have hle := h.reserved_le
  have hfirst := d.reserved_le_sectorAt p
  have hlast := d.sectorAt_le p
  omega

section Written

variable (h : d.IsBounded bound) (hbound : bound ≤ Decimal.vastLimit)
include h hbound

theorem isWritable_sectors : Decimal.isWritable d.sectors = true := by
  have hpos := h.sectors_pos
  have hlt := h.sectors_lt
  exact Decimal.isWritable_of_lt_vastLimit (by omega)

/-- A sector is written if it is not too far from the disk. Moved partitions can reach behind the
    end of the disk by their own length, which is why the bound is doubled. -/
theorem isWritable_sector {sector : Int} (hnonneg : 0 ≤ sector)
    (hlt : sector < 2 * bound + 4097) : Decimal.isWritable sector = true := by
  have hpos := h.sectors_pos
  have hsectors := h.sectors_lt
  have hvast := Decimal.lt_vastLimit
  exact Decimal.isWritable_of_lt_vastLimit (by omega)

theorem isWritable_numbers : ∀ p ∈ d.partitions, Decimal.isWritable p.number = true :=
  fun p hp => (h.partitions p hp).isWritable_number hbound

/-- Ranges that are checked are told if they are refused. -/
theorem told_checks {others : List Partition} (hothers : others ⊆ d.partitions)
    (hfirst : Decimal.isWritable first = true) (hlast : Decimal.isWritable last = true) :
    FailsWith Failure.IsTold (d.checkBounds first last) ∧
      FailsWith Failure.IsTold (checkOverlap d.path others first last) :=
  ⟨told_checkBounds hfirst hlast (h.isWritable_sectors hbound),
    told_checkOverlap _ (fun q hq => h.isWritable_numbers hbound q (hothers hq)) _ _⟩

end Written

/-! #### Changes -/

/-- A partition can be exchanged for one of bounded numbers. The count of partitions stays, and
    the new one may rest on the old one being bounded. -/
theorem exchange (h : d.IsBounded bound) {before after : List Partition} {p q : Partition}
    (hat : FirstAt (isNumbered number) d.partitions before p after)
    (hq : p.IsBounded bound bound → q.IsBounded bound bound) :
    ({ d with partitions := before ++ q :: after } : Disk).IsBounded bound where
  sectors_pos := h.sectors_pos
  sectors_lt := h.sectors_lt
  sectorSize_ge := h.sectorSize_ge
  sectorSize_lt := h.sectorSize_lt
  length_lt := by
    have hlength := h.length_lt
    rw [hat.split, List.length_append, List.length_cons] at hlength
    rw [List.length_append, List.length_cons]
    exact hlength
  partitions := hat.forall_mem_exchange hq h.partitions

/-- A change of a partition is told, or it is told that there is no such partition. -/
theorem tells_change (h : d.IsBounded bound) (hnumber : Decimal.isWritable number = true)
    {f : Partition → Partition} (hf : ∀ p, p.IsBounded bound bound → (f p).IsBounded bound bound) :
    Tells (Disk.IsBounded bound) (d.change number f) := by
  have hrequired := told_requirePartition d hnumber
  unfold change
  cases hp : d.requirePartition number with
  | error e => exact tells_fail h (hrequired e hp)
  | ok p =>
      rcases partition?_eq_some_iff.mp (requirePartition_eq_ok_iff.mp hp) with
        ⟨before, after, hat⟩
      dsimp only
      rw [updatePartition_eq hat]
      exact tells_done (h.exchange hat (hf p)) ()

section Changes

variable (h : d.IsBounded bound) (hbound : bound ≤ Decimal.vastLimit)
  (hnumber : Decimal.isWritable number = true)
include h hbound hnumber

/-- A partition is moved by its own length, which is less than that of the disk. So the new end
    is at most twice as far as the bound, before the check of bounds has had a look at it. -/
theorem tells_move (hnonneg : 0 ≤ first) (hlt : first < bound + 4097) :
    Tells (Disk.IsBounded bound) (d.move number first) := by
  -- Each check is told with numbers that are known to be bounded before it is made.
  have hrange : FailsWith Failure.IsTold (d.movedRange number first) := by
    unfold movedRange
    refine (told_requirePartition d hnumber).bind fun p hp => ?_
    have hmem := List.mem_of_find?_eq_some (requirePartition_eq_ok_iff.mp hp)
    have hstart := (h.partitions p hmem).first_nonneg
    have horder := (h.partitions p hmem).lt
    have hend := (h.partitions p hmem).last_lt
    have hlast : Decimal.isWritable (first + (p.last - p.first)) = true :=
      h.isWritable_sector hbound (by omega) (by omega)
    have hchecks := h.told_checks hbound (d.activeBesides_subset number)
      (h.isWritable_sector hbound hnonneg (by omega)) hlast
    exact hchecks.1.bind fun _ _ => hchecks.2.bind fun _ _ => failsWith_ok _
  unfold move
  split
  · rename_i f hf
    exact tells_fail h (hrange f hf)
  · -- The range has passed the checks, so its event can be told and the partition stays bounded.
    rename_i first' last' hmoved
    rcases movedRange_eq_ok hmoved with ⟨before, p, after, hat, rfl, rfl, hfits⟩
    have hsectors := h.sectors_lt
    have hnew := hfits.bound
    have horder := hfits.lt
    have hlast : Decimal.isWritable (first' + (p.last - p.first)) = true :=
      h.isWritable_sector hbound (by omega) (by omega)
    have htold : (Event.partitionMoved d.path number first'
        (first' + (p.last - p.first))).isWritable = true :=
      Event.isWritable_partitionMoved_iff.mpr ⟨hnumber, hfits.isWritable_first hlast, hlast⟩
    rw [telling_andThen, if_pos htold, updatePartition_eq hat]
    refine (tells_done (h.exchange hat fun hp => ?_) ()).logging
      (List.forall_mem_singleton.mpr htold)
    exact ⟨hp.number_nonneg, hp.number_lt, hfits.nonneg, hfits.lt, Int.lt_trans hnew hsectors⟩

/-- A partition is resized to a sector of the disk, or it is told why not. -/
theorem tells_resize (hnonneg : 0 ≤ last) (hlt : last < bound + 4097) :
    Tells (Disk.IsBounded bound) (d.resize number last) := by
  have hwritten := h.isWritable_sector hbound hnonneg (by omega)
  have hcheck : FailsWith Failure.IsTold (d.checkResize number last) := by
    unfold checkResize
    refine (told_requirePartition d hnumber).bind fun p hp => ?_
    have hmem := List.mem_of_find?_eq_some (requirePartition_eq_ok_iff.mp hp)
    have hstart := (h.partitions p hmem).first_nonneg
    have horder := (h.partitions p hmem).lt
    have hend := (h.partitions p hmem).last_lt
    have hchecks := h.told_checks hbound (d.activeBesides_subset number)
      (h.isWritable_sector hbound hstart (by omega)) hwritten
    exact hchecks.1.bind fun _ _ => hchecks.2
  unfold resize
  split
  · rename_i f hf
    exact tells_fail h (hcheck f hf)
  · rename_i hresize
    rcases checkResize_eq_ok hresize with ⟨before, p, after, hat, hfits⟩
    have hsectors := h.sectors_lt
    have hnew := hfits.bound
    have htold : (Event.partitionResized d.path number last).isWritable = true :=
      Event.isWritable_partitionResized_iff.mpr ⟨hnumber, hwritten⟩
    rw [telling_andThen, if_pos htold, updatePartition_eq hat]
    refine (tells_done (h.exchange hat fun hp => ?_) ()).logging
      (List.forall_mem_singleton.mpr htold)
    exact ⟨hp.number_nonneg, hp.number_lt, hfits.nonneg, hfits.lt, Int.lt_trans hnew hsectors⟩

end Changes

/-- A new partition gets a number that may be the bound itself. This is the one change that takes
    the bound up, by one for the number and by one for the count of partitions. -/
theorem tells_add (h : d.IsBounded bound) (hbound : bound < Decimal.vastLimit) {r : Request}
    (hfirst : Decimal.isWritable r.first = true) (hlast : Decimal.isWritable r.last = true) :
    Tells (Disk.IsBounded (bound + 1)) (d.add r) := by
  rcases h.nextNumber with ⟨hnonneg, hle⟩
  have hnumber : Decimal.isWritable d.nextNumber = true :=
    Decimal.isWritable_of_lt_vastLimit (by omega)
  -- The path of the new partition is made of its number, which can be written.
  have hplace : FailsWith Failure.IsTold (d.place r) := by
    have hactive : d.active ⊆ d.partitions := fun _ hq => (List.mem_filter.mp hq).1
    have hchecks := h.told_checks (Nat.le_of_lt hbound) hactive hfirst hlast
    unfold place
    split
    · exact failsWith_error (Failure.isTold_ofProblem fun _ hn => absurd hn List.not_mem_nil)
    · refine hchecks.1.bind fun _ _ => (told_checkRole d _ _).bind fun _ _ => ?_
      refine hchecks.2.bind fun _ _ => ?_
      rw [Disk.partitionPath?_of_isWritable _ hnumber]
      exact failsWith_ok _
  have hlarger := h.mono (Nat.le_succ bound)
  unfold add
  split
  · rename_i f hf
    exact tells_fail hlarger (hplace f hf)
  · rename_i p hp
    -- What is placed fits, so its range is below the size of the disk.
    rcases place_eq_ok hp with ⟨hfits, path, _, rfl⟩
    have hend := hfits.bound
    have hlength := h.length_lt
    have hnew : (r.build path d.nextNumber).IsBounded (bound + 1) (bound + 1) :=
      ⟨hnonneg, Int.lt_add_one_of_le hle, hfits.nonneg, hfits.lt,
        Int.lt_trans hend hlarger.sectors_lt⟩
    have hcount : (d.partitions ++ [r.build path d.nextNumber]).length < bound + 1 := by
      rw [List.length_append, List.length_singleton]
      omega
    refine tells_telling ?_ _
      (Event.isWritable_partitionAdded_iff.mpr ⟨hnumber, hfirst, hlast⟩)
    exact ⟨hlarger.sectors_pos, hlarger.sectors_lt, hlarger.sectorSize_ge,
      hlarger.sectorSize_lt, hcount, List.forall_mem_append.mpr ⟨hlarger.partitions,
        List.forall_mem_singleton.mpr hnew⟩⟩

end IsBounded

end Disk

namespace DiskAction

variable {bound : Nat} {d : Disk}

/-- Partitions are marked one after the other, and each of them is told of. -/
theorem tells_deleteAll {numbers : List Nat}
    (hnumbers : AreWritable numbers) (h : d.IsBounded bound) :
    Tells (Disk.IsBounded bound) (deleteAll d numbers) := by
  induction numbers generalizing d with
  | nil => exact tells_done h ()
  | cons number rest ih =>
      unfold AreWritable at hnumbers
      rw [List.forall_mem_cons] at hnumbers
      rw [deleteAll]
      refine Tells.andThen (h.tells_change hnumbers.1 fun p hp => ?_) (fun d _ hd _ => ?_)
        fun _ hd => hd
      · exact hp.congr rfl rfl rfl
      · refine (ih hnumbers.2 hd).logging (List.forall_mem_singleton.mpr ?_)
        exact Event.isWritable_of_spelled (List.forall_mem_cons.mpr ⟨rfl,
        List.forall_mem_singleton.mpr hnumbers.1⟩)

theorem tells_moveTo (h : d.IsBounded bound) (hbound : bound ≤ Decimal.vastLimit) {number : Nat}
    (hnumber : Decimal.isWritable number = true) (first? : Option Position) :
    Tells (Disk.IsBounded bound) (moveTo d number first?) := by
  cases first? with
  | none => exact tells_done h ()
  | some position =>
      rcases h.resolve? position with ⟨first, hfirst, hnonneg, hlt⟩
      rw [moveTo, hfirst, andThen_ofExcept_ok]
      exact h.tells_move hbound hnumber hnonneg hlt

theorem tells_resizeTo (h : d.IsBounded bound) (hbound : bound ≤ Decimal.vastLimit) {number : Nat}
    (hnumber : Decimal.isWritable number = true) (last? : Option Position) :
    Tells (Disk.IsBounded bound) (resizeTo d number last?) := by
  cases last? with
  | none => exact tells_done h ()
  | some position =>
      rcases h.resolve? position with ⟨last, hlast, hnonneg, hlt⟩
      rw [resizeTo, hlast, andThen_ofExcept_ok]
      exact h.tells_resize hbound hnumber hnonneg hlt

/-- Every action on a disk can be told, and takes the bound up by one at most. Only a new
    partition does so, but a common bound for all actions makes a run of them easier to follow. -/
theorem tells_run {action : DiskAction} (hnumbers : AreWritable action.numbers)
    (h : d.IsBounded bound) (hbound : bound < Decimal.vastLimit) :
    Tells (Disk.IsBounded (bound + 1)) (action.run d) := by
  have hle := Nat.le_of_lt hbound
  have hmono : ∀ d : Disk, d.IsBounded bound → d.IsBounded (bound + 1) :=
    fun _ hd => hd.mono (Nat.le_succ bound)
  cases action with
  | relabel table =>
      -- What is told of a new table is how many partitions it takes away.
      have hlength := h.length_lt
      refine tells_event ⟨h.sectors_pos, (hmono d h).sectors_lt, h.sectorSize_ge,
        (hmono d h).sectorSize_lt, Nat.succ_pos bound, fun _ hp => absurd hp List.not_mem_nil⟩ ()
        (Event.isWritable_of_spelled ?_)
      exact List.forall_mem_cons.mpr ⟨rfl, List.forall_mem_cons.mpr ⟨rfl,
        List.forall_mem_singleton.mpr (Decimal.isWritable_of_lt_vastLimit (by omega))⟩⟩
  | delete numbers => exact (tells_deleteAll hnumbers h).mono hmono
  | move number first? last? =>
      have hnumber := hnumbers number List.mem_cons_self
      rw [run]
      -- The move looks its partition up, and then goes through its two halves.
      refine Tells.mono (Tells.andThen (Tells.andThen ?_ ?_ fun _ hd => hd) ?_ fun _ hd => hd) hmono
      · exact tells_ofExcept h (d.told_requirePartition hnumber)
      · exact fun d _ hd _ => tells_moveTo hd hle hnumber first?
      · exact fun d _ hd _ => tells_resizeTo hd hle hnumber last?
  | reuse number content suffix =>
      have hnumber := hnumbers number List.mem_cons_self
      refine (h.tells_change hnumber fun p hp => ?_).mono hmono
      -- A reuse keeps the number and the range, so nothing has to be checked for it.
      have hedit := (Edit.reuse number content suffix p).identity
      have hsuffix := withSuffix_range suffix (withContent content p)
      have hcontent := withContent_range content p
      exact hp.congr (Partition.number_of_identity hedit) (hsuffix.1.trans hcontent.1)
        (hsuffix.2.1.trans hcontent.2.1)
  | create role first? last? content suffix =>
      rcases h.resolve? first? with ⟨first, hfirst, hfirst_nonneg, hfirst_lt⟩
      rcases h.resolve? last? with ⟨last, hlast, hlast_nonneg, hlast_lt⟩
      have hrange : range d first? last? = .ok (first, last) :=
        bind_eq_ok_iff.mpr ⟨first, hfirst, bind_eq_ok_iff.mpr ⟨last, hlast, rfl⟩⟩
      have hfirst_writable := h.isWritable_sector hle hfirst_nonneg (by omega)
      have hlast_writable := h.isWritable_sector hle hlast_nonneg (by omega)
      rw [run, hrange, andThen_ofExcept_ok]
      exact Tells.andThen (h.tells_add hbound hfirst_writable hlast_writable)
        (fun _ _ hd _ => tells_done hd ()) fun _ hd => hd

end DiskAction

/-! ### Volume groups -/

/-- A volume group with a size within the vast limit, and with few volumes. Its size is a sum
    over disks and not bounded like that of a disk, so it has a limit of its own. -/
structure VolumeGroup.IsBounded (bound : Nat) (g : VolumeGroup) : Prop where
  sectors_nonneg : 0 ≤ g.sectors
  sectors_lt : g.sectors < Decimal.vastLimit
  sectorSize : g.sectorSize = 512
  length_lt : g.partitions.length < bound
  partitions : ∀ p ∈ g.partitions, p.IsBounded bound Decimal.vastLimit

namespace VolumeGroup

variable {bound : Nat} {g : VolumeGroup} {r : Request}

namespace IsBounded

theorem mono {bound' : Nat} (h : g.IsBounded bound) (hbound : bound ≤ bound') :
    g.IsBounded bound' where
  sectors_nonneg := h.sectors_nonneg
  sectors_lt := h.sectors_lt
  sectorSize := h.sectorSize
  length_lt := Nat.lt_of_lt_of_le h.length_lt hbound
  partitions := fun p hp => (h.partitions p hp).mono hbound (Nat.le_refl _)

/-- A position stands for a sector of the group, or for the one right behind it. Nothing is
    reserved in a group, and its sectors always have the usual size. -/
theorem resolve? (h : g.IsBounded bound) (p : Position) :
    ∃ sector, g.resolve? p = .ok sector ∧ 0 ≤ sector ∧ sector ≤ g.sectors := by
  have hnonneg := h.sectors_nonneg
  refine ⟨p.resolve g.sectors g.sectorSize 0, ?_, ?_, ?_⟩
  · unfold VolumeGroup.resolve? Position.resolve?
    rw [h.sectorSize]
    rfl
  · exact Position.reserved_le_resolve _ _ _ p
  · have hlast := Position.resolve_le g.sectors g.sectorSize 0 p
    unfold Position.limit at hlast
    omega

/-- The next volume begins right behind the last one, which is within the limit. It may begin
    behind the group, and then it is refused. -/
theorem firstSector (h : g.IsBounded bound) :
    0 ≤ NewVolume.firstSector g ∧ NewVolume.firstSector g ≤ Decimal.vastLimit := by
  unfold NewVolume.firstSector lastSector?
  cases hlast : g.partitions.getLast? with
  | none => exact ⟨Int.le_refl 0, Int.natCast_nonneg _⟩
  | some p =>
      have hbounded := h.partitions p (List.mem_of_getLast? hlast)
      have hfirst := hbounded.first_nonneg
      have hlt := hbounded.lt
      have hlimit := hbounded.last_lt
      dsimp only [Option.map_some]
      omega

/-- A volume that is refused is refused with bounded numbers. Bounds, name and overlap are
    checked in this order, and each check tells of other numbers. -/
theorem told_place (h : g.IsBounded bound) (hbound : bound ≤ Decimal.vastLimit)
    (hfirst : Decimal.isWritable r.first = true) (hlast : Decimal.isWritable r.last = true) :
    FailsWith Failure.IsTold (g.place r) := by
  have hnonneg := h.sectors_nonneg
  have hlt := h.sectors_lt
  have hsectors : Decimal.isWritable g.sectors = true :=
    Decimal.isWritable_of_lt_vastLimit (by omega)
  have hrange : ∀ n ∈ [r.first, r.last], Decimal.isWritable n = true :=
    List.forall_mem_cons.mpr ⟨hfirst, List.forall_mem_singleton.mpr hlast⟩
  unfold place checkBounds checkName checkOverlap
  refine FailsWith.bind ?_ fun _ _ => FailsWith.bind ?_ fun _ _ => FailsWith.bind ?_ fun _ _ =>
    failsWith_ok _
  · split
    · exact failsWith_error (Failure.isTold_ofProblem hrange)
    · split
      · exact failsWith_error (Failure.isTold_ofProblem
          (List.forall_mem_append.mpr ⟨hrange, List.forall_mem_singleton.mpr hsectors⟩))
      · exact failsWith_ok _
  · split
    · exact failsWith_error (Failure.isTold_ofProblem fun _ hn => absurd hn List.not_mem_nil)
    · exact failsWith_ok _
  · split
    · rename_i q hq
      have hnumber := (h.partitions q (List.mem_of_find?_eq_some hq)).isWritable_number hbound
      exact failsWith_error (Failure.isTold_ofProblem (List.forall_mem_singleton.mpr hnumber))
    · exact failsWith_ok _

/-- A new volume gets a number that may be the bound itself, since it is one more than the count
    of the volumes before it. -/
theorem tells_add (h : g.IsBounded bound) (hbound : bound ≤ Decimal.vastLimit)
    (hnonneg : 0 ≤ r.first) (hfirst : Decimal.isWritable r.first = true)
    (hlast : Decimal.isWritable r.last = true) :
    Tells (VolumeGroup.IsBounded (bound + 1)) (g.add r) := by
  have hlarger := h.mono (Nat.le_succ bound)
  have hplace := h.told_place hbound hfirst hlast
  unfold add
  split
  · rename_i f hf
    exact tells_fail hlarger (hplace f hf)
  · rename_i p hp
    rcases place_eq_ok hp with ⟨⟨hlt, hle⟩, _, _, rfl⟩
    have hlength := h.length_lt
    have hcount : (g.partitions ++ [{ r with name := some (g.chosenName r.name) }.build
        (g.volumePath (g.chosenName r.name)) g.nextNumber]).length < bound + 1 := by
      rw [List.length_append, List.length_singleton]
      omega
    have hnew : ({ r with name := some (g.chosenName r.name) }.build
        (g.volumePath (g.chosenName r.name)) g.nextNumber).IsBounded (bound + 1)
          Decimal.vastLimit := by
      refine ⟨Int.natCast_nonneg _, ?_, hnonneg, hlt, Int.lt_of_le_of_lt hle h.sectors_lt⟩
      change ((g.partitions.length + 1 : Nat) : Int) < (bound + 1 : Nat)
      omega
    refine tells_telling ?_ _ (Event.isWritable_volumeAdded_iff.mpr ⟨hfirst, hlast⟩)
    exact ⟨h.sectors_nonneg, h.sectors_lt, h.sectorSize, hcount,
      List.forall_mem_append.mpr ⟨hlarger.partitions, List.forall_mem_singleton.mpr hnew⟩⟩

end IsBounded

end VolumeGroup

/-- Every logical volume can be told, and takes the bound up by one at most. Its mount point is
    told before it is placed, which needs no number at all. -/
theorem NewVolume.tells_run (v : NewVolume) {bound : Nat} {g : VolumeGroup} (h : g.IsBounded bound)
    (hbound : bound ≤ Decimal.vastLimit) :
    Tells (VolumeGroup.IsBounded (bound + 1)) (v.run g) := by
  rcases h.resolve? v.size with ⟨size, hsize, hnonneg, hle⟩
  rcases h.firstSector with ⟨hfirst, hlimit⟩
  have hlt := h.sectors_lt
  have hfirst_writable : Decimal.isWritable (firstSector g) = true :=
    Decimal.isWritable_of_lt_vastLimit (by omega)
  -- The end is the sum of two sectors within the limit, which a multiple of the limit allows for.
  have hlast_writable : Decimal.isWritable (firstSector g + size) = true :=
    Decimal.isWritable_of_lt_vastLimit (by omega)
  have hmounted : ∀ e ∈ v.mounted, e.isWritable = true := by
    unfold mounted
    cases v.mount with
    | none => exact fun _ he => absurd he List.not_mem_nil
    | some mount =>
        refine List.forall_mem_singleton.mpr (Event.isWritable_of_spelled ?_)
        exact List.forall_mem_cons.mpr ⟨rfl, List.forall_mem_singleton.mpr rfl⟩
  rw [run, hsize, andThen_ofExcept_ok]
  refine Tells.logging ?_ hmounted
  exact Tells.andThen (h.tells_add hbound hfirst hfirst_writable hlast_writable)
    (fun _ _ hg _ => tells_done hg ()) fun _ hg => hg

end DiskPlan
