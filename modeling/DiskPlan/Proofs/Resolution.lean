import DiskPlan.Position
import Mathlib.Algebra.Order.Group.Abs
import Mathlib.Tactic.Ring

/-!
# Resolution of Positions

How the sector that a position stands for depends on its number and on the device.

Positions of one kind are in the order of their numbers, or in the opposite one if they
count from the end. `Position.Precedes` says so without a device, and every device agrees
with it: a distance is a number moved into the usable space, and moving into an interval
keeps the order. Only shares need more. The two ends of their scale are the edges
themselves and not what the general formula gives there, and they fit in because no
sector lies outside of the edges. Beyond a hundred percent this breaks down, but no text
names such a share.

A share is rounded twice, to whole bytes of a hundredth and to whole sectors of the
share. The first loss is less than a byte for each percent, which is less than a sector
as long as a sector has a hundred bytes. So the two losses together are less than two
sectors, and a share is what it should be or the sector before it.

## Main definitions

* `Position.share`: The sectors of a share, before they are moved into the usable space.
* `Position.Precedes`: Positions in their order, whatever the device.

## Theorems

* `Position.clamp_mono`: Moving into the usable space keeps the order.
* `Position.clamp_pred`: It moves neighbours to neighbours.
* `Position.share_le`, `Position.le_share_add_one`: A share is at most one sector short.
* `Position.Precedes.resolve_le`: Every device keeps the order of positions.
* `Position.resolve_ordered`: Positions resolve within the usable space, in the order of
  their numbers.
* `Position.resolve_percent_within_one`: Shares are exact up to one sector.
-/

namespace DiskPlan

namespace Position

variable {sectors sectorSize reserved : Int}

/-! ### The usable space -/

/-- The usable space begins at the reserved sectors, even on a device that has no more than
    these. -/
theorem reserved_le_limit (sectors reserved : Int) : reserved ≤ limit sectors reserved :=
  Int.le_max_left _ _

/-- Moving into the usable space keeps the order of sectors. -/
theorem clamp_mono (sectors reserved : Int) {a b : Int} (h : a ≤ b) :
    clamp sectors reserved a ≤ clamp sectors reserved b := by
  unfold clamp
  omega

/-- The end of the usable space stays where it is. -/
theorem clamp_limit (sectors reserved : Int) :
    clamp sectors reserved (limit sectors reserved) = limit sectors reserved := by
  have hedges := reserved_le_limit sectors reserved
  unfold clamp
  omega

/-- Neighbouring sectors are moved to the same sector or to neighbouring ones. -/
theorem clamp_pred (sectors reserved value : Int) :
    clamp sectors reserved (value - 1) = clamp sectors reserved value ∨
      clamp sectors reserved (value - 1) = clamp sectors reserved value - 1 := by
  unfold clamp
  omega

/-! ### Shares -/

/-- The sectors that a share of a device stands for, which may still be reserved ones. -/
def share (sectors sectorSize : Int) (n : Nat) : Int :=
  Int.fdiv (Int.fdiv (sectors * sectorSize) 100 * n) sectorSize

/-- A share that is none of the two ends of the scale is moved into the usable space like any
    other sector. -/
theorem resolve_percent {n : Nat} (hzero : n ≠ 0) (hall : n ≠ 100) :
    (percent n).resolve sectors sectorSize reserved =
      clamp sectors reserved (share sectors sectorSize n) := by
  simp only [resolve]
  rw [if_neg hzero, if_neg hall]
  rfl

section SectorSize

variable (hsize : 0 < sectorSize)
include hsize

/-- Neither divisor is negative, so the two roundings are both towards smaller numbers. -/
theorem share_eq (sectors : Int) (n : Nat) :
    share sectors sectorSize n = sectors * sectorSize / 100 * n / sectorSize := by
  unfold share
  rw [Int.fdiv_eq_ediv_of_nonneg (sectors * sectorSize) (by decide),
    Int.fdiv_eq_ediv_of_nonneg _ (Int.le_of_lt hsize)]

/-- A share is rounded down, so it is not more than it should be. -/
theorem share_le (sectors : Int) (n : Nat) :
    share sectors sectorSize n ≤ sectors * n / 100 := by
  rw [share_eq hsize, Int.le_ediv_iff_mul_le (by decide)]
  have hhundredth := Int.ediv_mul_le (sectors * sectorSize) (by decide : (100 : Int) ≠ 0)
  -- The hundredth is kept as a number of its own, since the estimate uses nothing but how it was
  -- rounded.
  generalize sectors * sectorSize / 100 = part at hhundredth ⊢
  have hshare := Int.ediv_mul_le (part * n) (Int.ne_of_gt hsize)
  refine Int.le_of_mul_le_mul_right ?_ hsize
  calc part * n / sectorSize * 100 * sectorSize
      = part * n / sectorSize * sectorSize * 100 := by ring
    _ ≤ part * n * 100 := Int.mul_le_mul_of_nonneg_right hshare (by decide)
    _ = part * 100 * n := by ring
    _ ≤ sectors * sectorSize * n :=
      Int.mul_le_mul_of_nonneg_right hhundredth (Int.natCast_nonneg n)
    _ = sectors * n * sectorSize := by ring

/-- More percents are no fewer sectors. The hundredth is not negative, as no device has fewer
    than no sectors. -/
theorem share_mono (hsectors : 0 ≤ sectors) {m n : Nat} (h : m ≤ n) :
    share sectors sectorSize m ≤ share sectors sectorSize n := by
  rw [share_eq hsize, share_eq hsize]
  have hpart : 0 ≤ sectors * sectorSize / 100 :=
    Int.ediv_nonneg (Int.mul_nonneg hsectors (Int.le_of_lt hsize)) (by decide)
  exact Int.ediv_le_ediv hsize (Int.mul_le_mul_of_nonneg_left (Int.ofNat_le.mpr h) hpart)

/-- More megabytes are no fewer sectors. -/
theorem megabytes_mono {m n : Nat} (h : m ≤ n) :
    megabytes sectorSize m ≤ megabytes sectorSize n := by
  unfold megabytes
  rw [Int.fdiv_eq_ediv_of_nonneg _ (Int.le_of_lt hsize),
    Int.fdiv_eq_ediv_of_nonneg _ (Int.le_of_lt hsize)]
  exact Int.ediv_le_ediv hsize (by omega)

end SectorSize

/-- A share is at most one sector short, since the bytes that are lost for all of its
    percents together do not fill a sector. -/
theorem le_share_add_one (sectors : Int) (hsize : 100 ≤ sectorSize) {n : Nat} (hlt : n < 100) :
    sectors * n / 100 ≤ share sectors sectorSize n + 1 := by
  have hpos : 0 < sectorSize := by omega
  -- It is enough that the sector before the exact one fits into the share.
  suffices hpred : sectors * n / 100 - 1 ≤ share sectors sectorSize n by omega
  rw [share_eq hpos, Int.le_ediv_iff_mul_le hpos]
  have hwhole := Int.ediv_mul_le (sectors * n) (by decide : (100 : Int) ≠ 0)
  -- A hundredth loses less than a byte, and all the percents together less than a hundred of them.
  have hhundredth : sectors * sectorSize - 99 ≤ sectors * sectorSize / 100 * 100 := by omega
  generalize sectors * n / 100 = whole at hwhole ⊢
  generalize sectors * sectorSize / 100 = part at hhundredth ⊢
  have hscaled := Int.mul_le_mul_of_nonneg_right hwhole (Int.le_of_lt hpos)
  refine Int.le_of_mul_le_mul_right ?_ (by decide : (0 : Int) < 100)
  calc (whole - 1) * sectorSize * 100
      = whole * 100 * sectorSize - 100 * sectorSize := by ring
    _ ≤ sectors * n * sectorSize - 99 * n := by omega
    _ = (sectors * sectorSize - 99) * n := by ring
    _ ≤ part * 100 * n := Int.mul_le_mul_of_nonneg_right hhundredth (Int.natCast_nonneg n)
    _ = part * n * 100 := by ring

/-! ### The order of the resolved positions -/

/-- A position that stands for no later sector than another one, on whatever device: the edges
    are the first and the last, and positions of one kind are in the order of their numbers, or
    in the opposite one if they count from the end. -/
inductive Precedes : Position → Position → Prop
  | start (q : Position) : Precedes start q
  | finish (p : Position) : Precedes p finish
  | sector {m n : Nat} (h : m ≤ n) : Precedes (sector m) (sector n)
  | sectorFromEnd {m n : Nat} (h : m ≤ n) : Precedes (sectorFromEnd n) (sectorFromEnd m)
  | megabyte {m n : Nat} (h : m ≤ n) : Precedes (megabyte m) (megabyte n)
  | megabyteFromEnd {m n : Nat} (h : m ≤ n) : Precedes (megabyteFromEnd n) (megabyteFromEnd m)
  | percent {m n : Nat} (h : m ≤ n) : Precedes (percent m) (percent n)

/-- Shares of a device are in the order of their percents, up to all of it. -/
theorem resolve_percent_mono (hsectors : 0 ≤ sectors) (hsize : 0 < sectorSize) (reserved : Int)
    {m n : Nat} (h : m ≤ n) (hn : n ≤ 100) :
    (percent m).resolve sectors sectorSize reserved ≤
      (percent n).resolve sectors sectorSize reserved := by
  -- At the ends of the scale it is the edges that keep the order, since the general formula is not
  -- used there.
  rcases Nat.eq_zero_or_pos m with rfl | hpos
  · exact reserved_le_resolve _ _ _ _
  · rcases Nat.lt_or_eq_of_le hn with hlt | rfl
    · rw [resolve_percent (by omega) (by omega), resolve_percent (by omega) (by omega)]
      exact clamp_mono sectors reserved (share_mono hsize hsectors h)
    · exact resolve_le _ _ _ _

/-- Every device keeps the order of positions, as long as no share is more than everything. It is
    enough to ask this of the later position, which the earlier one does not exceed. -/
theorem Precedes.resolve_le {p q : Position} (h : Precedes p q)
    (hshare : ∀ n, q = .percent n → n ≤ 100) (hsectors : 0 ≤ sectors) (hsize : 0 < sectorSize)
    (reserved : Int) :
    p.resolve sectors sectorSize reserved ≤ q.resolve sectors sectorSize reserved := by
  cases h with
  | start => exact reserved_le_resolve _ _ _ _
  | finish => exact Position.resolve_le _ _ _ _
  | sector h => exact clamp_mono sectors reserved (Int.ofNat_le.mpr h)
  | sectorFromEnd h =>
      exact clamp_mono sectors reserved (Int.sub_le_sub_left (Int.ofNat_le.mpr h) _)
  | megabyte h => exact clamp_mono sectors reserved (megabytes_mono hsize h)
  | megabyteFromEnd h =>
      exact clamp_mono sectors reserved (Int.sub_le_sub_left (megabytes_mono hsize h) _)
  | percent h => exact resolve_percent_mono hsectors hsize reserved h (hshare _ rfl)

/-- No text names a share of more than everything. -/
theorem percent_le_of_parse? {s : String} {n : Nat} (h : parse? s = some (percent n)) :
    n ≤ 100 := by
  -- A distance is counted in sectors or megabytes, so its reader never gives a share.
  have hdistance : ∀ {fromStart fromEnd : Nat → Position} {cs : List Char},
      (∀ m, fromStart m ≠ percent n) → (∀ m, fromEnd m ≠ percent n) →
        distance? fromStart fromEnd cs ≠ some (percent n) := by
    intro fromStart fromEnd cs hstart hend h
    unfold distance? at h
    split at h
    · rcases Option.map_eq_some_iff.mp h with ⟨m, _, hm⟩
      exact hend m hm
    · rcases Option.map_eq_some_iff.mp h with ⟨m, _, hm⟩
      exact hstart m hm
  unfold parse? at h
  split at h
  · exact absurd h (hdistance (fun _ => by simp) (fun _ => by simp))
  · split at h
    · rcases Option.map_eq_some_iff.mp h with ⟨m, hm, hsame⟩
      rw [← percent.inj hsame]
      -- This is the only branch that reads shares, and it asks for their limit.
      exact of_decide_eq_true (Option.filter_eq_some_iff.mp hm).2
    · split at h
      · exact absurd h (by simp)
      · split at h
        · exact absurd h (by simp)
        · exact absurd h (hdistance (fun _ => by simp) (fun _ => by simp))

/-- On a device whose sectors have a size every position that a text names resolves, to a
    sector of the usable space. The edges are its ends, what is counted from the end begins at
    the end, and the positions resolve in their order. -/
theorem resolve_ordered (hsectors : 0 ≤ sectors) (hsize : 1 ≤ sectorSize) (reserved : Int) :
    let last := max reserved (sectors - reserved)
    let resolved (p : Position) := p.resolve sectors sectorSize reserved
    (∀ s p, parse? s = some p → p.resolve? sectors sectorSize reserved = .ok (resolved p) ∧
      reserved ≤ resolved p ∧ resolved p ≤ last) ∧
      resolved start = reserved ∧ resolved finish = last ∧
      resolved (sectorFromEnd 0) = last ∧ resolved (megabyteFromEnd 0) = last ∧
      ∀ s t p q, parse? s = some p → parse? t = some q → Precedes p q →
        resolved p ≤ resolved q := by
  intro last resolved
  have hpos : 0 < sectorSize := by omega
  -- No megabytes are no sectors, so they are counted from the same place as no sectors are.
  have hnone : megabytes sectorSize 0 = 0 := by
    unfold megabytes
    rw [Int.natCast_zero, Int.zero_mul, Int.zero_fdiv]
  refine ⟨fun s p _ => ?_, rfl, rfl, ?_, ?_, fun s t p q _ hq hpq => ?_⟩
  · exact ⟨resolve?_eq (Int.ne_of_gt hpos) _ _ p, reserved_le_resolve _ _ _ p,
      resolve_le _ _ _ p⟩
  · change clamp sectors reserved (limit sectors reserved - (0 : Nat)) = last
    rw [Int.natCast_zero, Int.sub_zero]
    exact clamp_limit sectors reserved
  · change clamp sectors reserved (limit sectors reserved - megabytes sectorSize 0) = last
    rw [hnone, Int.sub_zero]
    exact clamp_limit sectors reserved
  · refine hpq.resolve_le ?_ hsectors hpos reserved
    rintro n rfl
    exact percent_le_of_parse? hq

/-- Shares and distances from the end on a device of 20000 sectors that keeps 4096 free at both
    ends, and a share of a device that has nothing between them. -/
theorem resolve_ordered_ofSizes :
    (0 : Int) ≤ 20000 ∧ (1 : Int) ≤ 512 ∧
      parse? "66%" = some (percent 66) ∧ (percent 66).resolve 20000 512 4096 = 13200 ∧
      parse? "100%" = some (percent 100) ∧ Precedes (percent 66) (percent 100) ∧
      13200 ≤ (percent 100).resolve 20000 512 4096 ∧
      parse? "-2M" = some (megabyteFromEnd 2) ∧ parse? "-1M" = some (megabyteFromEnd 1) ∧
      (megabyteFromEnd 2).resolve 20000 512 4096 ≤ (megabyteFromEnd 1).resolve 20000 512 4096 ∧
      (sectorFromEnd 0).resolve 20000 512 4096 = 15904 ∧
      (percent 66).resolve? 8000 512 4096 = .ok 4096 := by
  have hshare : parse? "66%" = some (percent 66) := by decide +kernel
  have hall : parse? "100%" = some (percent 100) := by decide +kernel
  have htwo : parse? "-2M" = some (megabyteFromEnd 2) := by decide +kernel
  have hone : parse? "-1M" = some (megabyteFromEnd 1) := by decide +kernel
  have hvalue : (percent 66).resolve 20000 512 4096 = 13200 := by decide
  have hprecedes : Precedes (percent 66) (percent 100) := .percent (by decide)
  have hshort := @resolve_ordered 8000 512 (by decide) (by decide) 4096
  obtain ⟨_, _, _, hend, _, horder⟩ := @resolve_ordered 20000 512 (by decide) (by decide) 4096
  refine ⟨by decide, by decide, hshare, hvalue, hall, hprecedes, ?_, htwo, hone, ?_, hend, ?_⟩
  · rw [← hvalue]
    exact horder _ _ _ _ hshare hall hprecedes
  · exact horder _ _ _ _ htwo hone (.megabyteFromEnd (by decide))
  · exact (hshort.1 _ _ hshare).1

/-! ### The accuracy of shares -/

/-- A share is what it should be or the sector before it, also where it is moved into the
    usable space. -/
theorem resolve_percent_cases (sectors reserved : Int) (hsize : 100 ≤ sectorSize) {n : Nat}
    (hpos : 0 < n) (hlt : n < 100) :
    let whole := clamp sectors reserved (sectors * n / 100)
    (percent n).resolve sectors sectorSize reserved = whole ∨
      (percent n).resolve sectors sectorSize reserved = whole - 1 := by
  intro whole
  rw [resolve_percent (by omega) (by omega)]
  have hupper := share_le (show 0 < sectorSize by omega) sectors n
  have hlower := le_share_add_one sectors hsize hlt
  -- The two bounds leave two whole numbers.
  have hshare : share sectors sectorSize n = sectors * n / 100 ∨
      share sectors sectorSize n = sectors * n / 100 - 1 := by omega
  rcases hshare with hshare | hshare
  · exact Or.inl (congrArg _ hshare)
  · rw [hshare]
    exact clamp_pred sectors reserved _

/-- A share of a device resolves to what it should be, moved into the usable space, or to
    the sector before that, whatever the size of the sectors is. So two sizes never make a
    difference of more than one sector. -/
theorem resolve_percent_within_one (sectors reserved : Int) (hsize : 100 ≤ sectorSize) {n : Nat}
    (hpos : 0 < n) (hlt : n < 100) :
    let whole := max reserved (min (max reserved (sectors - reserved)) (sectors * n / 100))
    let resolved (size : Int) := (percent n).resolve? sectors size reserved
    (resolved sectorSize = .ok whole ∨ resolved sectorSize = .ok (whole - 1)) ∧
      ∀ other, 100 ≤ other →
        ∃ a b, resolved sectorSize = .ok a ∧ resolved other = .ok b ∧ |a - b| ≤ 1 := by
  intro whole resolved
  have hresolved : ∀ size, 100 ≤ size →
      resolved size = .ok ((percent n).resolve sectors size reserved) :=
    fun size h => resolve?_eq (by omega) _ _ _
  have hcases := resolve_percent_cases sectors reserved hsize hpos hlt
  refine ⟨?_, fun other hother => ⟨_, _, hresolved _ hsize, hresolved _ hother, ?_⟩⟩
  · rw [hresolved _ hsize]
    exact hcases.imp (congrArg _) (congrArg _)
  · have hothers := resolve_percent_cases sectors reserved hother hpos hlt
    -- Both shares are the exact one or the sector before it, so they differ by one at most.
    rw [abs_le]
    omega

/-- Five percent of twenty sectors are a sector. With sectors of 500 bytes it is found, and
    with 512 bytes the rounding of a hundredth loses it. -/
theorem resolve_percent_within_one_ofSizes :
    (100 : Int) ≤ 500 ∧ (100 : Int) ≤ 512 ∧ (percent 5).resolve? 20 500 0 = .ok 1 ∧
      (percent 5).resolve? 20 512 0 = .ok 0 ∧
      ∃ a b, (percent 5).resolve? 20 500 0 = .ok a ∧ (percent 5).resolve? 20 512 0 = .ok b ∧
        |a - b| ≤ 1 :=
  ⟨by decide, by decide, by decide +kernel, by decide +kernel,
    (resolve_percent_within_one 20 0 (by decide) (by decide) (by decide)).2 512 (by decide)⟩

end Position

end DiskPlan
