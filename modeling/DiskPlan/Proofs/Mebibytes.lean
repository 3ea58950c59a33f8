import DiskPlan.Proofs.PositionTexts
import DiskPlan.Proofs.Resolution
import DiskPlan.Proofs.UsableSpace
import Mathlib.Algebra.Order.Field.Basic
import Mathlib.Algebra.Order.Field.Rat
import Mathlib.Data.Nat.Cast.Order.Field
import Mathlib.Tactic.Positivity

/-!
# Mebibytes in Megabytes

What is kept of an amount of mebibytes when it is converted to whole megabytes.

The conversion cuts off what does not fill a megabyte, so on either side of zero it moves an
amount toward zero, and it moves amounts of the two signs in opposite directions. Two amounts
could fall together only if a mebibyte were less than a megabyte. It is more, so even the
amounts next to zero stay apart from it and from each other, and no order is lost.

A token goes through this conversion as a number, is written as a token of megabytes and is
read again. Nothing is lost on that way either, as long as the number can be written, and a
device moves the resulting positions into its usable space in their order. So of two tokens
the one that counts fewer mebibytes stands for no later sector, on every device.

## Main definitions

* `Position.exactMegabytes`: The megabytes in a number of mebibytes.
* `Position.IsCutOff`: A whole number that is left of an exact one.
* `Position.CountsMebibytes`: The tokens that count mebibytes from the start.

## Theorems

* `Position.megabytesOfMebibytes_lt`: Different amounts stay in order.
* `Position.isCutOff_megabytesOfMebibytes`: Less than a megabyte is lost.
* `Position.ofToken_of_countsMebibytes`: What a token of mebibytes stands for.
* `Position.megabytesOfMebibytes_isOrdered`: Mebibytes keep their order as numbers, as tokens
  and as sectors.
-/

namespace DiskPlan

namespace Position

/-- The megabytes in a number of mebibytes, as an exact amount with its fraction. -/
def exactMegabytes (m : Int) : ℚ :=
  m * 1048576 / 1000000

/-- A whole number that is left of an exact one when its fraction is cut off: it has the same
    sign, and falls short by less than one. This says more than rounding to a neighbour, which
    could change the sign or go beyond. -/
structure IsCutOff (exact : ℚ) (whole : Int) : Prop where
  pos_iff : 0 < whole ↔ 0 < exact
  neg_iff : whole < 0 ↔ exact < 0
  abs_le : |(whole : ℚ)| ≤ |exact|
  lt : |exact| - |(whole : ℚ)| < 1

/-- A token that counts mebibytes from the start: a numeral of at most 4000 digits, with a
    plus sign or none. -/
inductive CountsMebibytes : String → Nat → Prop
  | intro {token : String} {plus digits : List Char}
      (htoken : token.toList = plus ++ digits ++ "MiB".toList) (hplus : plus = [] ∨ plus = ['+'])
      (hnumeral : Decimal.isNumeral digits = true) (hlength : digits.length ≤ 4000) :
      CountsMebibytes token (Decimal.ofDigits digits)

/-! ### Numbers -/

/-- A mebibyte is more than a megabyte, so another mebibyte is always another megabyte. -/
theorem megabytesOfMebibytes_lt {m n : Int} (h : m < n) :
    megabytesOfMebibytes m < megabytesOfMebibytes n := by
  unfold megabytesOfMebibytes
  dsimp only
  -- Either amount can be below zero, where the division rounds the other way.
  split <;> split <;> omega

/-- The division is done without the sign, so opposite amounts stay opposite. -/
theorem megabytesOfMebibytes_neg (m : Int) :
    megabytesOfMebibytes (-m) = -megabytesOfMebibytes m := by
  unfold megabytesOfMebibytes
  dsimp only
  split <;> split <;> omega

theorem natAbs_megabytesOfMebibytes (m : Int) :
    (megabytesOfMebibytes m).natAbs = m.natAbs * 1048576 / 1000000 := by
  unfold megabytesOfMebibytes
  dsimp only
  split <;> omega

/-- Zero stays where it is, so everything else stays on its side of it, as different amounts stay
    in their order. -/
theorem megabytesOfMebibytes_pos_iff {m : Int} : 0 < megabytesOfMebibytes m ↔ 0 < m := by
  have hzero : megabytesOfMebibytes 0 = 0 := rfl
  constructor
  · intro h
    by_contra hneg
    rcases Int.lt_or_eq_of_le (Int.not_lt.mp hneg) with hlt | rfl
    · have hbelow := megabytesOfMebibytes_lt hlt
      omega
    · omega
  · intro h
    have habove := megabytesOfMebibytes_lt h
    omega

theorem exactMegabytes_pos_iff {m : Int} : 0 < exactMegabytes m ↔ 0 < m := by
  unfold exactMegabytes
  rw [div_pos_iff_of_pos_right (by norm_num), mul_pos_iff_of_pos_right (by norm_num),
    Int.cast_pos]

theorem exactMegabytes_neg (m : Int) : exactMegabytes (-m) = -exactMegabytes m := by
  unfold exactMegabytes
  rw [Int.cast_neg, neg_mul, neg_div]

theorem abs_exactMegabytes (m : Int) :
    |exactMegabytes m| = ((m.natAbs * 1048576 : ℕ) : ℚ) / (1000000 : ℕ) := by
  unfold exactMegabytes
  rw [abs_div, abs_mul, Nat.cast_mul, Nat.cast_natAbs, Int.cast_abs]
  norm_num

/-- What is cut off of an amount is less than a megabyte, and the amount never grows. -/
theorem isCutOff_megabytesOfMebibytes (m : Int) :
    IsCutOff (exactMegabytes m) (megabytesOfMebibytes m) := by
  have hwhole : |((megabytesOfMebibytes m : Int) : ℚ)| =
      ((m.natAbs * 1048576 / 1000000 : ℕ) : ℚ) := by
    rw [← natAbs_megabytesOfMebibytes, Nat.cast_natAbs, Int.cast_abs]
  refine ⟨?_, ?_, ?_, ?_⟩
  · -- The sign is that of the number of mebibytes on either side.
    rw [megabytesOfMebibytes_pos_iff, exactMegabytes_pos_iff]
  · -- Below zero it is the same for the opposite amount.
    rw [← Int.neg_pos, ← megabytesOfMebibytes_neg, megabytesOfMebibytes_pos_iff, ← neg_pos,
      ← exactMegabytes_neg, exactMegabytes_pos_iff]
  · rw [hwhole, abs_exactMegabytes]
    exact Nat.cast_div_le
  · rw [hwhole, abs_exactMegabytes, sub_lt_iff_lt_add, div_lt_iff₀ (by norm_num)]
    have hlt : m.natAbs * 1048576 < (1 + m.natAbs * 1048576 / 1000000) * 1000000 := by omega
    exact_mod_cast hlt

/-! ### Tokens -/

variable {s t : String} {m n : Nat}

/-- A number is written as a token that counts as many, so every amount has a token. -/
theorem countsMebibytes_repr (h : m.repr.length ≤ 4000) : CountsMebibytes (m.repr ++ "MiB") m := by
  have hcounts : CountsMebibytes (m.repr ++ "MiB") (Decimal.ofDigits m.repr.toList) :=
    .intro (String.toList_append) (Or.inl rfl) (Decimal.isNumeral_repr m) h
  rwa [Json.ofDigits_repr] at hcounts

/-- A token of mebibytes is read, and stands for their whole megabytes. Its digits are few enough
    that neither reading nor converting them fails. -/
theorem ofToken_of_countsMebibytes (h : CountsMebibytes s m) :
    ofToken s = .ok (megabyte (m * 1048576 / 1000000)) := by
  cases h with
  | @intro plus digits htoken hplus hnumeral hlength =>
      have hrows := Text.hasRowsWithin_of_row htoken
        (by rcases hplus with rfl | rfl <;> decide) (by decide)
      have hlimit : digits.length < Decimal.digitLimit := Nat.lt_of_le_of_lt hlength (by decide)
      rcases Decimal.isNumeral_iff.mp hnumeral with ⟨hne, hdigits⟩
      have hspelled : Spelled s (ofMegabytes (megabytesOfMebibytes
          (if plus = ['-'] then -(Decimal.ofDigits digits : Int) else Decimal.ofDigits digits))) :=
        .mebibytes htoken (hplus.imp_right Or.inr) hne hdigits
      rw [if_neg (by rcases hplus with rfl | rfl <;> decide), ofMegabytes_mebibytes] at hspelled
      exact (ofToken_eq_ok_iff (not_isOverlong_of_hasRowsWithin hrows hlimit)).mpr hspelled

/-- More megabytes stand for no earlier sector. Clamping keeps the order, so this holds beyond
    the ends of a device as well. -/
theorem resolve_megabyte_mono {sectorSize : Int} (hsize : 1 ≤ sectorSize) (sectors reserved : Int)
    (h : m ≤ n) :
    (megabyte m).resolve sectors sectorSize reserved ≤
      (megabyte n).resolve sectors sectorSize reserved :=
  clamp_mono sectors reserved (megabytes_mono hsize h)

/-- Whole megabytes are in the order of the mebibytes, below zero as above, and different
    amounts of mebibytes are different amounts of megabytes. What is cut off is less than one
    megabyte and leaves the sign as it is. Every number of at most 4000 digits can be written as
    a token of mebibytes. Of two such tokens the one that counts fewer mebibytes stands for no
    later sector, on a disk and in a volume group of any size. -/
theorem megabytesOfMebibytes_isOrdered :
    (∀ m n, m < n → megabytesOfMebibytes m < megabytesOfMebibytes n) ∧
      (∀ m, megabytesOfMebibytes (-m) = -megabytesOfMebibytes m) ∧
      (∀ m, IsCutOff (exactMegabytes m) (megabytesOfMebibytes m)) ∧
      (∀ m : Nat, m.repr.length ≤ 4000 → CountsMebibytes (m.repr ++ "MiB") m) ∧
      ∀ m n : Nat, m ≤ n → ∀ s t, CountsMebibytes s m → CountsMebibytes t n →
        ∃ p q, ofToken s = .ok p ∧ ofToken t = .ok q ∧
          (∀ d : Disk, 1 ≤ d.sectorSize →
            ∃ a b, d.resolve? p = .ok a ∧ d.resolve? q = .ok b ∧ a ≤ b) ∧
          ∀ g : VolumeGroup, 1 ≤ g.sectorSize →
            ∃ a b, g.resolve? p = .ok a ∧ g.resolve? q = .ok b ∧ a ≤ b := by
  refine ⟨fun m n => megabytesOfMebibytes_lt, megabytesOfMebibytes_neg,
    isCutOff_megabytesOfMebibytes, fun m => countsMebibytes_repr, ?_⟩
  intro m n hle s t hs ht
  -- The amounts in megabytes are in the order of those in mebibytes.
  have hmegabytes : m * 1048576 / 1000000 ≤ n * 1048576 / 1000000 :=
    Nat.div_le_div_right (Nat.mul_le_mul_right _ hle)
  refine ⟨_, _, ofToken_of_countsMebibytes hs, ofToken_of_countsMebibytes ht, ?_, ?_⟩
  · intro d hsize
    exact ⟨_, _, Disk.resolve?_eq_sectorAt hsize _, Disk.resolve?_eq_sectorAt hsize _,
      resolve_megabyte_mono hsize d.sectors d.reserved hmegabytes⟩
  · intro g hsize
    exact ⟨_, _, resolve?_eq (Int.ne_of_gt hsize) _ _ _, resolve?_eq (Int.ne_of_gt hsize) _ _ _,
      resolve_megabyte_mono hsize g.sectors 0 hmegabytes⟩

/-- Around zero nothing falls together. -/
example : [-1000, -2, -1, 0, 1, 2, 1000].map megabytesOfMebibytes =
    [-1048, -2, -1, 0, 1, 2, 1048] := by
  decide

end Position

end DiskPlan
