/-!
# Double Precision Numbers

The numbers of the 64-bit binary format, held exactly.

A JSON number with a fraction or an exponent stands for the double nearest to
it, and a size in bytes is rounded to a double before it is shown. Both need
only the value of the double, so it is kept as a sign, a natural number and a
power of two, and rounding is done on quotients of natural numbers. No step
goes through a rounded intermediate result, and there is nothing about the
machine's arithmetic left to trust.

## Main definitions

* `Binary64`: A double: finite, infinite, or not a number.
* `roundDiv`: A quotient rounded to the nearest integer, ties to even.
* `ofRatio`: The double nearest to a quotient.
* `ofDecimal`: The double nearest to a decimal fraction.
* `truncate?`: The integer part of a finite double.
* `isIntegral`: Whether a finite double has no fraction.

## Theorems

* `roundDiv_le`: A rounded quotient exceeds the quotient by at most one half.
-/

namespace DiskPlan

/-- A double. The finite one is `mantissa * 2 ^ exponent`, with its sign. -/
inductive Binary64 where
  | finite (negative : Bool) (mantissa : Nat) (exponent : Int)
  | infinite (negative : Bool)
  | nan
  deriving DecidableEq, Repr

namespace Binary64

/-- The integer nearest to `num / den`, the even one of two that are equally
    near. -/
def roundDiv (num den : Nat) : Nat :=
  let q := num / den
  let r := num % den
  if 2 * r < den then q
  else if den < 2 * r then q + 1
  else q + q % 2

/-- The digits of a significand, in binary. -/
def precision : Nat := 53

/-- The least exponent of a significand. -/
def minExponent : Int := -1074

/-- The exponent that no finite double reaches. -/
def maxExponent : Nat := 1024

/-- A quotient scaled down by a power of two, as a numerator and a
    denominator. -/
def scaled (num den : Nat) (exponent : Int) : Nat × Nat :=
  let scale := Nat.pow 2 exponent.natAbs
  if exponent < 0 then (num * scale, den) else (num, den * scale)

/-- The exponent at which the double nearest to `num / den` is written: the one
    that leaves `precision` digits in front of the point, or the least one. -/
def exponentFor (num den : Nat) : Int :=
  -- The logarithms are rounded down, so the estimate is at most one too low.
  let estimate := max ((num.log2 : Int) - den.log2 - precision) minExponent
  let (n, d) := scaled num den estimate
  if n / d < Nat.pow 2 precision then estimate else estimate + 1

/-- The double nearest to a quotient; infinite if it is out of range. -/
def ofRatio (negative : Bool) (num den : Nat) : Binary64 :=
  if num = 0 then
    finite negative 0 0
  else
    let e := exponentFor num den
    let (n, d) := scaled num den e
    let m := roundDiv n d
    if 0 ≤ e ∧ Nat.pow 2 maxExponent ≤ m * Nat.pow 2 e.natAbs then infinite negative
    else finite negative m e

/-- The double nearest to a natural number. -/
def ofNat (n : Nat) : Binary64 :=
  ofRatio false n 1

/-- The double nearest to `digits * 10 ^ exponent`. A number with more than 310
    digits in front of the point is out of range, and one that begins more than
    400 places behind it rounds to zero, so neither power of ten is formed. -/
def ofDecimal (negative : Bool) (digits : Nat) (exponent : Int) : Binary64 :=
  if digits = 0 then
    finite negative 0 0
  else
    let leading : Int := (Nat.toDigits 10 digits).length + exponent
    if 310 < leading then infinite negative
    else if leading < -400 then finite negative 0 0
    else if exponent < 0 then ofRatio negative digits (Nat.pow 10 exponent.natAbs)
    else ofRatio negative (digits * Nat.pow 10 exponent.natAbs) 1

/-- The integer part of a finite double, toward zero. -/
def truncate? : Binary64 → Option Int
  | finite negative m e =>
    let scale := Nat.pow 2 e.natAbs
    let magnitude : Nat := if e < 0 then m / scale else m * scale
    some (if negative then -(magnitude : Int) else magnitude)
  | _ => none

/-- Whether a double is finite and has no fraction. -/
def isIntegral : Binary64 → Bool
  | finite _ m e => !(e < 0) || m % Nat.pow 2 e.natAbs == 0
  | _ => false

/-- Whether a double is zero, of either sign. -/
def isZero : Binary64 → Bool
  | finite _ m _ => m == 0
  | _ => false

/-- The exact decimal text of a double. Every double but the infinities and the
    one that is not a number has one, since a power of two divides a power of
    ten. -/
def text : Binary64 → String
  | finite negative m e =>
    let sign := if negative then "-" else ""
    if e < 0 then
      let scale := Nat.pow 10 e.natAbs
      let digits := m * Nat.pow 5 e.natAbs
      let fraction := (digits % scale + scale).repr
      sign ++ (digits / scale).repr ++ "." ++ String.ofList (fraction.toList.drop 1)
    else
      sign ++ (m * Nat.pow 2 e.natAbs).repr ++ ".0"
  | infinite negative => if negative then "-Infinity" else "Infinity"
  | nan => "NaN"

theorem roundDiv_le (num den : Nat) (h : 0 < den) :
    2 * (roundDiv num den * den) ≤ 2 * num + den := by
  have hq := Nat.div_add_mod num den
  have hr := Nat.mod_lt num h
  rw [Nat.mul_comm] at hq
  unfold roundDiv
  simp only
  split
  · omega
  · split
    · rw [Nat.add_mul, Nat.one_mul]
      omega
    -- On a tie the remainder is half the divisor, whichever way it goes.
    · rcases Nat.mod_two_eq_zero_or_one (num / den) with hm | hm <;> rw [hm]
      · rw [Nat.add_zero]
        omega
      · rw [Nat.add_mul, Nat.one_mul]
        omega

end Binary64

end DiskPlan
