import DiskPlan.Binary64
import DiskPlan.Decimal

/-!
# Sizes for Reading

A count of bytes as a person reads it: whole bytes below 1024, one decimal of a
binary unit above.

The count is rounded to a double first, so beyond 2 ^ 53 the shown digits are
those of the double. Dividing a double by a power of 1024 is exact, which leaves
one rounding to tenths. When that rounding reaches 1024.0 the next unit is used,
if there is one.

## Main definitions

* `units`: The binary units, smallest first.
* `tenths`: A double in tenths of a unit.
* `text?`: A count of bytes as text; none if it is out of a double's range.
-/

namespace DiskPlan

namespace ByteSize

/-- The binary units, each 1024 times the one before. -/
def units : List String :=
  ["KiB", "MiB", "GiB", "TiB", "PiB", "EiB", "ZiB", "YiB", "RiB", "QiB"]

/-- The double `mantissa * 2 ^ exponent` in tenths of `1024 ^ k`. -/
def tenths (mantissa : Nat) (exponent : Int) (k : Nat) : Nat :=
  let scale := Nat.pow 2 exponent.natAbs
  if exponent < 0 then
    Binary64.roundDiv (10 * mantissa) (scale * Nat.pow 1024 k)
  else
    Binary64.roundDiv (10 * mantissa * scale) (Nat.pow 1024 k)

/-- Tenths of a unit as a number with one decimal. -/
def oneDecimal (n : Nat) : String :=
  (n / 10).repr ++ "." ++ (n % 10).repr

/-- A double of at least 1024 in the largest unit that it reaches, given the
    units from the first one on and the power of 1024 that the first one is. -/
def inUnits (mantissa : Nat) (exponent : Int) (k : Nat) : List String → String
  | [] => ""
  | [unit] => oneDecimal (tenths mantissa exponent k) ++ " " ++ unit
  | unit :: rest =>
    let n := tenths mantissa exponent k
    -- The comparison is made after rounding, so 1024.0 is never shown here.
    if n < 10240 then oneDecimal n ++ " " ++ unit else inUnits mantissa exponent (k + 1) rest

/-- A count of bytes as text, none if it is out of a double's range. -/
def text? (bytes : Int) : Option String :=
  let sign := if bytes < 0 then "-" else ""
  if bytes.natAbs = 1 then
    some (sign ++ "1 Byte")
  else if bytes.natAbs < 1024 then
    some (Decimal.text bytes ++ " Bytes")
  else
    match Binary64.ofNat bytes.natAbs with
    | .finite _ m e => some (sign ++ inUnits m e 1 units)
    | _ => none

end ByteSize

end DiskPlan
