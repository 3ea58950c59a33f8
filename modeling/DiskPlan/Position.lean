import DiskPlan.Failure
import DiskPlan.Text

/-!
# Positions on a Device

Where a partition is to begin or end, before the device is known.

A position is an edge of the usable space, a distance from either edge in
sectors or in metric megabytes, or a share of the whole device. It is resolved
against a device that keeps some sectors free at both of its ends, and the
result never leaves the space between them. Division rounds down throughout,
also for a device whose size or sector size is negative.

A token may give the distance in mebibytes instead. Such a token is first
converted to whole megabytes, rounding toward zero, and then read like any
other. The conversion goes through text, so it is subject to the limit on
numerals on the way in and on the way out.

## Main definitions

* `Position`: A position on a device.
* `Position.parse?`: The position that a text names.
* `Position.text`: The canonical text of a position.
* `Position.resolve`: The sector that a position stands for.
* `megabytesOfMebibytes`: Whole megabytes in a number of mebibytes.
* `Position.normalize`: A token with its mebibytes converted.
* `Position.ofToken`: The position that a token names.

## Theorems

* `reserved_le_resolve`: A resolved position keeps clear of the start.
* `resolve_le`: A resolved position keeps clear of the end.
* `resolve?_eq`: Positions resolve wherever sectors have a size.
-/

namespace DiskPlan

/-- A position on a device. -/
inductive Position where
  | start
  | finish
  | sector (n : Nat)
  | sectorFromEnd (n : Nat)
  | megabyte (n : Nat)
  | megabyteFromEnd (n : Nat)
  | percent (n : Nat)
  deriving DecidableEq, Repr

namespace Position

/-- The value of a numeral within the limit, after an optional plus sign. -/
def unsigned? (cs : List Char) : Option Nat :=
  let digits := match cs with
    | '+' :: rest => rest
    | _ => cs
  if Decimal.isNumeral digits then (Decimal.read digits).toOption else none

/-- A distance from the start, or from the end after a minus sign. -/
def distance? (fromStart fromEnd : Nat → Position) (cs : List Char) : Option Position :=
  match cs with
  | '-' :: rest => (unsigned? rest).map fromEnd
  | _ => (unsigned? cs).map fromStart

/-- The position that a text names: `start`, `end`, a number of sectors, a number
    of megabytes ending in `M`, either of them counted from the end after a
    minus sign, or a percentage up to 100. -/
def parse? (s : String) : Option Position :=
  match Text.before? "M" s with
  | some body => distance? megabyte megabyteFromEnd body.toList
  | none =>
    match Text.before? "%" s with
    | some body => ((unsigned? body.toList).filter (· ≤ 100)).map percent
    | none =>
      if s = "start" then some start
      else if s = "end" then some finish
      else distance? sector sectorFromEnd s.toList

/-- The canonical text of a position. -/
def text : Position → String
  | start => "start"
  | finish => "end"
  | sector n => n.repr
  | sectorFromEnd n => "-" ++ n.repr
  | megabyte n => n.repr ++ "M"
  | megabyteFromEnd n => "-" ++ n.repr ++ "M"
  | percent n => n.repr ++ "%"

/-- The last position between the reserved sectors of a device, or the first one
    if the two ends meet. -/
def limit (sectors reserved : Int) : Int :=
  max reserved (sectors - reserved)

/-- A sector moved into the space between the reserved sectors. -/
def clamp (sectors reserved value : Int) : Int :=
  max reserved (min (limit sectors reserved) value)

/-- The sectors that a number of metric megabytes fills. -/
def megabytes (sectorSize : Int) (n : Nat) : Int :=
  Int.fdiv (n * 1000000) sectorSize

/-- The sector that a position stands for on a device of `sectors` sectors that
    keeps `reserved` of them free at both ends. -/
def resolve (sectors sectorSize reserved : Int) : Position → Int
  | start => reserved
  | finish => limit sectors reserved
  | sector n => clamp sectors reserved n
  | sectorFromEnd n => clamp sectors reserved (limit sectors reserved - n)
  | megabyte n => clamp sectors reserved (megabytes sectorSize n)
  | megabyteFromEnd n =>
    clamp sectors reserved (limit sectors reserved - megabytes sectorSize n)
  | percent n =>
    -- The two ends of the scale are the edges and need no division.
    if n = 0 then reserved
    else if n = 100 then limit sectors reserved
    else
      clamp sectors reserved
        (Int.fdiv (Int.fdiv (sectors * sectorSize) 100 * n) sectorSize)

/-- Whether resolving a position divides by the sector size. -/
def dividesBySectorSize : Position → Bool
  | megabyte _ | megabyteFromEnd _ => true
  | percent n => n != 0 && n != 100
  | _ => false

/-- The sector that a position stands for, unless a sector size of zero leaves it
    without one. -/
def resolve? (sectors sectorSize reserved : Int) (p : Position) : Except Failure Int :=
  if sectorSize = 0 && p.dividesBySectorSize then
    .error .zeroDivisor
  else
    .ok (p.resolve sectors sectorSize reserved)

/-- Whole metric megabytes in a number of mebibytes, rounding toward zero. -/
def megabytesOfMebibytes (n : Int) : Int :=
  let whole : Nat := n.natAbs * 1048576 / 1000000
  if n < 0 then -(whole : Int) else whole

/-- A token with mebibytes converted to megabytes; any other token stays as it
    is. -/
def normalize (token : String) : Except Failure String :=
  match Text.before? "MiB" token with
  | none => .ok token
  | some count =>
    -- The sign goes through the number and back into text, so a zero loses it.
    let (negative, digits) := match count.toList with
      | '-' :: rest => (true, rest)
      | '+' :: rest => (false, rest)
      | cs => (false, cs)
    if Decimal.isNumeral digits then
      match Decimal.read digits with
      | .error limit => .error (.numeral limit)
      | .ok n =>
        match Decimal.write (megabytesOfMebibytes (if negative then -(n : Int) else n)) with
        | .error limit => .error (.numeral limit)
        | .ok s => .ok (s ++ "M")
    else
      .error (.ofSyntax (.invalidSector token))

/-- The position that a token names, mebibytes included. -/
def ofToken (token : String) : Except Failure Position :=
  match normalize token with
  | .error f => .error f
  | .ok s =>
    match parse? s with
    | some p => .ok p
    | none => .error (.ofSyntax (.invalidSector token))

theorem reserved_le_clamp (sectors reserved value : Int) :
    reserved ≤ clamp sectors reserved value :=
  Int.le_max_left _ _

theorem clamp_le (sectors reserved value : Int) :
    clamp sectors reserved value ≤ limit sectors reserved :=
  Int.max_le.mpr ⟨Int.le_max_left _ _, Int.min_le_left _ _⟩

/-- A resolved position keeps clear of the sectors reserved at the start. -/
theorem reserved_le_resolve (sectors sectorSize reserved : Int) (p : Position) :
    reserved ≤ p.resolve sectors sectorSize reserved := by
  cases p <;> simp only [resolve]
  case start => exact Int.le_refl _
  case finish => exact Int.le_max_left _ _
  case percent n =>
    split
    · exact Int.le_refl _
    · split
      · exact Int.le_max_left _ _
      · exact reserved_le_clamp _ _ _
  all_goals exact reserved_le_clamp _ _ _

/-- A resolved position keeps clear of the sectors reserved at the end. -/
theorem resolve_le (sectors sectorSize reserved : Int) (p : Position) :
    p.resolve sectors sectorSize reserved ≤ limit sectors reserved := by
  cases p <;> simp only [resolve]
  case start => exact Int.le_max_left _ _
  case finish => exact Int.le_refl _
  case percent n =>
    split
    · exact Int.le_max_left _ _
    · split
      · exact Int.le_refl _
      · exact clamp_le _ _ _
  all_goals exact clamp_le _ _ _

/-- Positions resolve on every device whose sectors have a size. -/
theorem resolve?_eq {sectorSize : Int} (hsize : sectorSize ≠ 0) (sectors reserved : Int)
    (p : Position) :
    p.resolve? sectors sectorSize reserved = .ok (p.resolve sectors sectorSize reserved) := by
  unfold resolve?
  rw [decide_eq_false hsize, Bool.false_and, if_neg Bool.false_ne_true]

end Position

end DiskPlan
