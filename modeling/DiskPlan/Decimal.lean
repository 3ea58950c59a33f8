import DiskPlan.Text.Blank
import DiskPlan.Text.Digit

/-!
# Decimal Numbers

Whole numbers as text, read and written under a limit on their length.

Sectors and partition numbers are unbounded, but their decimal text is not: a
numeral of more than `digitLimit` digits is neither read nor written. Leading
zeros count, a sign does not. The limit is a cause of failure of its own, since
it can strike where the grammar has already accepted a token, and
`DigitLimit` records which way the number was going.

Two grammars of numerals are in use here. The partitioning language takes
unsigned ASCII digits, read by `read`. Device listings take the loose form of
`loose?`: padding, a sign, digits of any script, and single underscores
between digits. Numbers that a file gives in quotes have a grammar of their own,
in `Decimal.Whole`.

## Main definitions

* `DigitLimit`: A number refused for its length.
* `ofDigits`: The value of a list of ASCII digits.
* `read`: The value of a list of ASCII digits within the limit.
* `text`: The decimal text of an integer.
* `write`: The decimal text of an integer within the limit.
* `ofDecimalDigits`: The value of a list of decimal digits of any script.
* `loose?`: The value of a numeral in the loose form.

## Theorems

* `ofDigits_append`: Digits on the right multiply what stands before them.
* `read_eq_ok_iff`: Exactly the numerals within the limit are read.
* `write_eq_ok_iff`: Exactly the numbers within the limit are written.
* `isWritable_of_le_of_le`: Numbers between two that can be written can be written.
-/

namespace DiskPlan

namespace Decimal

/-- The most digits of a numeral that is read or written. -/
def digitLimit : Nat := 4300

/-- A number refused for its length: a numeral that was to be read, with its
    count of digits, or a number that was to be written. -/
inductive DigitLimit where
  | reading (digits : Nat)
  | writing
  deriving DecidableEq, Repr

/-- The value of a list of ASCII digits. -/
def ofDigits (cs : List Char) : Nat :=
  cs.foldl (fun n c => n * 10 + (c.toNat - '0'.toNat)) 0

/-- Whether a list of characters is a numeral: ASCII digits, at least one. -/
def isNumeral (cs : List Char) : Bool :=
  !cs.isEmpty && cs.all Char.isDigit

/-- The value of a list of ASCII digits within the limit. -/
def read (cs : List Char) : Except DigitLimit Nat :=
  if cs.length ≤ digitLimit then .ok (ofDigits cs) else .error (.reading cs.length)

/-- The decimal text of an integer. -/
def text : Int → String
  | .ofNat n => n.repr
  | .negSucc n => "-" ++ (n + 1).repr

/-- Whether the decimal text of an integer is within the limit. -/
def isWritable (n : Int) : Bool :=
  n.natAbs < Nat.pow 10 digitLimit

/-- The decimal text of an integer within the limit. -/
def write (n : Int) : Except DigitLimit String :=
  if isWritable n then .ok (text n) else .error .writing

/-- The value of a list of decimal digits of any script. -/
def ofDecimalDigits (cs : List Char) : Nat :=
  cs.foldl (fun n c => n * 10 + (Text.decimalDigit? c).getD 0) 0

/-- The value of a numeral in the loose form: padding around it, one sign,
    decimal digits of any script, and single underscores between digits. A
    numeral longer than the limit has none. -/
def loose? (s : String) : Option Int :=
  let body := Text.strip Text.isPadding s.toList
  let (negative, digits) := match body with
    | '-' :: rest => (true, rest)
    | '+' :: rest => (false, rest)
    | _ => (false, body)
  let groups := digits.splitOn '_'
  let cs := groups.flatten
  if groups.all (fun g => !g.isEmpty && g.all Text.isDecimalDigit) && cs.length ≤ digitLimit then
    some (if negative then -(ofDecimalDigits cs : Int) else ofDecimalDigits cs)
  else
    none

theorem ofDigits_append (cs : List Char) (c : Char) :
    ofDigits (cs ++ [c]) = ofDigits cs * 10 + (c.toNat - '0'.toNat) := by
  simp [ofDigits, List.foldl_append]

theorem read_eq_ok_iff {cs : List Char} {n : Nat} :
    read cs = .ok n ↔ cs.length ≤ digitLimit ∧ ofDigits cs = n := by
  unfold read
  split
  · simp_all
  · simp only [reduceCtorEq, false_iff, not_and]
    intro h
    omega

theorem write_eq_ok_iff {n : Int} {s : String} :
    write n = .ok s ↔ isWritable n = true ∧ text n = s := by
  unfold write
  split <;> simp_all

theorem isWritable_zero : isWritable 0 = true := by
  unfold isWritable
  generalize digitLimit = limit
  exact decide_eq_true (Nat.pow_pos (by decide))

/-- Numbers between two that can be written can be written. -/
theorem isWritable_of_le_of_le {m n k : Int} (hm : isWritable m = true) (hk : isWritable k = true)
    (hmn : m ≤ n) (hnk : n ≤ k) : isWritable n = true := by
  unfold isWritable at *
  -- The bound itself is too large to be computed.
  generalize Nat.pow 10 digitLimit = bound at *
  simp only [decide_eq_true_eq] at *
  omega

/-- Every number has a digit at least. -/
theorem toList_repr_ne_nil (n : Nat) : n.repr.toList ≠ [] := by
  rw [Nat.toList_repr]
  exact Nat.toDigits_ne_nil

end Decimal

end DiskPlan
