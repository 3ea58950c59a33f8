import DiskPlan.Decimal

/-!
# Whole Numbers in Quotes

A whole number that a file gives as text.

A number in quotes may be decorated, and the reader takes off what does not
change the value: padding, a sign, zeros in front, underscores between digits,
and a fraction of zeros. What is left has to be a plain numeral, a single zero
or digits that begin with another digit.

The decorations come off in a fixed order, from the outside in, and each is
looked for only once. This decides what mixtures of them mean. Underscores among
the zeros in front go with the zeros, however many there are, and a minus may
follow those zeros. Anywhere else an underscore has to stand alone between two
characters, and a second sign spoils the number.

The limit on numerals holds for the digits of what is left. A text that
begins with a plain numeral beyond the limit is too long whatever follows, but a
numeral that has to be undecorated first is merely malformed then.

## Main definitions

* `WholeFault`: Why a text is no whole number.
* `withoutLeadingZeros?`: What follows the zeros in front.
* `withoutZeroFraction`: What precedes a fraction of zeros.
* `ungrouped`: A text without the underscores that group it.
* `readPlain`: The value of a plain numeral.
* `undecorated?`: A numeral without its decorations.
* `readWhole`: The value of a whole number in quotes.
-/

namespace DiskPlan

namespace Decimal

/-- Why a text is no whole number: it is none at all, or it is too long. -/
inductive WholeFault where
  | malformed
  | tooLong
  deriving DecidableEq, Repr

/-- Whether a numeral can open with a character once the zeros in front of it are
    gone. -/
def opensNumeral (c : Char) : Bool :=
  (c.isDigit && c != '0') || c == '-'

/-- What follows zeros and underscores, given the last of them. It is kept if a
    numeral cannot do without it. -/
def afterZeros? (last : Char) : List Char → Option (List Char)
  | [] => some [last]
  | c :: rest =>
    if c = '0' ∨ c = '_' then afterZeros? c rest
    else if c = '.' then some (last :: c :: rest)
    else if opensNumeral c then some (c :: rest)
    else none

/-- What follows the zeros in front of a numeral, if they are followed by one. -/
def withoutLeadingZeros? : List Char → Option (List Char)
  | [] => none
  | c :: rest =>
    if c = '0' then afterZeros? c rest
    else if opensNumeral c then some (c :: rest)
    else none

/-- What precedes a fraction of zeros, at least one. Any other text stays as it
    is. -/
def withoutZeroFraction (cs : List Char) : List Char :=
  match cs.dropWhile (· != '.') with
  | _ :: '0' :: zeros => if zeros.all (· == '0') then cs.takeWhile (· != '.') else cs
  | _ => cs

/-- A text without the underscores that group it. It stays as it is if one of
    them does not stand alone between two characters. -/
def ungrouped (cs : List Char) : List Char :=
  let groups := cs.splitOn '_'
  if groups.all (!·.isEmpty) then groups.flatten else cs

/-- The value of a plain numeral, with an optional minus. -/
def readPlain (cs : List Char) : Except WholeFault Int :=
  let (negative, digits) := match cs with
    | '-' :: rest => (true, rest)
    | _ => (false, cs)
  if digits = ['0'] then
    .ok 0
  else if digits.head? = some '0' then
    .error .malformed
  else if digitLimit < (digits.takeWhile Char.isDigit).length then
    .error .tooLong
  else if isNumeral digits then
    .ok (if negative then -(ofDigits digits : Int) else ofDigits digits)
  else
    .error .malformed

/-- A numeral without its decorations, if it has the form of one. -/
def undecorated? (cs : List Char) : Option (List Char) :=
  let body := Text.strip Text.isPadding cs
  let (minus, unsigned) := match body with
    | '+' :: '-' :: _ => ([], body)
    | '+' :: rest => ([], rest)
    | '-' :: rest => (['-'], rest)
    | _ => ([], body)
  (withoutLeadingZeros? unsigned).map fun numeral =>
    minus ++ ungrouped (withoutZeroFraction numeral)

/-- The value of a whole number in quotes. -/
def readWhole (s : String) : Except WholeFault Int :=
  match readPlain s.toList with
  | .error .malformed =>
    match (undecorated? s.toList).map readPlain with
    | some (.ok n) => .ok n
    | _ => .error .malformed
  | plain => plain

end Decimal

end DiskPlan
