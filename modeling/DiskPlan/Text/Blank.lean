/-!
# White Space

The characters that count as white space at the ends of a name, and their
removal.

The set is that of the Unicode property `White_Space` together with the four
information separators U+001C to U+001F. A zero width space and a byte order
mark are not in it, so they stay part of a name.

Numbers are read by a narrower rule: among the ASCII characters only the space
and U+0009 to U+000D may surround a number, so the information separators spoil
one. `isPadding` is that set.

## Main definitions

* `isBlank`: White space around a name.
* `isPadding`: White space around a number.
* `strip`: A list of characters without the ones of a class at both ends.
* `stripped`: A text without white space at both ends.
-/

namespace DiskPlan

namespace Text

/-- White space, in ranges of code points. -/
def blankRanges : List (Nat × Nat) :=
  [
    (0x0009, 0x000D), (0x001C, 0x0020), (0x0085, 0x0085), (0x00A0, 0x00A0), (0x1680, 0x1680),
    (0x2000, 0x200A), (0x2028, 0x2029), (0x202F, 0x202F), (0x205F, 0x205F), (0x3000, 0x3000)]

/-- Whether a character is white space. -/
def isBlank (c : Char) : Bool :=
  blankRanges.any fun r => r.1 ≤ c.toNat && c.toNat ≤ r.2

/-- Whether a character may surround a number: white space other than the
    information separators. -/
def isPadding (c : Char) : Bool :=
  isBlank c && !(0x1C ≤ c.toNat && c.toNat ≤ 0x1F)

/-- A list without the members of a class at both of its ends. -/
def strip {α : Type} (p : α → Bool) (xs : List α) : List α :=
  ((xs.dropWhile p).reverse.dropWhile p).reverse

/-- A text without white space at both ends. -/
def stripped (s : String) : String :=
  String.ofList (strip isBlank s.toList)

end Text

end DiskPlan
