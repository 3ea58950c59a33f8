import DiskPlan.Console.Ink
import DiskPlan.Text.Pattern
import DiskPlan.Text.WordChar

/-!
# Highlighting

The parts of a message that the console shows in colours of their own.

Four kinds of parts are looked for one after the other, so they may overlap: a
tag in angle brackets, a setting with its value, brackets, and a list of values
such as numbers, addresses, paths and quoted texts. Values do not overlap each
other. At each place of a message the list is gone through in order and the
first value that is found counts, even if a later one is longer.

Digits and names are those of ASCII where a value has a form of its own, and
those of every script where it belongs to the words around it.

## Main definitions

* `Highlight.tag`, `Highlight.setting`, `Highlight.bracket`, `Highlight.value`:
  The four kinds of parts.
* `Highlight.coloured`: A message with the changes of its colour.
* `Highlight.ink`: The same, if the changes matter.
-/

namespace DiskPlan

namespace Console

namespace Highlight

open Text Text.Pattern

/-- Whether a character is a hexadecimal digit. -/
def isHexDigit (c : Char) : Bool :=
  c.isDigit || ('a' ≤ c && c ≤ 'f') || ('A' ≤ c && c ≤ 'F')

/-- Whether a character belongs to words or is one of a few others. -/
def isWordCharOr (others : String) (c : Char) : Bool :=
  isWordChar c || others.toList.contains c

/-- A digit. -/
def digit : Pattern :=
  one Char.isDigit

/-- A hexadecimal digit. -/
def hexDigit : Pattern :=
  one isHexDigit

/-- A character of words. -/
def wordChar : Pattern :=
  one isWordChar

/-- A place where a word begins or ends. -/
def wordEdge : Pattern :=
  edge isWordChar true

/-- A place where no word begins or ends. -/
def noWordEdge : Pattern :=
  edge isWordChar false

/-- A sign. -/
def sign : Pattern :=
  oneOf "-+"

/-- A quotation mark. -/
def quotationMark : Pattern :=
  char '\x22'

/-- A tag in angle brackets, which ends at the last closing bracket of the
    message. Its name may be empty. -/
def tag : Pattern :=
  part (char '<') ++ part (one (isWordCharOr "-.:|")).many ++ part (one fun _ => true).many
    ++ part (char '>')

/-- A name with an equals sign after it, and a value if there is one. Of a long
    name only the last fifty characters count. -/
def setting : Pattern :=
  part (wordChar.between 1 50) ++ char '='
    ++ (part (quotationMark.optional ++ wordChar.oneOrMore ++ quotationMark.optional)).optional

/-- A bracket. -/
def bracket : Pattern :=
  part (oneOf "[]()\x7b\x7d")

/-- Groups of one form with a separator between them, given how many there are
    before the last. -/
def grouped (n : Nat) (group : Pattern) (separator : Char) : Pattern :=
  (group ++ char separator).times n ++ group

/-- A network address of four numbers. -/
def address4 : Pattern :=
  part (grouped 3 (digit.between 1 3) '.')

/-- A network address of up to eight hexadecimal groups. -/
def address6 : Pattern :=
  let group := hexDigit.between 1 4
  part ((group ++ char ':' ++ (char ':').optional).between 1 7 ++ group)

/-- A hardware address, given the number of pairs before the last. Two pairs at a
    time may also be written as one group. -/
def hardwareAddress (pairs : Nat) : Pattern :=
  let pair := hexDigit.between 1 2
  part (firstOf [
    grouped pairs pair '-', grouped pairs pair ':', grouped (pairs / 2) (hexDigit.times 4) '.'])

/-- A unique identifier. -/
def identifier : Pattern :=
  part (hexDigit.times 8 ++ (char '-' ++ hexDigit.times 4).times 3
    ++ char '-' ++ hexDigit.times 12)

/-- The name of what is called, in front of the parenthesis of its arguments. -/
def call : Pattern :=
  part (lazy 0 none (one (isWordCharOr "."))) ++ char '('

/-- A word for a value. -/
def constant (name : String) : Pattern :=
  wordEdge ++ part (exactly name) ++ wordEdge

/-- Three points. -/
def ellipsis : Pattern :=
  part (exactly "...")

/-- The digits of a number, with or without a fraction. -/
def magnitude : Pattern :=
  digit.oneOrMore ++ (char '.').optional ++ digit.many

/-- An exponent, given how its digits are repeated. -/
def exponent (digits : Pattern → Pattern) : Pattern :=
  (char 'e' ++ sign.optional ++ digits (one isDecimalDigit)).optional

/-- A number after no word, with no more digits in its exponent than what follows
    asks for. -/
def signedNumber : Pattern :=
  notAfter isWordChar ++ (char '-').optional ++ magnitude ++ exponent (lazy 1 none)

/-- A complex number. Its imaginary part stands at the end and may be all there
    is. -/
def complexNumber : Pattern :=
  part (signedNumber ++ (sign ++ magnitude ++ exponent oneOrMore).optional ++ char 'j')

/-- A number, decimal or hexadecimal. -/
def number : Pattern :=
  part (signedNumber ++ wordEdge <|> exactly "0x" ++ hexDigit.many)

/-- A directory up to its last slash, and the name of the file in it. -/
def path : Pattern :=
  let nameChar := one (isWordCharOr "-.+")
  part (noWordEdge ++ (char '/' ++ nameChar.oneOrMore).many ++ char '/') ++ part nameChar.many

/-- A text between quotes of some marks each, within one line. A backslash keeps
    the closing quote from closing. -/
def quotedBy (mark : Char) (marks : Nat) : Pattern :=
  (char 'b').optional ++ (char mark).times marks ++ lazy 0 none (one (· != '\n'))
    ++ notAfter (· == '\\') ++ (char mark).times marks

/-- A quoted text after no word. -/
def quoted : Pattern :=
  notAfter (isWordCharOr "\\")
    ++ part (firstOf [
      quotedBy '\x27' 3, quotedBy '\x27' 1, quotedBy '\x22' 3, quotedBy '\x22' 1])

/-- Whether a character may stand in the address of a page. -/
def isLinkChar (c : Char) : Bool :=
  c.isAlphanum || "-$_+!\x60(),.?/;:&=%#~@".toList.contains c

/-- The address of a page or file. -/
def link : Pattern :=
  part (firstOf (["file", "https", "http", "ws", "wss"].map exactly) ++ exactly "://"
    ++ (one isLinkChar).many)

/-- A value. -/
def value : Pattern :=
  firstOf [
    address4, address6, hardwareAddress 7, hardwareAddress 5, identifier, call,
    constant "True", constant "False", constant "None", ellipsis, complexNumber, number, path,
    quoted, link]

/-- A message with the changes of its colour. -/
def coloured (cs : List Char) : List Inked :=
  let bounds := [tag, setting, bracket, value].flatMap fun p => p.bounds cs
  cs.zipIdx.map fun (c, i) => ⟨c, bounds.contains i⟩

/-- A message with the changes of its colour, so far as they matter: only a
    joiner or a selector measures differently where the colour changes. -/
def ink (cs : List Char) : List Inked :=
  if cs.contains joiner || cs.contains emojiSelector then coloured cs else plain cs

end Highlight

end Console

end DiskPlan
