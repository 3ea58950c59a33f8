import DiskPlan.Decimal
import DiskPlan.Json
import DiskPlan.Text.Quoted

/-!
# Reading JSON

A text as a JSON value.

The grammar is the standard one with three additions: the numbers `NaN`,
`Infinity` and `-Infinity` are read. A text that begins with a byte order mark
is refused. Whole numbers are read under the limit on numerals, and a numeral
that breaks it stops the reading as soon as it is met: an error further on in
the text is then never seen.

Values may be nested up to a limit. A bracket that goes deeper stops the reading
at once, like a numeral that is too long.

Reading goes from left to right and keeps what is left of the text. So a flaw is
found with as much of the text left as there is behind it, which gives its place. Each nested
value takes at least one character, so the length of the text bounds the number
of recursive calls, and that bound is the fuel of `scanValue`.

## Main definitions

* `Flaw`: What is wrong with a text that is not JSON.
* `Fault`: Why a text is not read.
* `Flaw.report`: A flaw in words, with the place where it is.
* `depthLimit`: How deep values may be nested.
* `scanString`: A quoted text after its opening quote.
* `scanNumber`: A number.
* `scanValue`: A value at the front of a text.
* `parse`: A text as one value.
-/

namespace DiskPlan

namespace Json

/-- What is wrong with a text that is not JSON. -/
inductive Flaw where
  | value
  | delimiter (c : Char)
  | name
  | openText
  | controlCharacter
  | escape
  | unitEscape
  | byteOrderMark
  | extraData
  deriving DecidableEq, Repr

namespace Flaw

/-- A flaw in words. -/
def words : Flaw → String
  | value => "Expecting value"
  | delimiter c => "Expecting " ++ Text.inQuotes (String.singleton c) ++ " delimiter"
  | name => "Expecting property name enclosed in double quotes"
  | openText => "Unterminated string starting at"
  | controlCharacter => "Invalid control character at"
  | escape => "Invalid \\escape"
  | unitEscape => "Invalid \\uXXXX escape"
  | byteOrderMark => "Unexpected UTF-8 BOM (decode using utf-8-sig)"
  | extraData => "Extra data"

/-- A flaw in words, with the place where it is in a text, given how many characters
    are left from there on. -/
def report (s : String) (flaw : Flaw) (left : Nat) : String :=
  let before := s.toList.take (s.toList.length - left)
  let line := before.count '\n' + 1
  let column := (before.reverse.takeWhile (· != '\n')).length + 1
  flaw.words ++ ": line " ++ line.repr ++ " column " ++ column.repr ++ " (char "
    ++ before.length.repr ++ ")"

end Flaw

/-- Why a text is not read: it is not JSON, it holds a numeral that is too long, or a
    list or an object in it is nested too deep. A flaw is told with the number of
    characters that are left from its place on. -/
inductive Fault where
  | malformed (flaw : Flaw) (left : Nat)
  | numeral (limit : Decimal.DigitLimit)
  | tooDeep (isObject : Bool)
  deriving DecidableEq, Repr

/-- A fault in a quoted text, given how many characters are left from its opening quote
    on. A text that is not closed is told of there. -/
def Fault.openedAt (left : Nat) : Fault → Fault
  | malformed .openText _ => malformed .openText left
  | f => f

/-- The most lists and objects that a value may be nested in, itself counted. -/
def depthLimit : Nat := 990

/-- White space between the parts of a JSON text. -/
def isSpace (c : Char) : Bool :=
  c == ' ' || c == '\t' || c == '\n' || c == '\r'

/-- A text without the white space at its front. -/
def skipSpace (cs : List Char) : List Char :=
  cs.dropWhile isSpace

/-- The value of a hexadecimal digit. -/
def hexDigit? (c : Char) : Option Nat :=
  if c.isDigit then some (c.toNat - '0'.toNat)
  else if 'a' ≤ c ∧ c ≤ 'f' then some (c.toNat - 'a'.toNat + 10)
  else if 'A' ≤ c ∧ c ≤ 'F' then some (c.toNat - 'A'.toNat + 10)
  else none

/-- The value of four hexadecimal digits and the text after them. A flaw in them is
    told of at the letter in front of them. -/
def scanHex : List Char → Except Fault (Nat × List Char)
  | a :: b :: c :: d :: rest =>
    match hexDigit? a, hexDigit? b, hexDigit? c, hexDigit? d with
    | some a, some b, some c, some d => .ok (((a * 16 + b) * 16 + c) * 16 + d, rest)
    | _, _, _, _ => .error (.malformed .unitEscape (rest.length + 5))
  | cs => .error (.malformed .unitEscape (cs.length + 1))

/-- A UTF-16 unit as a glyph. -/
def ofUnit (unit : Nat) : Glyph :=
  if 0xD800 ≤ unit ∧ unit ≤ 0xDFFF then .half unit else .char (Char.ofNat unit)

/-- The glyph of an escape written as UTF-16 units, given the text after the
    backslash and the letter. Two escapes that are the halves of a surrogate pair
    are one character. -/
def scanUnit (cs : List Char) : Except Fault (Glyph × List Char) :=
  match scanHex cs with
  | .error f => .error f
  | .ok (high, rest) =>
    if 0xD800 ≤ high ∧ high ≤ 0xDBFF then
      match rest with
      | '\\' :: 'u' :: tail =>
        -- What follows is read as an escape even if it is no second half.
        match scanHex tail with
        | .error f => .error f
        | .ok (low, rest') =>
          if 0xDC00 ≤ low ∧ low ≤ 0xDFFF then
            .ok (.char (Char.ofNat (0x10000 + (high - 0xD800) * 0x400 + (low - 0xDC00))), rest')
          else
            .ok (.half high, rest)
      | _ => .ok (.half high, rest)
    else
      .ok (ofUnit high, rest)

/-- The glyph of an escape, given the text after the backslash. Units at the very end of
    a text are no escape: there has to be room for a closing quote. -/
def scanEscape : List Char → Except Fault (Glyph × List Char)
  | [] => .error (.malformed .openText 0)
  | c :: rest =>
    if c = '"' ∨ c = '\\' ∨ c = '/' then .ok (.char c, rest)
    else if c = 'b' then .ok (.char '\x08', rest)
    else if c = 'f' then .ok (.char '\x0c', rest)
    else if c = 'n' then .ok (.char '\n', rest)
    else if c = 'r' then .ok (.char '\r', rest)
    else if c = 't' then .ok (.char '\t', rest)
    else if c = 'u' then
      match scanUnit rest with
      | .ok (_, []) => .error (.malformed .unitEscape 5)
      | found => found
    else .error (.malformed .escape (rest.length + 2))

/-- A quoted text after its opening quote, and what follows the closing one. A
    control character may not stand in it unescaped. -/
def scanString : Nat → List Char → Except Fault (List Glyph × List Char)
  | 0, _ => .error (.malformed .openText 0)
  | _ + 1, [] => .error (.malformed .openText 0)
  | fuel + 1, c :: rest =>
    if c = '"' then
      .ok ([], rest)
    else if c.toNat < 0x20 then
      .error (.malformed .controlCharacter (rest.length + 1))
    else
      match (if c = '\\' then scanEscape rest else .ok (.char c, rest)) with
      | .error f => .error f
      | .ok (glyph, rest') =>
        match scanString fuel rest' with
        | .error f => .error f
        | .ok (glyphs, rest'') => .ok (glyph :: glyphs, rest'')

/-- The digits at the front of a text and what follows them. -/
def scanDigits (cs : List Char) : List Char × List Char :=
  (cs.takeWhile Char.isDigit, cs.dropWhile Char.isDigit)

/-- The whole part of a number: a zero, or digits that do not begin with one. -/
def scanWhole (cs : List Char) : Except Fault (List Char × List Char) :=
  match cs with
  | '0' :: rest => .ok (['0'], rest)
  | _ =>
    match scanDigits cs with
    | ([], _) => .error (.malformed .value cs.length)
    | found => .ok found

/-- The digits after the point of a number, none if there is no fraction. -/
def scanFraction (cs : List Char) : List Char × List Char :=
  match cs with
  | '.' :: rest =>
    match scanDigits rest with
    -- A point without digits is not part of the number.
    | ([], _) => ([], cs)
    | found => found
  | _ => ([], cs)

/-- The exponent of a number, if there is one. -/
def scanExponent (cs : List Char) : Option Int × List Char :=
  match cs with
  | c :: rest =>
    if c = 'e' ∨ c = 'E' then
      let (negative, rest) := match rest with
        | '-' :: tail => (true, tail)
        | '+' :: tail => (false, tail)
        | _ => (false, rest)
      match scanDigits rest with
      | ([], _) => (none, cs)
      | (digits, tail) =>
        let n : Int := Decimal.ofDigits digits
        (some (if negative then -n else n), tail)
    else
      (none, cs)
  | [] => (none, cs)

/-- A number without its sign. It is a whole number if it has neither a fraction
    nor an exponent. If it is none at all, that is told of at the sign. -/
def scanNumber (negative : Bool) (cs : List Char) : Except Fault (Json × List Char) :=
  match scanWhole cs with
  | .error _ => .error (.malformed .value (cs.length + if negative then 1 else 0))
  | .ok (whole, rest) =>
    let (fraction, rest) := scanFraction rest
    let (exponent?, rest) := scanExponent rest
    if fraction.isEmpty && exponent?.isNone then
      match Decimal.read whole with
      | .error limit => .error (.numeral limit)
      | .ok n => .ok (int (if negative then -(n : Int) else n), rest)
    else
      let digits := Decimal.ofDigits (whole ++ fraction)
      .ok (real (Binary64.ofDecimal negative digits (exponent?.getD 0 - fraction.length)), rest)

/-- The words that stand for values. -/
def words : List (String × Json) :=
  [("null", null), ("true", bool true), ("false", bool false), ("NaN", real .nan),
    ("Infinity", real (.infinite false)), ("-Infinity", real (.infinite true))]

/-- A word at the front of a text. -/
def scanWord? (cs : List Char) : Option (Json × List Char) :=
  (words.find? fun w => w.1.toList.isPrefixOf cs).map fun w =>
    (w.2, cs.drop w.1.toList.length)

mutual

/-- A value at the front of a text, in which a number of lists and objects may
    still be opened. -/
def scanValue (depth : Nat) : Nat → List Char → Except Fault (Json × List Char)
  | 0, cs => .error (.malformed .value cs.length)
  | fuel + 1, cs =>
    match scanWord? cs with
    | some found => .ok found
    | none =>
      match cs with
      | '"' :: rest =>
        match scanString (rest.length + 1) rest with
        | .error f => .error (f.openedAt (rest.length + 1))
        | .ok (glyphs, rest) => .ok (ofLabel ⟨glyphs⟩, rest)
      | '[' :: rest => scanList depth fuel (skipSpace rest)
      | '\x7b' :: rest => scanObject depth fuel (skipSpace rest)
      | '-' :: rest => scanNumber true rest
      | _ => scanNumber false cs
  termination_by structural fuel => fuel

/-- A list after its opening bracket. -/
def scanList (depth : Nat) : Nat → List Char → Except Fault (Json × List Char)
  | 0, cs => .error (.malformed .value cs.length)
  | fuel + 1, cs =>
    match depth, cs with
    | 0, _ => .error (.tooDeep false)
    | _ + 1, ']' :: rest => .ok (list [], rest)
    | depth + 1, cs =>
      match scanItems depth fuel cs with
      | .error f => .error f
      | .ok (items, rest) => .ok (list items, rest)
  termination_by structural fuel => fuel

/-- An object after its opening brace. -/
def scanObject (depth : Nat) : Nat → List Char → Except Fault (Json × List Char)
  | 0, cs => .error (.malformed .name cs.length)
  | fuel + 1, cs =>
    match depth, cs with
    | 0, _ => .error (.tooDeep true)
    | _ + 1, '\x7d' :: rest => .ok (object [], rest)
    | depth + 1, cs =>
      match scanFields depth fuel [] cs with
      | .error f => .error f
      | .ok (fields, rest) => .ok (object fields, rest)
  termination_by structural fuel => fuel

/-- The items of a list, at least one, up to the closing bracket. -/
def scanItems (depth : Nat) : Nat → List Char → Except Fault (List Json × List Char)
  | 0, cs => .error (.malformed .value cs.length)
  | fuel + 1, cs =>
    match scanValue depth fuel cs with
    | .error f => .error f
    | .ok (item, rest) =>
      match skipSpace rest with
      | ']' :: rest => .ok ([item], rest)
      | ',' :: rest =>
        match scanItems depth fuel (skipSpace rest) with
        | .error f => .error f
        | .ok (items, rest) => .ok (item :: items, rest)
      | rest => .error (.malformed (.delimiter ',') rest.length)
  termination_by structural fuel => fuel

/-- The fields of an object after those already read, at least one, up to the
    closing brace. -/
def scanFields (depth : Nat) : Nat → Fields → List Char → Except Fault (Fields × List Char)
  | 0, _, cs => .error (.malformed .name cs.length)
  | fuel + 1, fields, cs =>
    match cs with
    | '"' :: rest =>
      match scanString (rest.length + 1) rest with
      | .error f => .error (f.openedAt (rest.length + 1))
      | .ok (name, rest) =>
        match skipSpace rest with
        | ':' :: rest =>
          match scanValue depth fuel (skipSpace rest) with
          | .error f => .error f
          | .ok (value, rest) =>
            -- A name with a lone half is no name that a reader asks for.
            let fields := put (Label.repaired ⟨name⟩) value fields
            match skipSpace rest with
            | '\x7d' :: rest => .ok (fields, rest)
            | ',' :: rest => scanFields depth fuel fields (skipSpace rest)
            | rest => .error (.malformed (.delimiter ',') rest.length)
        | rest => .error (.malformed (.delimiter ':') rest.length)
    | cs => .error (.malformed .name cs.length)
  termination_by structural fuel => fuel

end

/-- The mark that some programs put in front of a text. -/
def byteOrderMark : Char := Char.ofNat 0xFEFF

/-- A text as one JSON value, white space around it aside. -/
def parse (s : String) : Except Fault Json :=
  if s.toList.head? = some byteOrderMark then
    .error (.malformed .byteOrderMark s.toList.length)
  else
    let cs := skipSpace s.toList
    -- A bracket takes three calls, and no other character takes more.
    match scanValue depthLimit (3 * cs.length + 3) cs with
    | .error f => .error f
    | .ok (value, rest) =>
      let rest := skipSpace rest
      if rest.isEmpty then .ok value else .error (.malformed .extraData rest.length)

end Json

end DiskPlan
