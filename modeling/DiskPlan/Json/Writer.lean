import DiskPlan.Decimal
import DiskPlan.Json

/-!
# Writing JSON

A JSON value as text, on one line or indented.

The text is ASCII: a character outside the printable range is written as an
escape of its UTF-16 units. Indented text puts every item and field on a line
of its own, two spaces deeper than the bracket around it, and writes an empty
list or object as its two brackets.

## Main definitions

* `escape`: A character inside a quoted text.
* `quoted`, `quotedLabel`: A quoted text.
* `compact`: A value on one line.
* `indented`: A value over several lines.
* `isWritable`: Whether every whole number in a value is within the limit on
  numerals.

## Theorems

* `areItemsWritable_iff`, `areFieldsWritable_iff`: A list or an object is written if
  everything in it is.
-/

namespace DiskPlan

namespace Json

/-- The hexadecimal digit of a number below sixteen. -/
def hexDigit (n : Nat) : Char :=
  Char.ofNat (if n < 10 then '0'.toNat + n else 'a'.toNat + (n - 10))

/-- The escape of a UTF-16 unit. -/
def unitEscape (unit : Nat) : List Char :=
  ['\\', 'u', hexDigit (unit / 4096 % 16), hexDigit (unit / 256 % 16), hexDigit (unit / 16 % 16),
    hexDigit (unit % 16)]

/-- A character as it stands inside a quoted text. -/
def escape (c : Char) : List Char :=
  if c = '"' then ['\\', '"']
  else if c = '\\' then ['\\', '\\']
  else if c = '\n' then ['\\', 'n']
  else if c = '\r' then ['\\', 'r']
  else if c = '\t' then ['\\', 't']
  else if c = '\x0c' then ['\\', 'f']
  else if c = '\x08' then ['\\', 'b']
  else if 0x20 ≤ c.toNat ∧ c.toNat ≤ 0x7E then [c]
  else if c.toNat < 0x10000 then unitEscape c.toNat
  else
    let n := c.toNat - 0x10000
    unitEscape (0xD800 + n / 0x400) ++ unitEscape (0xDC00 + n % 0x400)

/-- A glyph as it stands inside a quoted text. -/
def escapeGlyph : Glyph → List Char
  | .char c => escape c
  | .half unit => unitEscape unit

/-- A quoted label. -/
def quotedLabel (l : Label) : String :=
  "\"" ++ String.ofList (l.glyphs.flatMap escapeGlyph) ++ "\""

/-- A quoted text. -/
def quoted (s : String) : String :=
  "\"" ++ String.ofList (s.toList.flatMap escape) ++ "\""

mutual

/-- A value on one line, without white space. -/
def compact : Json → String
  | null => "null"
  | bool b => if b then "true" else "false"
  | int n => Decimal.text n
  | real x => x.text
  | text s => quoted s
  | label l => quotedLabel l
  | list items => "[" ++ ",".intercalate (compactItems items) ++ "]"
  | object fields => "\x7b" ++ ",".intercalate (compactFields fields) ++ "\x7d"

/-- The items of a list, each on one line. -/
def compactItems : List Json → List String
  | [] => []
  | item :: rest => compact item :: compactItems rest

/-- The fields of an object, each on one line. -/
def compactFields : List (String × Json) → List String
  | [] => []
  | (name, value) :: rest => (quoted name ++ ":" ++ compact value) :: compactFields rest

end

/-- The start of a line at a depth. -/
def newline (depth : Nat) : String :=
  String.ofList ('\n' :: List.replicate (2 * depth) ' ')

/-- Lines between two brackets that stand at a depth. -/
def bracketed (opening closing : String) (depth : Nat) (lines : List String) : String :=
  if lines.isEmpty then
    opening ++ closing
  else
    let start := newline (depth + 1)
    opening ++ start ++ ("," ++ start).intercalate lines ++ newline depth ++ closing

mutual

/-- A value over several lines, where the line it starts on is at a depth. -/
def indentedAt (depth : Nat) : Json → String
  | null => "null"
  | bool b => if b then "true" else "false"
  | int n => Decimal.text n
  | real x => x.text
  | text s => quoted s
  | label l => quotedLabel l
  | list items => bracketed "[" "]" depth (indentedItems (depth + 1) items)
  | object fields => bracketed "\x7b" "\x7d" depth (indentedFields (depth + 1) fields)

/-- The items of a list at a depth. -/
def indentedItems (depth : Nat) : List Json → List String
  | [] => []
  | item :: rest => indentedAt depth item :: indentedItems depth rest

/-- The fields of an object at a depth. -/
def indentedFields (depth : Nat) : List (String × Json) → List String
  | [] => []
  | (name, value) :: rest =>
    (quoted name ++ ": " ++ indentedAt depth value) :: indentedFields depth rest

end

/-- A value over several lines. -/
def indented (value : Json) : String :=
  indentedAt 0 value

mutual

/-- Whether every whole number in a value is within the limit on numerals. -/
def isWritable : Json → Bool
  | int n => Decimal.isWritable n
  | list items => areItemsWritable items
  | object fields => areFieldsWritable fields
  | _ => true

/-- Whether every whole number in a list of values is within the limit. -/
def areItemsWritable : List Json → Bool
  | [] => true
  | item :: rest => isWritable item && areItemsWritable rest

/-- Whether every whole number in a list of fields is within the limit. -/
def areFieldsWritable : List (String × Json) → Bool
  | [] => true
  | (_, value) :: rest => isWritable value && areFieldsWritable rest

end

theorem areItemsWritable_iff {items : List Json} :
    areItemsWritable items = true ↔ ∀ v ∈ items, v.isWritable = true := by
  induction items with
  | nil => simp [areItemsWritable]
  | cons v rest ih => rw [areItemsWritable, Bool.and_eq_true, ih, List.forall_mem_cons]

theorem areFieldsWritable_iff {fields : Fields} :
    areFieldsWritable fields = true ↔ ∀ f ∈ fields, f.2.isWritable = true := by
  induction fields with
  | nil => simp [areFieldsWritable]
  | cons f rest ih => rw [areFieldsWritable, Bool.and_eq_true, ih, List.forall_mem_cons]

end Json

end DiskPlan
