import DiskPlan.Binary64
import DiskPlan.Text.Label

/-!
# JSON Values

The values of JSON texts, as layout files, settings, device listings and plans
use them.

Whole numbers and numbers with a fraction are different values, since a reader
of a file must be able to refuse one and take the other. An object is a list of
fields in the order of first appearance, and `put` replaces in place, so that
of two fields with one name the last value counts and the first position stays.

A text that a file spells with lone halves of surrogate pairs is a value of its
own kind, since only few readers take it.

## Main definitions

* `Json`: A JSON value.
* `put`: A field added to a list of fields or replaced in it.
* `get?`: The value of a field.
* `isTruthy`: Whether a value counts as present.
* `typeName`: The type of a value.
* `ofLabel`: A label as a value.

## Theorems

* `ofLabel_ofString`: The label of a text is that text.
-/

namespace DiskPlan

/-- A JSON value. -/
inductive Json where
  | null
  | bool (b : Bool)
  | int (n : Int)
  | real (x : Binary64)
  | text (s : String)
  | label (l : Label)
  | list (items : List Json)
  | object (fields : List (String × Json))
  deriving Inhabited

namespace Json

/-- The fields of an object. -/
abbrev Fields := List (String × Json)

/-- A field added to the end of a list of fields, or replaced where it stands. -/
def put (name : String) (value : Json) : Fields → Fields
  | [] => [(name, value)]
  | f :: rest => if f.1 = name then (name, value) :: rest else f :: put name value rest

/-- The value of a field, if there is one of that name. -/
def get? (name : String) (fields : Fields) : Option Json :=
  (fields.find? fun f => f.1 == name).map Prod.snd

/-- Whether a value counts as present: not null, false, zero or empty. -/
def isTruthy : Json → Bool
  | null => false
  | bool b => b
  | int n => n != 0
  | real x => !x.isZero
  | text s => s != ""
  | label l => !l.glyphs.isEmpty
  | list items => !items.isEmpty
  | object fields => !fields.isEmpty

/-- The name of the type that a value has once it is read. -/
def typeName : Json → String
  | null => "NoneType"
  | bool _ => "bool"
  | int _ => "int"
  | real _ => "float"
  | text _ | label _ => "str"
  | list _ => "list"
  | object _ => "dict"

/-- A text, or null in its absence. -/
def ofText? : Option String → Json
  | none => null
  | some s => text s

/-- A label as a value, which is a text if the label is one. -/
def ofLabel (l : Label) : Json :=
  match l.text? with
  | some s => text s
  | none => label l

theorem ofLabel_ofString (s : String) : ofLabel (.ofString s) = text s := by
  simp [ofLabel, Label.text?_ofString]

theorem ofLabel_ne_null (l : Label) : ofLabel l ≠ null := by
  unfold ofLabel
  split <;> simp only [ne_eq, reduceCtorEq, not_false_eq_true]

end Json

end DiskPlan
