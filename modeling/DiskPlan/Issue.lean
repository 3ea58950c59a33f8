/-!
# Issues of a File

What is wrong with the contents of a file that has to have a given shape.

A reader of such a file finds every fault at once and tells each with the place
it stands at: the names of the fields and the numbers of the items that lead to
it from the outside in.

## Main definitions

* `Key`: One step into a value.
* `Expectation`: What was expected of the value at a place.
* `Issue`: A place and what was expected there.
-/

namespace DiskPlan

/-- One step into a value: a field of an object or an item of a list. -/
inductive Key where
  | field (name : String)
  | item (index : Nat)
  deriving DecidableEq, Repr

/-- What was expected of a value and not met. -/
inductive Expectation where
  | present
  | object
  | list
  | integer
  | integerText
  | shorterInteger
  | wholeNumber
  | finiteNumber
  | boolean
  | booleanText
  | string
  | unicode
  | longerString (minimum : Nat)
  | shorterString (maximum : Nat)
  | path
  | choice
  | member
  | greaterThan (bound : Int)
  | atLeast (bound : Int)
  | atMost (bound : Int)
  | rule (text : String)
  deriving DecidableEq, Repr

namespace Expectation

/-- The code of an expectation. -/
def code : Expectation → String
  | present => "missing"
  | object => "model_type"
  | list => "list_type"
  | integer => "int_type"
  | integerText => "int_parsing"
  | shorterInteger => "int_parsing_size"
  | wholeNumber => "int_from_float"
  | finiteNumber => "finite_number"
  | boolean => "bool_type"
  | booleanText => "bool_parsing"
  | string => "string_type"
  | unicode => "string_unicode"
  | longerString _ => "string_too_short"
  | shorterString _ => "string_too_long"
  | path => "path_type"
  | choice => "literal_error"
  | member => "enum"
  | greaterThan _ => "greater_than"
  | atLeast _ => "greater_than_equal"
  | atMost _ => "less_than_equal"
  | rule _ => "value_error"

/-- A number of characters in words. -/
def characters (n : Nat) : String :=
  n.repr ++ (if n = 1 then " character" else " characters")

/-- What is told about an expectation of a text. -/
def message : Expectation → String
  | present => "Field required"
  | string => "Input should be a valid string"
  | longerString minimum => "String should have at least " ++ characters minimum
  | shorterString maximum => "String should have at most " ++ characters maximum
  | path => "Input is not a valid path"
  | rule text => "Value error, " ++ text
  | e => "Input is not valid (" ++ e.code ++ ")"

end Expectation

/-- A place in a value and what was expected there. -/
structure Issue where
  location : List Key
  expected : Expectation
  deriving DecidableEq, Repr

namespace Issue

/-- An issue seen from one step further out. -/
def under (k : Key) (i : Issue) : Issue :=
  { i with location := k :: i.location }

end Issue

end DiskPlan
