import DiskPlan.Install.Step
import DiskPlan.Issue
import DiskPlan.Json.Reader
import DiskPlan.Problem

/-!
# Failures

Every way in which work ends without its result.

Most failures are problems that a person is told about. The others are faults
that nothing in the program answers for: a number too long to be written, a
division by a sector size of zero, a file that is not JSON or is nested too deep,
a file of the wrong shape, and a value of a kind that its reader cannot use. They
are kept apart from the problems because they end a command in a different way.

A log tells a failure by the name of its kind and by its words. Those of a fault are
the ones of the language and the libraries that the program is written with, to the
letter. What they need besides the kind of the fault, such as the type of a value, is
carried along with it, as data that need not be given where only the kind matters.

A problem whose message would spell out a number beyond the limit on numerals
cannot be told, so `ofProblem` turns it into a failure to write the number.

## Main definitions

* `Misfit`: A value of a kind that its reader cannot use.
* `Misfit.name`, `Misfit.message`: A misfit as a log tells it.
* `Failure`: A way to end without a result.
* `Failure.ofProblem`: A problem as a failure.
* `Failure.within`: A failure that arises while a token is worked on.
* `Failure.name`, `Failure.message?`: A failure as a log tells it.

## Theorems

* `message?_ofProblem`: Something is told about every problem.
* `ofProblem_of_numbers_eq_nil`: A problem without numbers can always be told.
-/

namespace DiskPlan

/-- What a value can be wanted for. -/
inductive Use where
  | items
  | item
  | path
  deriving DecidableEq, Repr

/-- What a system says of a path that it does not take: the name of the kind of error, and
    its words. -/
structure Refusal where
  name : String
  message : String
  deriving DecidableEq, Repr

/-- No path holds a null character. -/
def Refusal.nullCharacter : Refusal := ⟨"ValueError", "embedded null byte"⟩

/-- A value of a kind that its reader cannot use: one without a method that is called, one
    that holds no other values, an object that is asked for an item by its place, a number
    that is too large, a user without a home, a path that the system does not take, a text
    with lone halves of surrogate pairs, and a field of a name that is taken already. -/
inductive Misfit where
  | unusable {type method : String}
  | notIterable {type : String} {use : Use}
  | noFirstItem
  | outOfRange {isWhole : Bool}
  | unknownHome
  | impossiblePath {refusal : Refusal}
  | brokenText {half first last : Nat}
  | takenName {function parameter : String}
  | repeatedName {name : String}
  deriving DecidableEq, Repr

namespace Misfit

/-- A value whose type lacks a method. -/
def lacks (v : Json) (method : String) : Misfit := @unusable v.typeName method

/-- A value whose type is not fit for a use. -/
def unfit (v : Json) (use : Use) : Misfit := @notIterable v.typeName use

/-- An infinite number where a whole one is wanted. -/
def infinite : Misfit := @outOfRange false

/-- A whole number that is beyond the range of a double. -/
def beyondDouble : Misfit := @outOfRange true

/-- A path that the system does not take. -/
def refused (r : Refusal) : Misfit := @impossiblePath r

/-- A label that cannot be handed to the system. The first half that stands for no byte is
    told of, together with the halves that follow it at once. -/
def unencodable (l : Label) : Misfit :=
  let before := l.glyphs.takeWhile Glyph.isEncodable
  let halves := (l.glyphs.drop before.length).takeWhile fun g => g.char?.isNone
  let half := match halves.head? with
    | some (.half unit) => unit
    | _ => 0
  @brokenText half before.length (before.length + halves.length - 1)

/-- A parameter that a function is given twice. -/
def givenTwice (function parameter : String) : Misfit := @takenName function parameter

/-- A name that is added twice to the fields of an event. -/
def addedTwice (name : String) : Misfit := @repeatedName name

/-- The name of the kind of a misfit. -/
def name : Misfit → String
  | unusable => "AttributeError"
  | notIterable | takenName => "TypeError"
  | noFirstItem | repeatedName => "KeyError"
  | outOfRange => "OverflowError"
  | unknownHome => "RuntimeError"
  | @impossiblePath refusal => refusal.name
  | brokenText => "UnicodeEncodeError"

/-- What is told about a value of a type that is not fit for a use. -/
def useMessage (type : String) : Use → String
  | .items => "'" ++ type ++ "' object is not iterable"
  | .item => "'" ++ type ++ "' object is not subscriptable"
  | .path => "expected str, bytes or os.PathLike object, not " ++ type

/-- The characters of a text that cannot be written as bytes. -/
def brokenPlace (half first last : Nat) : String :=
  if first = last then
    "character '\\u" ++ String.ofList (Text.hexadecimal 4 half) ++ "' in position " ++ first.repr
  else
    "characters in position " ++ first.repr ++ "-" ++ last.repr

/-- What is told about a misfit. -/
def message : Misfit → String
  | @unusable type method => "'" ++ type ++ "' object has no attribute '" ++ method ++ "'"
  | @notIterable type use => useMessage type use
  | noFirstItem => "0"
  | @outOfRange isWhole =>
    if isWhole then "int too large to convert to float"
    else "cannot convert float infinity to integer"
  | unknownHome => "Could not determine home directory."
  | @impossiblePath refusal => refusal.message
  | @brokenText half first last =>
    "'utf-8' codec can't encode " ++ brokenPlace half first last ++ ": surrogates not allowed"
  | @takenName function parameter =>
    function ++ "() got multiple values for " ++ parameter
  | @repeatedName name => Text.inQuotes name

end Misfit

/-- A way to end without a result. -/
inductive Failure where
  | problem (r : Report)
  | install (p : StepProblem)
  | numeral (limit : Decimal.DigitLimit)
  | zeroDivisor
  | malformed {report : String}
  | tooDeep {isObject : Bool}
  | invalid (issues : List Issue) {report : Option String}
  | misfit (m : Misfit)
  deriving DecidableEq, Repr

namespace Failure

/-- A problem as a failure. -/
def ofProblem (p : Problem) : Failure :=
  if p.numbers.all Decimal.isWritable then problem ⟨p, none⟩ else numeral .writing

/-- A token that does not follow the grammar as a failure. -/
def ofSyntax (p : SyntaxProblem) : Failure := ofProblem (.badSyntax p)

/-- A name that stands for nothing as a failure. -/
def ofLookup (p : LookupProblem) : Failure := ofProblem (.lookup p)

/-- A change that the model rejects as a failure. -/
def ofDisk (p : DiskProblem) : Failure := ofProblem (.disk p)

/-- A value with issues as a failure. The library that checks the shape of values words a
    report on all of them, which nothing that reads a file asks for. -/
def ofIssues (issues : List Issue) : Failure := @invalid issues none

/-- A text that is not read as JSON as a failure. -/
def ofFault (s : String) : Json.Fault → Failure
  | .malformed flaw left => @malformed (flaw.report s left)
  | .numeral limit => numeral limit
  | .tooDeep isObject => @tooDeep isObject

/-- A failure that arises while a token is worked on. -/
def within (o : Origin) : Failure → Failure
  | problem r => problem (r.within o)
  | f => f

/-- The name of a kind of failure. -/
def name : Failure → String
  | problem r => r.problem.name
  | install p => p.name
  | numeral _ => "ValueError"
  | zeroDivisor => "ZeroDivisionError"
  | malformed => "JSONDecodeError"
  | tooDeep => "RecursionError"
  | invalid _ => "ValidationError"
  | misfit m => m.name

/-- What is told about a number beyond the limit on numerals. -/
def limitMessage : Decimal.DigitLimit → String
  | .reading digits =>
    "Exceeds the limit (" ++ Decimal.digitLimit.repr
      ++ " digits) for integer string conversion: value has " ++ digits.repr
      ++ " digits; use sys.set_int_max_str_digits() to increase the limit"
  | .writing =>
    "Exceeds the limit (" ++ Decimal.digitLimit.repr
      ++ " digits) for integer string conversion; use sys.set_int_max_str_digits() to increase"
      ++ " the limit"

/-- What is told about a failure, if the report on a file of the wrong shape is known. -/
def message? : Failure → Option String
  | problem r => some r.message
  | install p => some p.message
  | numeral limit => some (limitMessage limit)
  | zeroDivisor => some "integer division or modulo by zero"
  | @malformed report => some report
  | @tooDeep isObject =>
    some ("maximum recursion depth exceeded while decoding a JSON "
      ++ (if isObject then "object" else "array") ++ " from a unicode string")
  | @invalid _ report => report
  | misfit m => some m.message

/-- The token that a failure arose from, if it is recorded. -/
def origin? : Failure → Option Origin
  | problem r => r.origin
  | _ => none

theorem message?_ofProblem (p : Problem) : (ofProblem p).message?.isSome = true := by
  unfold ofProblem
  split <;> rfl

theorem ofProblem_of_numbers_eq_nil {p : Problem} (h : p.numbers = []) :
    ofProblem p = problem ⟨p, none⟩ := by
  simp [ofProblem, h]

end Failure

end DiskPlan
