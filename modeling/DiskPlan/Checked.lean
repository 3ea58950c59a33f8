import DiskPlan.Decimal.Whole
import DiskPlan.Failure
import DiskPlan.Json

/-!
# Checked Values

Reading a JSON value as a value of a given shape, with every fault told.

A reader of an object goes on after a fault in one field, so that the person who
wrote the file learns of all of them at once, in the order in which the fields
are declared. `Checked` is the answer of such a reader: a value, a list of
issues, or a failure that ends the reading on the spot and makes the issues
found so far meaningless. Two answers are joined by `<*>`, which collects the
issues of both.

The scalars are read with some leniency. A whole number may be written as text,
or with a fraction of zero, and a truth value as one of several words or as zero
or one. A bound is checked after that.

## Main definitions

* `Checked`: The answer of a reader.
* `Checked.field`, `Checked.fieldOr`: A field of an object.
* `Checked.items`: The items of a list.
* `Checked.integer`, `Checked.boolean`, `Checked.text`, `Checked.label`: Scalars.
-/

namespace DiskPlan

/-- The answer of a reader. -/
inductive Checked (α : Type) where
  | value (a : α)
  | issues (list : List Issue)
  | halted (f : Failure)

namespace Checked

variable {α β : Type}

/-- An answer with its value changed. -/
def map (f : α → β) : Checked α → Checked β
  | value a => value (f a)
  | issues list => issues list
  | halted e => halted e

/-- Two answers joined. The first failure ends the reading; short of one, the
    issues of both are told. -/
def seq (f : Checked (α → β)) (x : Checked α) : Checked β :=
  match f, x with
  | halted e, _ => halted e
  | _, halted e => halted e
  | issues list, issues list' => issues (list ++ list')
  | issues list, value _ => issues list
  | value _, issues list => issues list
  | value f, value a => value (f a)

instance : Functor Checked where
  map := map

instance : Pure Checked where
  pure := value

instance : Seq Checked where
  seq f x := seq f (x ())

/-- The answer of a reader one step further out. -/
def under (k : Key) : Checked α → Checked α
  | value a => value a
  | issues list => issues (list.map (Issue.under k))
  | halted e => halted e

/-- The answer that tells one issue, at the place of the value itself. -/
def expected (e : Expectation) : Checked α :=
  issues [⟨[], e⟩]

/-- A value that has to satisfy a condition. -/
def ensure (condition : α → Bool) (e : Expectation) : Checked α → Checked α
  | value a => if condition a then value a else expected e
  | issues list => issues list
  | halted f => halted f

/-- A value that is read further. -/
def refine (next : α → Checked β) : Checked α → Checked β
  | value a => next a
  | issues list => issues list
  | halted f => halted f

/-- An answer as the result of the whole reading. -/
def result : Checked α → Except Failure α
  | value a => .ok a
  | issues list => .error (.ofIssues list)
  | halted f => .error f

/-! ### Objects and lists -/

/-- The fields of an object. -/
def object : Json → Checked Json.Fields
  | .object fields => value fields
  | _ => expected .object

/-- A field that has to be there. -/
def field (name : String) (read : Json → Checked α) (fields : Json.Fields) : Checked α :=
  match Json.get? name fields with
  | some v => (read v).under (.field name)
  | none => (expected .present).under (.field name)

/-- A field with a value in its absence. -/
def fieldOr (name : String) (absent : α) (read : Json → Checked α) (fields : Json.Fields) :
    Checked α :=
  match Json.get? name fields with
  | some v => (read v).under (.field name)
  | none => value absent

/-- A value that may be null. -/
def optional (read : Json → Checked α) : Json → Checked (Option α)
  | .null => value none
  | v => (read v).map some

/-- The items of a list from an index on. -/
def itemsFrom (read : Json → Checked α) : Nat → List Json → Checked (List α)
  | _, [] => value []
  | i, v :: rest =>
    List.cons <$> (read v).under (.item i) <*> itemsFrom read (i + 1) rest

/-- The items of a list. -/
def items (read : Json → Checked α) : Json → Checked (List α)
  | .list vs => itemsFrom read 0 vs
  | _ => expected .list

/-! ### Scalars -/

/-- A whole number as text. -/
def integerText (s : String) : Checked Int :=
  match Decimal.readWhole s with
  | .ok n => value n
  | .error .malformed => expected .integerText
  | .error .tooLong => expected .shorterInteger

/-- The bound on the numbers in a machine word, which has 64 bits. -/
def wordBound : Int := Nat.pow 2 63

/-- Whether a whole number fits into a machine word. -/
def isWord (n : Int) : Bool :=
  -wordBound ≤ n && n < wordBound

/-- Whether a number with a fraction of zero surely fits into a machine word. The
    least word is left out, since a number just below it may be rounded to it. -/
def isRoundedWord (n : Int) : Bool :=
  -wordBound < n && n < wordBound

/-- A whole number. -/
def integer : Json → Checked Int
  | .int n => value n
  | .bool b => value (if b then 1 else 0)
  | .text s => integerText s
  | .label _ => expected .unicode
  | .real x =>
    match x.truncate? with
    | none => expected .finiteNumber
    | some n =>
      if !x.isIntegral then expected .wholeNumber
      else if isRoundedWord n then value n
      else expected .shorterInteger
  | _ => expected .integer

/-- The words for the two truth values. -/
def truthWords : List (String × Bool) :=
  [("0", false), ("off", false), ("f", false), ("false", false), ("n", false), ("no", false),
    ("1", true), ("on", true), ("t", true), ("true", true), ("y", true), ("yes", true)]

/-- A text with its ASCII letters in lower case. -/
def lowerAscii (s : String) : String :=
  s.map Char.toLower

/-- The truth value of zero or one. -/
def ofBit (n : Int) : Checked Bool :=
  if n = 0 then value false else if n = 1 then value true else expected .booleanText

/-- A truth value. -/
def boolean : Json → Checked Bool
  | .bool b => value b
  -- A number beyond a machine word is no bit that is merely wrong.
  | .int n => if isWord n then ofBit n else expected .boolean
  | .real x =>
    match x.truncate? with
    | some n => if x.isIntegral && isRoundedWord n then ofBit n else expected .boolean
    | none => expected .boolean
  | .text s =>
    match truthWords.find? fun w => w.1 == lowerAscii s with
    | some (_, b) => value b
    | none => expected .booleanText
  | .label _ => expected .unicode
  | _ => expected .boolean

/-- A text. -/
def text : Json → Checked String
  | .text s => value s
  | .label _ => expected .unicode
  | _ => expected .string

/-- A text that may hold lone halves of surrogate pairs. -/
def label : Json → Checked Label
  | .text s => value (.ofString s)
  | .label l => value l
  | _ => expected .string

/-- One of a list of names. -/
def oneOf (all : List String) : Json → Checked String
  | .text s => if all.contains s then value s else expected .choice
  | .label _ => expected .unicode
  | _ => expected .choice

/-- The value that a name stands for. -/
def named (ofName? : String → Option α) : Json → Checked α
  | .text s =>
    match ofName? s with
    | some a => value a
    | none => expected .member
  | .label _ => expected .unicode
  | _ => expected .member

end Checked

end DiskPlan
