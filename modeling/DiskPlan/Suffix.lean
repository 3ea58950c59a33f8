import DiskPlan.Flag
import DiskPlan.Path
import DiskPlan.Problem

/-!
# Suffix Fields

The `key=value` fields at the end of a token.

A field is cut at its first equals sign. The first field that does not follow
the grammar is the one told about, and of several fields with one key the last
counts, so the result depends on nothing but the last value of each key. An
empty mount point is no mount point, an empty list of flags is a list of flags.

## Main definitions

* `SuffixKey`: The key of a suffix field.
* `SuffixGrammar`: The keys that a token may use, and whether a value may be
  empty.
* `SuffixGrammar.field`: One field.
* `Suffix`: What the suffix fields of a token say.
* `Suffix.parse`: The suffix fields of a token.
* `Suffix.flagText`: A list of flags as the value of a field.
* `Suffix.requireMount`: A key needs a mount point.
-/

namespace DiskPlan

/-- The key of a suffix field. -/
inductive SuffixKey where
  | mount
  | flags
  | keyId
  deriving DecidableEq, Repr

namespace SuffixKey

/-- Every key. -/
def all : List SuffixKey := [mount, flags, keyId]

/-- The name of a key. -/
def name : SuffixKey → String
  | mount => "mount"
  | flags => "flags"
  | keyId => "keyid"

/-- The key with a name. -/
def ofName? : String → Option SuffixKey := ofNameIn? name all

end SuffixKey

/-- The keys that a token may use, and whether a value may be empty. -/
structure SuffixGrammar where
  keys : List SuffixKey
  allowsEmpty : Bool
  deriving DecidableEq, Repr

namespace SuffixGrammar

/-- The grammar that takes every key with any value. -/
def any : SuffixGrammar := ⟨SuffixKey.all, true⟩

/-- The grammar of a logical volume, which has no key and no empty values. -/
def volume : SuffixGrammar := ⟨[.mount, .flags], false⟩

/-- The key and the value of one field. -/
def field (g : SuffixGrammar) (s : String) : Except SyntaxProblem (SuffixKey × String) :=
  match (SuffixKey.ofName? (Text.cut '=' s).1).filter g.keys.contains, (Text.cut '=' s).2 with
  | some key, some value =>
    if value = "" && !g.allowsEmpty then .error (.emptyValue key.name) else .ok (key, value)
  | _, _ => .error (.invalidArgument s)

end SuffixGrammar

/-- What the suffix fields of a token say. -/
structure Suffix where
  mount : Option Path
  flags : Option (List Flag)
  keyId : Option String
  deriving DecidableEq, Repr

namespace Suffix

/-- The last value of a key. -/
def lastValue? (key : SuffixKey) (fields : List (SuffixKey × String)) : Option String :=
  (fields.findRev? fun f => f.1 == key).map Prod.snd

/-- What a list of fields says. -/
def ofFields (fields : List (SuffixKey × String)) : Suffix where
  mount := ((lastValue? .mount fields).filter (· != "")).map Path.parse
  flags := (lastValue? .flags fields).map Flag.parse
  keyId := lastValue? .keyId fields

/-- The names in the list of flags that stand for no flag. -/
def ignoredFlags (fields : List (SuffixKey × String)) : List String :=
  ((lastValue? .flags fields).map Flag.ignored).getD []

/-- The fields of a list of texts, in their order. -/
def parseFields (g : SuffixGrammar) (values : List String) :
    Except SyntaxProblem (List (SuffixKey × String)) :=
  values.mapM g.field

/-- The suffix fields of a token. -/
def parse (g : SuffixGrammar) (values : List String) : Except SyntaxProblem Suffix :=
  (parseFields g values).map ofFields

/-- The names of flags, separated by commas, as the value of a field gives them. -/
def flagText (flags : List Flag) : String :=
  ",".intercalate (flags.map Flag.name)

/-- A key is of use only with a mount point. -/
def requireMount (s : Suffix) : Except SyntaxProblem Unit :=
  match s.keyId, s.mount with
  | some key, none => .error (.mountRequiredWithKey key)
  | _, _ => .ok ()

end Suffix

end DiskPlan
