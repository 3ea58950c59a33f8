import DiskPlan.Operation
import DiskPlan.Text.Quoted

/-!
# Operations in Words

An operation as the log tells it.

A value is told by the name of its type and the values of its fields, each behind
its name and an equals sign, down to texts in quotes and whole numbers. One of
several fixed values is told by its type, by its own name in capitals and by what it
stands for.

A field can be left out. A log is read by people who must not learn the passphrase
of an encrypted volume, so this one field is there and is not shown. Whatever it
holds makes no difference to what is told.

The flags of a partition are a set. A set is told in the order of declaration, as
there is no order of its own.

## Main definitions

* `Described`: A field of a value in words.
* `describeFields`: A value in words, by its fields.
* `Content.describe`, `Suffix.describe`, `Position.describe`: Parts of an operation in
  words.
* `Operation.describe`: An operation in words.

## Theorems

* `describeFields_hidden`: What is not shown makes no difference.
-/

namespace DiskPlan

/-- A field of a value in words: its name, what it holds, and whether it is shown. -/
structure Described where
  name : String
  words : String
  isShown : Bool

namespace Described

/-- A field that is shown. -/
def shown (name words : String) : Described := ⟨name, words, true⟩

/-- A field that is left out. -/
def hidden (name words : String) : Described := ⟨name, words, false⟩

/-- A field as it is shown. -/
def text (f : Described) : String :=
  f.name ++ "=" ++ f.words

end Described

/-- A value in words: the name of its type, and its fields that are shown. -/
def describeFields (type : String) (fields : List Described) : String :=
  type ++ "(" ++ ", ".intercalate ((fields.filter Described.isShown).map Described.text) ++ ")"

/-- A value in words, where there may be none. -/
def describeOptional {α : Type} (describe : α → String) (a? : Option α) : String :=
  (a?.map describe).getD "None"

/-- One of the fixed values of a type in words. -/
def describeMember (type name value : String) : String :=
  "<" ++ type ++ "." ++ name ++ ": " ++ value ++ ">"

/-- One of the fixed values of a type in words, if it stands for a word and is called by it. -/
def describeNamed (type name : String) : String :=
  describeMember type (String.ofList (name.toList.map Char.toUpper)) (Text.inQuotes name)

/-- A tuple in words. A comma stands behind a single item. -/
def describeTuple : List String → String
  | [item] => "(" ++ item ++ ",)"
  | items => "(" ++ ", ".intercalate items ++ ")"

/-- A set in words. -/
def describeSet : List String → String
  | [] => "frozenset()"
  | items => "frozenset(\x7b" ++ ", ".intercalate items ++ "\x7d)"

/-- What is not shown makes no difference. -/
theorem describeFields_hidden (type name words : String) (before after : List Described) :
    describeFields type (before ++ .hidden name words :: after) =
      describeFields type (before ++ after) := by
  have hfilter : (Described.hidden name words :: after).filter Described.isShown =
      after.filter Described.isShown := List.filter_cons_of_neg Bool.false_ne_true
  unfold describeFields
  rw [List.filter_append, hfilter, ← List.filter_append]

/-! ### Parts of an operation -/

/-- A partition table in words. -/
def TableKind.describe (table : TableKind) : String :=
  describeNamed "PartitionTable" table.name

/-- The role of a partition in words. -/
def Role.describe (role : Role) : String :=
  describeNamed "PartitionType" role.name

/-- A filesystem in words. -/
def Filesystem.describe (fs : Filesystem) : String :=
  describeNamed "FileSystemType" fs.name

/-- A flag in words. -/
def Flag.describe (flag : Flag) : String :=
  describeNamed "PartitionFlag" flag.name

/-- A path in words. -/
def Path.describe (path : Path) : String :=
  "PosixPath(" ++ Text.inQuotes path.text ++ ")"

/-- A position in words. The kinds of positions are numbered, and an edge holds zero. -/
def Position.describe : Position → String
  | start => ofKind "START" 1 0
  | finish => ofKind "END" 2 0
  | sector n => ofKind "UNIT" 3 n
  | sectorFromEnd n => ofKind "UNIT_FROM_END" 4 n
  | megabyte n => ofKind "MEGABYTE" 5 n
  | megabyteFromEnd n => ofKind "MEGABYTE_FROM_END" 6 n
  | percent n => ofKind "PERCENT" 7 n
where
  /-- A position of a kind with a value. -/
  ofKind (name : String) (number n : Nat) : String :=
    describeFields "Sector" [.shown "kind" (describeMember "SectorKind" name number.repr),
      .shown "value" n.repr]

/-- The encryption of a physical volume in words, with its passphrase left out. -/
def Encryption.describe (e : Encryption) : String :=
  describeFields "LvmEncryption" [
    .shown "physical_volume" (Text.inQuotes e.physicalVolume),
    .hidden "password" (describeOptional Text.inQuotes e.passphrase),
    .shown "keydata" (describeOptional Text.inQuotes e.keyFile)]

/-- Contents in words. -/
def Content.describe : Content → String
  | plain fs => describeFields "PlainFs" [.shown "filesystem" fs.describe]
  | physicalVolume m =>
    describeFields "LvmFs" [
      .shown "volume_group" (Text.inQuotes m.group),
      .shown "encryption" (describeOptional Encryption.describe m.encryption)]

/-- Suffix fields in words. -/
def Suffix.describe (s : Suffix) : String :=
  describeFields "SuffixFields" [
    .shown "mount" (describeOptional Path.describe s.mount),
    .shown "flags" (describeOptional (fun flags => describeSet (flags.map Flag.describe)) s.flags),
    .shown "key_id" (describeOptional Text.inQuotes s.keyId)]

/-! ### Operations -/

/-- What is to be done to a disk in words: the name of the operation, and its fields behind
    the disk. -/
def DiskAction.describe : DiskAction → String × List Described
  | relabel table => ("RelabelOperation", [.shown "table" table.describe])
  | delete numbers =>
    ("DeleteOperation", [.shown "partitions" (describeTuple (numbers.map Nat.repr))])
  | move number first last =>
    ("MoveOperation", [
      .shown "partition" number.repr,
      .shown "start" (describeOptional Position.describe first),
      .shown "end" (describeOptional Position.describe last)])
  | reuse number content suffix =>
    ("ReuseOperation", [
      .shown "partition" number.repr,
      .shown "filesystem" (describeOptional Content.describe content),
      .shown "suffix" suffix.describe])
  | create role first last content suffix =>
    ("CreateOperation", [
      .shown "part_type" role.describe,
      .shown "start" first.describe,
      .shown "end" last.describe,
      .shown "filesystem" content.describe,
      .shown "suffix" suffix.describe])

/-- An operation in words. -/
def Operation.describe : Operation → String
  | onDisk disk action =>
    describeFields action.describe.1 (.shown "disk" (Text.inQuotes disk) :: action.describe.2)
  | onGroup group v =>
    describeFields "LogicalOperation" [
      .shown "group" (Text.inQuotes group),
      .shown "name" (Text.inQuotes v.name),
      .shown "size" v.size.describe,
      .shown "filesystem" v.filesystem.describe,
      .shown "mount" (describeOptional Path.describe v.mount),
      .shown "flags"
        (describeOptional (fun flags => describeTuple (flags.map Flag.describe)) v.flags)]

end DiskPlan
