import DiskPlan.Content
import DiskPlan.Position
import DiskPlan.Suffix

/-!
# Operations

The six kinds of partitioning operations and the grammar of their tokens.

A token is a list of fields between colons. The first one names the device that
the operation is for, a disk or, for a logical volume, a volume group:

    relabel  disk:table
    delete   disk:number[:number...]
    move     disk:number:position|none:position|none
    reuse    disk:number:contents|reuse[:suffix][:suffix]
    create   disk:role:position:position:contents[:suffix][:suffix]
    logical  group:name:position:filesystem[:suffix][:suffix]

A token is read as a whole before any device is looked up. Names in a list of
flags that stand for no flag are told, which happens as soon as the suffix
fields have been read, so a token can have such names and still be refused for
something further on. A `Reading` holds both.

## Main definitions

* `Kind`: A kind of operation.
* `DiskAction`, `NewVolume`: What is to be done to a disk or in a group.
* `Operation`: A device and what is to be done to it.
* `Fields.split`: The fields of a token, if it has the right number of them.
* `Operation.read`: What a token of a kind says.
* `Operation.parse`: The operation that a token asks for.
-/

namespace DiskPlan

/-- A kind of operation, in the order in which the kinds are carried out. -/
inductive Kind where
  | relabel
  | delete
  | move
  | reuse
  | create
  | logical
  deriving DecidableEq, Repr

namespace Kind

/-- Every kind, in order. -/
def all : List Kind := [relabel, delete, move, reuse, create, logical]

/-- The name of a kind. -/
def name : Kind → String
  | relabel => "relabel"
  | delete => "delete"
  | move => "move"
  | reuse => "reuse"
  | create => "create"
  | logical => "logical"

/-- The kind with a name. -/
def ofName? : String → Option Kind := ofNameIn? name all

end Kind

/-- What is to be done to a disk. -/
inductive DiskAction where
  | relabel (table : TableKind)
  | delete (numbers : List Nat)
  | move (number : Nat) (first last : Option Position)
  | reuse (number : Nat) (content : Option Content) (suffix : Suffix)
  | create (role : Role) (first last : Position) (content : Content) (suffix : Suffix)
  deriving DecidableEq, Repr

/-- A logical volume that is asked for. -/
structure NewVolume where
  name : String
  size : Position
  filesystem : Filesystem
  mount : Option Path
  flags : Option (List Flag)
  deriving DecidableEq, Repr

/-- A device and what is to be done to it. -/
inductive Operation where
  | onDisk (disk : String) (action : DiskAction)
  | onGroup (group : String) (volume : NewVolume)
  deriving DecidableEq, Repr

namespace Fields

/-- What is wrong with a token that has too few or too many fields. -/
def wrongCount (kind : String) (minimum : Int) (maximum : Option Int) (found : Int) :
    SyntaxProblem :=
  if found < minimum then .tooFewFields kind minimum maximum found
  else .tooManyFields kind minimum maximum found

/-- Whether a number of fields is the right one. -/
def isRightCount (minimum : Int) (maximum : Option Int) (found : Int) : Bool :=
  decide (minimum ≤ found) && maximum.all fun m => found ≤ m

/-- The fields of a token, if it has the right number of them. -/
def split (kind : String) (minimum : Int) (maximum : Option Int) (token : String) :
    Except SyntaxProblem (List String) :=
  let fields := Text.fields ':' token
  if isRightCount minimum maximum fields.length then .ok fields
  else .error (wrongCount kind minimum maximum fields.length)

/-- A partition number. -/
def partitionNumber (field : String) : Except Failure Nat :=
  if Decimal.isNumeral field.toList then
    (Decimal.read field.toList).mapError .numeral
  else
    .error (.ofSyntax (.invalidPartitionId field))

/-- A kind of partition table. -/
def tableKind (field : String) : Except Failure TableKind :=
  match TableKind.ofName? field with
  | some table => .ok table
  | none => .error (.ofSyntax (.invalidTableKind field))

/-- The role of a partition. -/
def role (field : String) : Except Failure Role :=
  match Role.ofName? field with
  | some role => .ok role
  | none => .error (.ofSyntax (.invalidPartitionType field))

/-- A position, or none for the word `none`. -/
def optionalPosition (field : String) : Except Failure (Option Position) :=
  if field = "none" then .ok none else (Position.ofToken field).map some

/-- Contents. -/
def content (field : String) : Except Failure Content :=
  (Content.parse field).mapError .ofSyntax

/-- Contents, or none for the word `reuse`. -/
def optionalContent (field : String) : Except Failure (Option Content) :=
  if field = "reuse" then .ok none else (content field).map some

/-- The filesystem of a logical volume, which cannot be a physical volume
    again. -/
def volumeFilesystem (field : String) : Except Failure Filesystem :=
  match Content.parse field with
  | .error p => .error (.ofSyntax p)
  | .ok (.physicalVolume _) => .error (.ofSyntax (.unsupportedLogicalFilesystem field))
  | .ok (.plain fs) => .ok fs

/-- Suffix fields. -/
def suffixes (g : SuffixGrammar) (fields : List String) :
    Except Failure (List (SuffixKey × String)) :=
  (Suffix.parseFields g fields).mapError .ofSyntax

/-- What suffix fields say, which must not be a key without a mount point. -/
def mountedSuffix (fields : List (SuffixKey × String)) : Except Failure Suffix :=
  let suffix := Suffix.ofFields fields
  match suffix.requireMount with
  | .error p => .error (.ofSyntax p)
  | .ok () => .ok suffix

end Fields

/-- What a token says: the names that stand for no flag, and the operation. -/
structure Reading where
  ignoredFlags : List String
  operation : Except Failure Operation

namespace Reading

/-- A token in which no flags are named. -/
def flagless (operation : Except Failure Operation) : Reading := ⟨[], operation⟩

/-- A token with the wrong number of fields. -/
def wrongCount (kind : Kind) (minimum : Int) (maximum : Option Int) (fields : List String) :
    Reading :=
  flagless (.error (.ofSyntax (Fields.wrongCount kind.name minimum maximum fields.length)))

end Reading

namespace Operation

/-- What the fields of a token that relabels a disk say. -/
def readRelabel : List String → Reading
  | [disk, table] => .flagless do
    return .onDisk disk (.relabel (← Fields.tableKind table))
  | fields => .wrongCount .relabel 2 (some 2) fields

/-- What the fields of a token that deletes partitions say. -/
def readDelete : List String → Reading
  | disk :: numbers => .flagless do
    return .onDisk disk (.delete (← numbers.mapM Fields.partitionNumber))
  | fields => .wrongCount .delete 1 none fields

/-- What the fields of a token that moves a partition say. -/
def readMove : List String → Reading
  | [disk, number, first, last] => .flagless do
    let number ← Fields.partitionNumber number
    let first ← Fields.optionalPosition first
    let last ← Fields.optionalPosition last
    return .onDisk disk (.move number first last)
  | fields => .wrongCount .move 4 (some 4) fields

/-- What the fields of a token that reuses a partition say. -/
def readReuse : List String → Reading
  | fields@(disk :: number :: content :: suffixes) =>
    if 2 < suffixes.length then
      .wrongCount .reuse 3 (some 5) fields
    else
      match Fields.suffixes .any suffixes with
      | .error f => .flagless (.error f)
      | .ok found =>
        { ignoredFlags := Suffix.ignoredFlags found
          operation := do
            -- The suffix comes before the fields that stand in front of it.
            let suffix ← Fields.mountedSuffix found
            let number ← Fields.partitionNumber number
            let content ← Fields.optionalContent content
            return .onDisk disk (.reuse number content suffix) }
  | fields => .wrongCount .reuse 3 (some 5) fields

/-- The fields in front of the suffix of a token that creates a partition. -/
def createHead (role first last content : String) :
    Except Failure (Role × Position × Position × Content) := do
  let role ← Fields.role role
  let first ← Position.ofToken first
  let last ← Position.ofToken last
  let content ← Fields.content content
  return (role, first, last, content)

/-- What the fields of a token that creates a partition say. -/
def readCreate : List String → Reading
  | fields@(disk :: role :: first :: last :: content :: suffixes) =>
    if 2 < suffixes.length then
      .wrongCount .create 5 (some 7) fields
    else
      -- Here the suffix comes last, so a fault in front of it leaves the flags
      -- unread.
      match createHead role first last content with
      | .error f => .flagless (.error f)
      | .ok (role, first, last, content) =>
        match Fields.suffixes .any suffixes with
        | .error f => .flagless (.error f)
        | .ok found =>
          { ignoredFlags := Suffix.ignoredFlags found
            operation := do
              let suffix ← Fields.mountedSuffix found
              return .onDisk disk (.create role first last content suffix) }
  | fields => .wrongCount .create 5 (some 7) fields

/-- What the fields of a token that creates a logical volume say. -/
def readLogical : List String → Reading
  | fields@(group :: name :: size :: filesystem :: suffixes) =>
    if 2 < suffixes.length then
      .wrongCount .logical 4 (some 6) fields
    else
      match Fields.suffixes .volume suffixes with
      | .error f => .flagless (.error f)
      | .ok found =>
        { ignoredFlags := Suffix.ignoredFlags found
          operation := do
            -- No key can be given, so none has to be checked for a mount point.
            let suffix := Suffix.ofFields found
            let filesystem ← Fields.volumeFilesystem filesystem
            let size ← Position.ofToken size
            return .onGroup group ⟨name, size, filesystem, suffix.mount, suffix.flags⟩ }
  | fields => .wrongCount .logical 4 (some 6) fields

/-- What the fields of a token of a kind say. -/
def readFields : Kind → List String → Reading
  | .relabel => readRelabel
  | .delete => readDelete
  | .move => readMove
  | .reuse => readReuse
  | .create => readCreate
  | .logical => readLogical

/-- What a token of a kind says. -/
def read (kind : Kind) (token : String) : Reading :=
  readFields kind (Text.fields ':' token)

/-- The operation that a token asks for. A failure records the token. -/
def parse (kind : Kind) (token : String) : Except Failure Operation :=
  (read kind token).operation.mapError (Failure.within ⟨kind.name, token⟩)

end Operation

end DiskPlan
