import DiskPlan.Decimal

/-!
# Problems

What can be wrong with a plan, told to the person who asked for it.

A problem is a cause, and its message is a function of the cause. Problems come
in four families. A token can break the grammar, a name can be unknown, the
model can reject a change, and the system can be one that is not supported. Each
family has room for a problem with a wording of its own.

Problems of the first two families are about a token. When one arises while a
token is being worked on, the token is recorded with it, and a record once made
is kept: the innermost token is the one that is told. Problems of the model stay
without, since they are about the devices.

## Main definitions

* `SyntaxProblem`, `LookupProblem`, `DiskProblem`: The families of causes.
* `Problem`: A cause of any family.
* `Problem.message`: What is told about a cause.
* `Problem.numbers`: The numbers that the message spells out.
* `Report`: A problem with the token it arose from.
* `Report.within`: A problem that arises while a token is worked on.
-/

namespace DiskPlan

/-- A token that does not follow the grammar. -/
inductive SyntaxProblem where
  | tooFewFields (kind : String) (minimum : Int) (maximum : Option Int) (found : Int)
  | tooManyFields (kind : String) (minimum : Int) (maximum : Option Int) (found : Int)
  | invalidArgument (field : String)
  | mountRequiredWithKey (keyId : String)
  | emptyValue (key : String)
  | invalidSector (token : String)
  | invalidFilesystem (token : String)
  | invalidPartitionType (token : String)
  | invalidTableKind (token : String)
  | invalidPartitionId (token : String)
  | unsupportedLogicalFilesystem (token : String)
  | missingPhysicalVolume (token : String)
  | missingVolumeGroup (token : String)
  | emptyCredential (key : String)
  | invalidField (field : String)
  | other (message : String)
  deriving DecidableEq, Repr

/-- A name that stands for nothing. -/
inductive LookupProblem where
  | diskNotFound (name : String)
  | partitionNotFound (disk : String) (number : Int)
  | volumeGroupNotFound (group : String)
  | other (message : String)
  deriving DecidableEq, Repr

/-- A change that the model rejects. -/
inductive DiskProblem where
  | missingPartitionTable (device : String)
  | invalidGeometry (first last : Int)
  | partitionOutOfBounds (device : String) (first last sectors : Int)
  | sectorOverlaps (device : String) (number : Int)
  | primaryPartitionsExceeded (device : String)
  | logicalPartitionOnGpt (device : String)
  | duplicateLogicalVolume (group name : String)
  | other (message : String)
  deriving DecidableEq, Repr

/-- A problem of any family. -/
inductive Problem where
  | badSyntax (p : SyntaxProblem)
  | lookup (p : LookupProblem)
  | disk (p : DiskProblem)
  | unsupportedPlatform (system : String)
  | other (message : String)
  deriving DecidableEq, Repr

/-- The count of fields that a kind of token takes. -/
def fieldRange (minimum : Int) : Option Int → String
  | none => "at least " ++ Decimal.text minimum
  | some maximum =>
    if minimum = maximum then Decimal.text minimum
    else Decimal.text minimum ++ " to " ++ Decimal.text maximum

namespace SyntaxProblem

/-- The name of a kind of problem. -/
def name : SyntaxProblem → String
  | tooFewFields .. => "TooFewFields"
  | tooManyFields .. => "TooManyFields"
  | invalidArgument _ => "InvalidArgument"
  | mountRequiredWithKey _ => "MountRequiredWithKey"
  | emptyValue _ => "EmptyValue"
  | invalidSector _ => "InvalidSector"
  | invalidFilesystem _ => "InvalidFilesystem"
  | invalidPartitionType _ => "InvalidPartitionType"
  | invalidTableKind _ => "InvalidTableKind"
  | invalidPartitionId _ => "InvalidPartitionId"
  | unsupportedLogicalFilesystem _ => "UnsupportedLogicalFilesystem"
  | missingPhysicalVolume _ => "MissingPhysicalVolume"
  | missingVolumeGroup _ => "MissingVolumeGroup"
  | emptyCredential _ => "EmptyCredential"
  | invalidField _ => "InvalidField"
  | other _ => "SpecSyntaxError"

/-- What is told about a token that does not follow the grammar. -/
def message : SyntaxProblem → String
  | tooFewFields kind minimum maximum found =>
    "too few fields for " ++ kind ++ " (expected " ++ fieldRange minimum maximum ++ ", found "
      ++ Decimal.text found ++ ")"
  | tooManyFields kind minimum maximum found =>
    "too many fields for " ++ kind ++ " (expected " ++ fieldRange minimum maximum ++ ", found "
      ++ Decimal.text found ++ ")"
  | invalidArgument field => "invalid argument supplied: " ++ field
  | mountRequiredWithKey keyId => "mount path must be specified with key '" ++ keyId ++ "'"
  | emptyValue key => key ++ " value is empty"
  | invalidSector token => "provided sector unit, '" ++ token ++ "', was invalid"
  | invalidFilesystem token => "provided file system, '" ++ token ++ "', was invalid"
  | invalidPartitionType token =>
    "partition type '" ++ token ++ "' must be either 'primary' or 'logical'"
  | invalidTableKind token =>
    "'" ++ token ++ "' is not valid. Value must be either 'gpt' or 'msdos'"
  | invalidPartitionId token => "partition value '" ++ token ++ "' must be a number"
  | unsupportedLogicalFilesystem token =>
    "'" ++ token ++ "': LUKS and LVM on a logical volume are unsupported"
  | missingPhysicalVolume token =>
    "no physical volume was defined in file system field '" ++ token ++ "'"
  | missingVolumeGroup token =>
    "no volume group was defined in file system field '" ++ token ++ "'"
  | emptyCredential key => "provided " ++ key ++ " is empty"
  | invalidField field => "invalid fs field '" ++ field ++ "'"
  | other message => message

/-- The numbers that the message spells out. -/
def numbers : SyntaxProblem → List Int
  | tooFewFields _ minimum maximum found => minimum :: found :: maximum.toList
  | tooManyFields _ minimum maximum found => minimum :: found :: maximum.toList
  | _ => []

end SyntaxProblem

namespace LookupProblem

/-- The name of a kind of problem. -/
def name : LookupProblem → String
  | diskNotFound _ => "DiskNotFound"
  | partitionNotFound .. => "PartitionNotFound"
  | volumeGroupNotFound _ => "VolumeGroupNotFound"
  | other _ => "LookupFailure"

/-- What is told about a name that stands for nothing. -/
def message : LookupProblem → String
  | diskNotFound name => "disk '" ++ name ++ "' could not be found"
  | partitionNotFound disk number =>
    "partition '" ++ Decimal.text number ++ "' was not found on '" ++ disk ++ "'"
  | volumeGroupNotFound group =>
    "could not find volume group associated with '" ++ group ++ "'"
  | other message => message

/-- The numbers that the message spells out. -/
def numbers : LookupProblem → List Int
  | partitionNotFound _ number => [number]
  | _ => []

end LookupProblem

namespace DiskProblem

/-- The name of a kind of problem. -/
def name : DiskProblem → String
  | missingPartitionTable _ => "MissingPartitionTable"
  | invalidGeometry .. => "InvalidGeometry"
  | partitionOutOfBounds .. => "PartitionOutOfBounds"
  | sectorOverlaps .. => "SectorOverlaps"
  | primaryPartitionsExceeded _ => "PrimaryPartitionsExceeded"
  | logicalPartitionOnGpt _ => "LogicalPartitionOnGpt"
  | duplicateLogicalVolume .. => "DuplicateLogicalVolume"
  | other _ => "DiskError"

/-- What is told about a change that the model rejects. -/
def message : DiskProblem → String
  | missingPartitionTable device => device ++ " has no partition table"
  | invalidGeometry first last =>
    "partition start sector " ++ Decimal.text first ++ " is not before end sector "
      ++ Decimal.text last
  | partitionOutOfBounds device first last sectors =>
    "partition " ++ Decimal.text first ++ ".." ++ Decimal.text last ++ " exceeds the "
      ++ Decimal.text sectors ++ " sectors of " ++ device
  | sectorOverlaps device number =>
    "partition overlaps partition " ++ Decimal.text number ++ " on " ++ device
  | primaryPartitionsExceeded device =>
    device ++ " already has the maximum of four primary partitions"
  | logicalPartitionOnGpt device =>
    "logical partitions are not supported on the GPT table of " ++ device
  | duplicateLogicalVolume group name =>
    "logical volume '" ++ name ++ "' already exists in '" ++ group ++ "'"
  | other message => message

/-- The numbers that the message spells out. -/
def numbers : DiskProblem → List Int
  | invalidGeometry first last => [first, last]
  | partitionOutOfBounds _ first last sectors => [first, last, sectors]
  | sectorOverlaps _ number => [number]
  | _ => []

end DiskProblem

namespace Problem

/-- The name of a kind of problem. -/
def name : Problem → String
  | badSyntax p => p.name
  | lookup p => p.name
  | disk p => p.name
  | unsupportedPlatform _ => "UnsupportedPlatform"
  | other _ => "DiskSpecError"

/-- The name of a kind of problem followed by those of the families it is in. -/
def family (p : Problem) : List String :=
  let names := match p with
    | badSyntax q => [q.name, "SpecSyntaxError", "DiskSpecError"]
    | lookup q => [q.name, "LookupFailure", "DiskSpecError"]
    | disk q => [q.name, "DiskError", "DiskSpecError"]
    | unsupportedPlatform _ => [p.name, "DiskSpecError"]
    | other _ => ["DiskSpecError"]
  names.eraseDups

/-- What is told about a problem. -/
def message : Problem → String
  | badSyntax p => p.message
  | lookup p => p.message
  | disk p => p.message
  | unsupportedPlatform system =>
    "unsupported platform '" ++ system ++ "': pass --layout to plan against a layout file"
  | other message => message

/-- The numbers that the message spells out. -/
def numbers : Problem → List Int
  | badSyntax p => p.numbers
  | lookup p => p.numbers
  | disk p => p.numbers
  | _ => []

/-- Whether a problem is about a token rather than about the devices. -/
def isAboutToken : Problem → Bool
  | badSyntax _ | lookup _ => true
  | _ => false

end Problem

/-- The token that a problem arose from, and the kind of operation it asks for. -/
structure Origin where
  kind : String
  token : String
  deriving DecidableEq, Repr

/-- A problem with the token it arose from, if that is known. -/
structure Report where
  problem : Problem
  origin : Option Origin
  deriving DecidableEq, Repr

namespace Report

/-- What is told about a problem, with the token in front. -/
def message (r : Report) : String :=
  match r.origin with
  | none => r.problem.message
  | some o => o.kind ++ " '" ++ o.token ++ "': " ++ r.problem.message

/-- A report with a token recorded, unless one is recorded already. -/
def attach (o : Origin) (r : Report) : Report :=
  match r.origin with
  | none => { r with origin := some o }
  | some _ => r

/-- A report that arises while a token is worked on. -/
def within (o : Origin) (r : Report) : Report :=
  if r.problem.isAboutToken then r.attach o else r

end Report

end DiskPlan
