import DiskPlan.Partition
import DiskPlan.Problem
import DiskPlan.Text

/-!
# Contents of a Partition

What a token asks a partition to hold.

A partition either gets a filesystem, named plainly, or becomes a physical
volume. A physical volume is asked for with `lvm=` and the name of its group, or
with `enc=` if it is to be opened under a name of its own first. After `enc=`
stand that name, the group and any number of credentials, separated by commas.
Of two credentials of one sort the last counts, and without any the volume is
not encrypted at all: a name alone opens nothing.

## Main definitions

* `Content`: What a partition is to hold.
* `namedFilesystem`: The filesystem that a token names.
* `Credentials`: What opens an encrypted volume.
* `Content.parse`: The contents that a token asks for.

## Theorems

* `namedFilesystem_eq_ok_iff`: Exactly the names of selectable filesystems are
  read.
-/

namespace DiskPlan

/-- What a partition is to hold: a filesystem, or a share of a volume group. -/
inductive Content where
  | plain (filesystem : Filesystem)
  | physicalVolume (membership : Membership)
  deriving DecidableEq, Repr

/-- The filesystem that a token names. -/
def namedFilesystem (token : String) : Except SyntaxProblem Filesystem :=
  match (Filesystem.ofName? token).filter Filesystem.isSelectable with
  | some fs => .ok fs
  | none => .error (.invalidFilesystem token)

/-- What opens an encrypted volume. -/
structure Credentials where
  passphrase : Option String
  keyFile : Option String
  deriving DecidableEq, Repr

namespace Credentials

/-- No credentials. -/
def none : Credentials := ⟨.none, .none⟩

/-- Credentials with the one that a field holds. -/
def add (c : Credentials) (field : String) : Except SyntaxProblem Credentials :=
  match Text.after? "pass=" field with
  | some passphrase =>
    if passphrase = "" then .error (.emptyCredential "password")
    else .ok { c with passphrase := some passphrase }
  | .none =>
    match Text.after? "keyfile=" field with
    | some keyFile =>
      if keyFile = "" then .error (.emptyCredential "keyfile")
      else .ok { c with keyFile := some keyFile }
    | .none => .error (.invalidField field)

/-- The credentials that a list of fields holds. -/
def parse (fields : List String) : Except SyntaxProblem Credentials :=
  fields.foldlM add none

/-- The encryption of a volume that is opened under a name with credentials, none
    without credentials. -/
def encryption? (c : Credentials) (physicalVolume : String) : Option Encryption :=
  if c.passphrase.isNone && c.keyFile.isNone then .none
  else some ⟨physicalVolume, c.passphrase, c.keyFile⟩

end Credentials

namespace Content

/-- The contents asked for by the fields after `enc=` of a token. -/
def ofEncryptedFields (token : String) : List String → Except SyntaxProblem Content
  | device :: rest =>
    if device = "" then
      .error (.missingPhysicalVolume token)
    else
      match rest with
      | [] => .error (.missingVolumeGroup token)
      | group :: fields =>
        if group = "" then
          .error (.missingVolumeGroup token)
        else
          (Credentials.parse fields).map fun c =>
            .physicalVolume ⟨group, c.encryption? device⟩
  | [] => .error (.missingPhysicalVolume token)

/-- The contents that a token asks for. -/
def parse (token : String) : Except SyntaxProblem Content :=
  match Text.after? "enc=" token with
  | some rest => ofEncryptedFields token (Text.fields ',' rest)
  | none =>
    match Text.after? "lvm=" token with
    | some rest =>
      -- What follows a comma is ignored, since there is nothing to open.
      let group := (Text.cut ',' rest).1
      if group = "" then .error (.missingVolumeGroup token)
      else .ok (.physicalVolume ⟨group, none⟩)
    | none => (namedFilesystem token).map .plain

/-- The filesystem that a partition with these contents is formatted as. -/
def target : Content → Filesystem
  | plain fs => fs
  | physicalVolume _ => .lvm

/-- The membership that these contents ask for. -/
def membership? : Content → Option Membership
  | plain _ => none
  | physicalVolume m => some m

end Content

theorem namedFilesystem_eq_ok_iff {token : String} {fs : Filesystem} :
    namedFilesystem token = .ok fs ↔ fs.isSelectable = true ∧ fs.name = token := by
  unfold namedFilesystem
  constructor
  · intro h
    split at h
    · rename_i found hf
      obtain ⟨ho, hs⟩ := Option.filter_eq_some_iff.mp hf
      obtain rfl : found = fs := by simpa using h
      refine ⟨hs, ?_⟩
      simpa using List.find?_some ho
    · simp at h
  · rintro ⟨hs, rfl⟩
    simp [Filesystem.ofName?_name, Option.filter, hs]

end DiskPlan
