import DiskPlan.Operation.Effect
import DiskPlan.Proofs.Outcome

/-!
# Refusals

What a token can fail with, before and after it is read.

A token that cannot be read is refused for its syntax or for a number that is too
long, and for nothing else, since no device has been looked up by then. What can go
wrong later is up to the device. Neither kind of failure knows the token that it
arose from: it is recorded once, when the work for the token is over, and only with
problems of syntax and of look-up. So the token of a failure is the one that the
failure arose from.

## Main definitions

* `Failure.IsOfReading`: A failure to read a token.
* `Failure.IsBare`: A failure with words, with which no token is recorded.

## Theorems

* `failsWith_read`: What a token that cannot be read is refused for.
* `failsWith_run`: No token is recorded while an operation is carried out.
* `Failure.origin?_within`: The token that is recorded in the end.
* `applyToken_answer_of_error`, `applyToken_answer_eq`: The failure of a token.
* `read_of_applyToken`: A token that is carried out can be read.
-/

namespace DiskPlan

namespace Failure

/-- A failure to read a token: a fault of syntax that can be told, or a number that is too long.
    A fault whose numbers cannot be written becomes a failure of the second kind. -/
inductive IsOfReading : Failure → Prop
  | badSyntax (p : SyntaxProblem) (hnumbers : ∀ n ∈ p.numbers, Decimal.isWritable n = true) :
      IsOfReading (.problem ⟨.badSyntax p, none⟩)
  | numeral (limit : Decimal.DigitLimit) : IsOfReading (.numeral limit)

/-- A failure with which no token is recorded, and about which something is told. The token is
    recorded by whoever works on it, so everything below leaves that to the last step. -/
structure IsBare (f : Failure) : Prop where
  origin : f.origin? = none
  message : f.message?.isSome = true

/-- Telling a fault of syntax needs its numbers written, which can fail in its turn. -/
theorem isOfReading_ofSyntax (p : SyntaxProblem) : (ofSyntax p).IsOfReading := by
  unfold ofSyntax ofProblem
  split
  · rename_i hnumbers
    exact .badSyntax p (List.all_eq_true.mp hnumbers)
  · exact .numeral .writing

/-- A number that is too long is told in words of its own, whatever it was met in. -/
theorem isBare_numeral {limit : Decimal.DigitLimit} : (numeral limit).IsBare :=
  ⟨rfl, rfl⟩

theorem isBare_zeroDivisor : zeroDivisor.IsBare :=
  ⟨rfl, rfl⟩

/-- A problem that can be told has words, and one that cannot becomes a number that is too long. -/
theorem isBare_ofProblem (p : Problem) : (ofProblem p).IsBare := by
  refine ⟨?_, message?_ofProblem p⟩
  unfold ofProblem
  split <;> rfl

/-- Nothing that goes wrong while a token is read records the token. -/
theorem IsOfReading.isBare {f : Failure} (h : f.IsOfReading) : f.IsBare := by
  cases h <;> exact ⟨rfl, rfl⟩

/-- The kind of a failure is that of its problem, unless the problem cannot be told, in which
    case it is the failure to write a number. -/
theorem name_ofProblem (p : Problem) :
    (ofProblem p).name = p.name ∨ (ofProblem p).name = "ValueError" := by
  unfold ofProblem
  split
  · exact Or.inl rfl
  · exact Or.inr rfl

theorem name_ofDisk_ne {p : DiskProblem} {kind : String} (h : p.name ≠ kind)
    (hkind : "ValueError" ≠ kind) : (ofDisk p).name ≠ kind := by
  rcases name_ofProblem (.disk p) with hname | hname
  · rw [ofDisk, hname]
    exact h
  · rw [ofDisk, hname]
    exact hkind

@[simp]
theorem name_within (o : Origin) (f : Failure) : (f.within o).name = f.name := by
  cases f with
  | problem r =>
      change (r.within o).problem.name = r.problem.name
      -- Recording a token changes what is known of the problem and not the problem.
      unfold Report.within Report.attach
      split
      · split <;> rfl
      · rfl
  | _ => rfl

/-- Whether the token is recorded with a failure. What is written or named wrongly is about the
    token, and what the devices do not allow is not. -/
def isAboutToken : Failure → Bool
  | problem r => r.problem.isAboutToken
  | _ => false

/-- The token that is recorded in the end is the one that was worked on, or none. Nothing has
    been recorded before, so nothing is kept in its place. -/
theorem origin?_within {f : Failure} (h : f.IsBare) (o : Origin) :
    (f.within o).origin? = if f.isAboutToken then some o else none := by
  cases f with
  | problem r =>
      rcases r with ⟨p, origin⟩
      obtain rfl : origin = none := h.origin
      change (Report.within o ⟨p, none⟩).origin = _
      unfold Report.within isAboutToken
      split <;> rfl
  | _ => rfl

/-- A failure that is not about the token is left as it is. -/
theorem within_of_not_isAboutToken {f : Failure} (h : f.isAboutToken = false) (o : Origin) :
    f.within o = f := by
  cases f with
  | problem r =>
      change problem (r.within o) = problem r
      unfold Report.within
      rw [if_neg (by rw [show r.problem.isAboutToken = false from h]; exact Bool.false_ne_true)]
  | _ => rfl

end Failure

open Failure

/-! ### Reading -/

/-- A fault of syntax is one of reading, wherever it comes from. -/
theorem failsWith_mapError_ofSyntax {α : Type} (x : Except SyntaxProblem α) :
    FailsWith IsOfReading (x.mapError ofSyntax) :=
  failsWith_mapError fun p _ => isOfReading_ofSyntax p

/-- A field in digits can only be too long, and any other field is a fault of syntax. -/
theorem failsWith_partitionNumber (field : String) :
    FailsWith IsOfReading (Fields.partitionNumber field) := by
  unfold Fields.partitionNumber
  split
  · exact failsWith_mapError fun limit _ => .numeral limit
  · exact failsWith_error (isOfReading_ofSyntax _)

theorem failsWith_tableKind (field : String) : FailsWith IsOfReading (Fields.tableKind field) := by
  unfold Fields.tableKind
  split
  · exact failsWith_ok _
  · exact failsWith_error (isOfReading_ofSyntax _)

theorem failsWith_role (field : String) : FailsWith IsOfReading (Fields.role field) := by
  unfold Fields.role
  split
  · exact failsWith_ok _
  · exact failsWith_error (isOfReading_ofSyntax _)

/-- Mebibytes are the one field whose number is written again, so here both limits apply. -/
theorem failsWith_normalize (token : String) :
    FailsWith IsOfReading (Position.normalize token) := by
  unfold Position.normalize
  split
  · exact failsWith_ok _
  · -- The sign makes no difference to what can go wrong.
    split
    split
    · -- The numeral is read and, once converted, written again.
      split
      · exact failsWith_error (IsOfReading.numeral _)
      · split
        · exact failsWith_error (IsOfReading.numeral _)
        · exact failsWith_ok _
    · exact failsWith_error (isOfReading_ofSyntax _)

theorem failsWith_ofToken (token : String) : FailsWith IsOfReading (Position.ofToken token) := by
  unfold Position.ofToken
  split
  · rename_i f hf
    exact failsWith_error (failsWith_normalize token f hf)
  · split
    · -- Past the normal form the only fault is that no position is spelled.
      exact failsWith_ok _
    · exact failsWith_error (isOfReading_ofSyntax _)

theorem failsWith_optionalPosition (field : String) :
    FailsWith IsOfReading (Fields.optionalPosition field) := by
  unfold Fields.optionalPosition
  split
  · exact failsWith_ok _
  · exact (failsWith_ofToken field).map some

theorem failsWith_optionalContent (field : String) :
    FailsWith IsOfReading (Fields.optionalContent field) := by
  unfold Fields.optionalContent
  split
  · exact failsWith_ok _
  · exact FailsWith.map (failsWith_mapError_ofSyntax _) some

theorem failsWith_volumeFilesystem (field : String) :
    FailsWith IsOfReading (Fields.volumeFilesystem field) := by
  unfold Fields.volumeFilesystem
  split
  · exact failsWith_error (isOfReading_ofSyntax _)
  · exact failsWith_error (isOfReading_ofSyntax _)
  · exact failsWith_ok _

theorem failsWith_mountedSuffix (fields : List (SuffixKey × String)) :
    FailsWith IsOfReading (Fields.mountedSuffix fields) := by
  unfold Fields.mountedSuffix
  dsimp only
  split
  · exact failsWith_error (isOfReading_ofSyntax _)
  · exact failsWith_ok _

namespace Operation

theorem failsWith_wrongCount (kind : Kind) (minimum : Int) (maximum : Option Int)
    (fields : List String) :
    FailsWith IsOfReading (Reading.wrongCount kind minimum maximum fields).operation :=
  failsWith_error (isOfReading_ofSyntax _)

/-- The fields are counted, then the suffixes are read, then the rest, each with failures of
    reading alone. -/
theorem failsWith_readReuse (fields : List String) :
    FailsWith IsOfReading (readReuse fields).operation := by
  unfold readReuse
  split
  · split
    · exact failsWith_wrongCount _ _ _ _
    · split
      · rename_i f hf
        exact failsWith_error (failsWith_mapError_ofSyntax _ f hf)
      · refine (failsWith_mountedSuffix _).bind fun _ _ => ?_
        refine (failsWith_partitionNumber _).bind fun _ _ => ?_
        exact (failsWith_optionalContent _).bind fun _ _ => failsWith_ok _
  · exact failsWith_wrongCount _ _ _ _

/-- The fields that stand before the suffixes of a new partition fail for their syntax or for a
    number. -/
theorem failsWith_createHead (role first last content : String) :
    FailsWith IsOfReading (createHead role first last content) := by
  unfold createHead
  refine (failsWith_role _).bind fun _ _ => ?_
  refine (failsWith_ofToken _).bind fun _ _ => ?_
  refine (failsWith_ofToken _).bind fun _ _ => ?_
  exact FailsWith.bind (failsWith_mapError_ofSyntax _) fun _ _ => failsWith_ok _

theorem failsWith_readCreate (fields : List String) :
    FailsWith IsOfReading (readCreate fields).operation := by
  unfold readCreate
  split
  · split
    · exact failsWith_wrongCount _ _ _ _
    · split
      · rename_i f hf
        exact failsWith_error (failsWith_createHead _ _ _ _ f hf)
      · split
        · rename_i f hf
          exact failsWith_error (failsWith_mapError_ofSyntax _ f hf)
        · exact (failsWith_mountedSuffix _).bind fun _ _ => failsWith_ok _
  · exact failsWith_wrongCount _ _ _ _

theorem failsWith_readLogical (fields : List String) :
    FailsWith IsOfReading (readLogical fields).operation := by
  unfold readLogical
  split
  · split
    · exact failsWith_wrongCount _ _ _ _
    · split
      · rename_i f hf
        exact failsWith_error (failsWith_mapError_ofSyntax _ f hf)
      · refine (failsWith_volumeFilesystem _).bind fun _ _ => ?_
        exact (failsWith_ofToken _).bind fun _ _ => failsWith_ok _
  · exact failsWith_wrongCount _ _ _ _

/-- A token that cannot be read is refused for its syntax or for a number that is too
    long. -/
theorem failsWith_read (kind : Kind) (token : String) :
    FailsWith IsOfReading (read kind token).operation := by
  unfold read
  -- The fields may be any at all, so what the token is cut into does not matter.
  generalize Text.fields ':' token = fields
  cases kind with
  | relabel =>
      simp only [readFields]
      unfold readRelabel
      split
      · exact (failsWith_tableKind _).bind fun _ _ => failsWith_ok _
      · exact failsWith_wrongCount _ _ _ _
  | delete =>
      simp only [readFields]
      unfold readDelete
      split
      · exact (failsWith_mapM failsWith_partitionNumber _).bind fun _ _ => failsWith_ok _
      · exact failsWith_wrongCount _ _ _ _
  | move =>
      simp only [readFields]
      unfold readMove
      split
      · refine (failsWith_partitionNumber _).bind fun _ _ => ?_
        refine (failsWith_optionalPosition _).bind fun _ _ => ?_
        exact (failsWith_optionalPosition _).bind fun _ _ => failsWith_ok _
      · exact failsWith_wrongCount _ _ _ _
  | reuse => exact failsWith_readReuse fields
  | create => exact failsWith_readCreate fields
  | logical => exact failsWith_readLogical fields

end Operation

/-! ### Devices -/

/-- Only a division by the size of a sector can go wrong when a position is resolved. -/
theorem failsWith_positionResolve (sectors sectorSize reserved : Int) (p : Position) :
    FailsWith IsBare (p.resolve? sectors sectorSize reserved) := by
  unfold Position.resolve?
  split
  · exact failsWith_error isBare_zeroDivisor
  · exact failsWith_ok _

namespace Disk

variable (d : Disk)

/-- A partition that is not on the disk is a problem of the disk. -/
theorem failsWith_requirePartition (number : Int) :
    FailsWith IsBare (d.requirePartition number) := by
  unfold requirePartition
  split
  · exact failsWith_ok _
  · exact failsWith_error (isBare_ofProblem _)

theorem failsWith_resolve (p : Position) : FailsWith IsBare (d.resolve? p) := by
  unfold resolve? reserved?
  split
  · -- The space that is kept free is measured in bytes, so it is divided by the size of a sector.
    rename_i f hf
    split at hf
    · rw [← Except.error.inj hf]
      exact failsWith_error isBare_zeroDivisor
    · exact absurd hf (by simp only [reduceCtorEq, not_false_eq_true])
  · exact failsWith_positionResolve _ _ _ p

/-- Both faults of bounds are problems of the disk. -/
theorem failsWith_checkBounds (first last : Int) : FailsWith IsBare (d.checkBounds first last) := by
  unfold checkBounds
  split
  · exact failsWith_error (isBare_ofProblem _)
  · split
    · exact failsWith_error (isBare_ofProblem _)
    · exact failsWith_ok _

theorem failsWith_checkOverlap (path : String) (others : List Partition) (first last : Int) :
    FailsWith IsBare (checkOverlap path others first last) := by
  unfold checkOverlap
  split
  · exact failsWith_error (isBare_ofProblem _)
  · exact failsWith_ok _

theorem failsWith_checkRole (table : TableKind) (role : Role) :
    FailsWith IsBare (d.checkRole table role) := by
  unfold checkRole
  split
  · split
    · exact failsWith_error (isBare_ofProblem _)
    · exact failsWith_ok _
  · split
    · exact failsWith_error (isBare_ofProblem _)
    · exact failsWith_ok _

/-- The path of a partition is made with its number, which may be too long to be written. -/
theorem failsWith_partitionPath (path : String) (number : Int) :
    FailsWith IsBare (partitionPath? path number) := by
  unfold partitionPath?
  split
  · exact failsWith_error isBare_numeral
  · exact failsWith_ok _

/-- What is checked of a new partition, in the order in which it is checked. -/
theorem failsWith_place (r : Request) : FailsWith IsBare (d.place r) := by
  unfold place
  split
  · exact failsWith_error (isBare_ofProblem _)
  · refine (d.failsWith_checkBounds _ _).bind fun _ _ => ?_
    refine (d.failsWith_checkRole _ _).bind fun _ _ => ?_
    refine (failsWith_checkOverlap _ _ _ _).bind fun _ _ => ?_
    exact (failsWith_partitionPath _ _).bind fun _ _ => failsWith_ok _

/-- A move is checked first and told afterwards, and telling it can fail on a long number. -/
theorem failsWith_move (number first : Int) : FailsWith IsBare (d.move number first).answer := by
  have hrange : FailsWith IsBare (d.movedRange number first) := by
    unfold movedRange
    refine (d.failsWith_requirePartition _).bind fun _ _ => ?_
    refine (d.failsWith_checkBounds _ _).bind fun _ _ => ?_
    exact (failsWith_checkOverlap _ _ _ _).bind fun _ _ => failsWith_ok _
  unfold move
  split
  · rename_i f hf
    exact failsWith_error (hrange f hf)
  · refine Outcome.andThen_failsWith ?_ fun _ _ => failsWith_ok _
    exact Outcome.telling_failsWith isBare_numeral

/-- So is the end of a partition checked first and told afterwards. -/
theorem failsWith_resize (number last : Int) :
    FailsWith IsBare (d.resize number last).answer := by
  have hcheck : FailsWith IsBare (d.checkResize number last) := by
    unfold checkResize
    refine (d.failsWith_requirePartition _).bind fun _ _ => ?_
    refine (d.failsWith_checkBounds _ _).bind fun _ _ => ?_
    exact failsWith_checkOverlap _ _ _ _
  unfold resize
  split
  · rename_i f hf
    exact failsWith_error (hcheck f hf)
  · refine Outcome.andThen_failsWith ?_ fun _ _ => failsWith_ok _
    exact Outcome.telling_failsWith isBare_numeral

/-- A new partition can fail before it is placed, for what is checked, and behind that only for
    what is told of it. -/
theorem failsWith_add (r : Request) : FailsWith IsBare (d.add r).answer := by
  unfold add
  split
  · rename_i f hf
    exact failsWith_error (d.failsWith_place r f hf)
  · exact Outcome.telling_failsWith isBare_numeral

theorem failsWith_change (number : Int) (edit : Partition → Partition) :
    FailsWith IsBare (d.change number edit).answer := by
  unfold change
  split
  · rename_i f hf
    exact failsWith_error (d.failsWith_requirePartition number f hf)
  · exact failsWith_ok _

end Disk

/-- Deletions fail for a partition that is missing, and for nothing else. -/
theorem DiskAction.failsWith_deleteAll (numbers : List Nat) (d : Disk) :
    FailsWith IsBare (deleteAll d numbers).answer := by
  -- Over the numbers, for whatever partitions are removed before them.
  induction numbers generalizing d with
  | nil => exact failsWith_ok ()
  | cons number rest ih =>
      rw [deleteAll]
      exact Outcome.andThen_failsWith (d.failsWith_change number _) fun _ _ => ih _

/-- Whatever an action on a disk fails with knows nothing of the token. -/
theorem DiskAction.failsWith_run (action : DiskAction) (d : Disk) :
    FailsWith IsBare (action.run d).answer := by
  cases action with
  | relabel table => exact failsWith_ok ()
  | delete numbers => exact failsWith_deleteAll numbers d
  -- The first sector is resolved against the disk, the last one against the disk as moved.
  | move number first? last? =>
      refine Outcome.andThen_failsWith ?_ fun _ _ => ?_
      · refine Outcome.andThen_failsWith (d.failsWith_requirePartition number) fun _ _ => ?_
        cases first? with
        | none => exact failsWith_ok ()
        | some position =>
            exact Outcome.andThen_failsWith (d.failsWith_resolve position) fun first _ =>
              d.failsWith_move number first
      · cases last? with
        | none => exact failsWith_ok ()
        | some position =>
            exact Outcome.andThen_failsWith (Disk.failsWith_resolve _ position) fun last _ =>
              Disk.failsWith_resize _ number last
  | reuse number content suffix => exact d.failsWith_change number _
  | create role first? last? content suffix =>
      refine Outcome.andThen_failsWith ?_ fun sectors _ => ?_
      · refine (d.failsWith_resolve first?).bind fun _ _ => ?_
        exact (d.failsWith_resolve last?).bind fun _ _ => failsWith_ok _
      · exact Outcome.andThen_failsWith (d.failsWith_add _) fun _ _ => failsWith_ok ()

/-- What is checked of a new volume: its bounds, its name and the volumes that it overlaps. -/
theorem VolumeGroup.failsWith_place (g : VolumeGroup) (r : Request) :
    FailsWith IsBare (g.place r) := by
  unfold place checkBounds checkName checkOverlap
  refine FailsWith.bind ?_ fun _ _ => FailsWith.bind ?_ fun _ _ => FailsWith.bind ?_ fun _ _ =>
    failsWith_ok _
  · split
    · exact failsWith_error (isBare_ofProblem _)
    · split
      · exact failsWith_error (isBare_ofProblem _)
      · exact failsWith_ok _
  · split
    · exact failsWith_error (isBare_ofProblem _)
    · exact failsWith_ok _
  · split
    · exact failsWith_error (isBare_ofProblem _)
    · exact failsWith_ok _

/-- A volume fails for its size, for what is checked, or for what is told of it. -/
theorem NewVolume.failsWith_run (v : NewVolume) (g : VolumeGroup) :
    FailsWith IsBare (v.run g).answer := by
  refine Outcome.andThen_failsWith (failsWith_positionResolve _ _ _ _) fun _ _ => ?_
  refine Outcome.andThen_failsWith ?_ fun _ _ => failsWith_ok ()
  unfold VolumeGroup.add
  split
  · rename_i f hf
    exact failsWith_error (VolumeGroup.failsWith_place _ _ f hf)
  · exact Outcome.telling_failsWith isBare_numeral

/-! ### Tokens -/

/-- No token is recorded while an operation is carried out, so one that is recorded in the end is
    that of the operation itself. -/
theorem Operation.failsWith_run (op : Operation) (t : Topology) :
    FailsWith IsBare (op.run t).answer := by
  cases op with
  | onDisk name action =>
      simp only [run]
      unfold Topology.onDisk
      split
      · exact failsWith_error (isBare_ofProblem _)
      · exact action.failsWith_run _
  | onGroup name volume =>
      simp only [run]
      unfold Topology.onGroup
      split
      · exact failsWith_error (isBare_ofProblem _)
      · exact volume.failsWith_run _

/-- Nor while it is read. Reading and carrying out are one piece of work to which the token is
    added at its end. -/
theorem Reading.failsWith_run (kind : Kind) (token : String) (t : Topology) :
    FailsWith IsBare ((Operation.read kind token).run kind t).answer := by
  refine Outcome.andThen_failsWith ?_ fun op _ => op.failsWith_run t
  exact (Operation.failsWith_read kind token).mono fun _ h => h.isBare

/-- A token that cannot be read fails as it was refused, with the token recorded. -/
theorem applyToken_answer_of_error {kind : Kind} {token : String} {f : Failure}
    (h : (Operation.read kind token).operation = .error f) (t : Topology) :
    (applyToken kind token t).answer = .error (f.within ⟨kind.name, token⟩) := by
  simp only [applyToken, Reading.run, Outcome.within, Outcome.logging, Outcome.ofExcept, h,
    Outcome.andThen]
  rfl

/-- A token that is carried out can be read, since it is read before anything is done. -/
theorem read_of_applyToken {kind : Kind} {token : String} {t : Topology}
    (hok : (applyToken kind token t).answer = .ok ()) :
    ∃ op, (Operation.read kind token).operation = .ok op := by
  cases hread : (Operation.read kind token).operation with
  | error f =>
      rw [applyToken_answer_of_error hread] at hok
      exact absurd hok (by simp only [reduceCtorEq, not_false_eq_true])
  | ok op => exact ⟨op, rfl⟩

/-- The answer to a token that is read is that of the operation, with the token recorded. So what
    is proved of operations carries over to tokens. -/
theorem applyToken_answer_eq {kind : Kind} {token : String} {op : Operation}
    (h : (Operation.read kind token).operation = .ok op) (t : Topology) :
    (applyToken kind token t).answer =
      (op.run t).answer.mapError (Failure.within ⟨kind.name, token⟩) := by
  simp only [applyToken, Reading.run, Outcome.within, Outcome.logging, Outcome.ofExcept, h,
    Outcome.andThen]

end DiskPlan
