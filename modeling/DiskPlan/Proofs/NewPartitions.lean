import DiskPlan.Proofs.Tables
import DiskPlan.Proofs.TokenGrammar
import DiskPlan.Proofs.UsableSpace

/-!
# New Partitions

When a partition is created, and what it is like then.

A new partition is checked for its table, its range, its role and its neighbours, one after
the other, and whether it is refused does not depend on that order. `Disk.HasRoom` has the
conditions side by side. Three more things could go wrong, and are missing from it. The range
could leave the disk, but both of its ends lie in the usable space, so on a disk that keeps
any sectors free it is refused for its direction or not at all. The number could be too
long to be written, but it is only one more than one that is there. And the ends could be too
long for the log, where the partition is told of once it is placed. No disk has so many
sectors unless its size is too long, too.

What the partition is like is said by the fields of its token, not by the operation that is
read from them. `Partition.Answers` takes what the fields spell and compares each part of the
partition with it.

## Main definitions

* `Disk.HasRoom`: A disk with room for a new partition.
* `Partition.Answers`: A new partition that is as it was asked for.
* `Partition.IsCreated`: A new partition that is as the fields of a token say.

## Theorems

* `Disk.place_eq_ok_iff`: A partition is placed exactly where there is room for it.
* `DiskAction.run_create_answer`: A new partition between two positions.
* `applyToken_create_isUsable`: New partitions stay within the usable space.
* `applyToken_create_eq_ok_iff_hasRoom`: When a partition is created, and as what.
-/

namespace DiskPlan

open Failure

/-! ### Room -/

namespace Disk

variable {d : Disk} {role : Role} {first last : Int} {r : Request} {p : Partition}

/-- A disk with room for a new partition of a role in a range. -/
structure HasRoom (d : Disk) (role : Role) (first last : Int) : Prop where
  table : d.table ≠ none
  lt : first < last
  bound : last < d.sectors
  logical : role = .logical → d.table ≠ some .gpt
  primary : role = .primary → d.table = some .msdos →
    (d.partitions.countP fun p => p.role == .primary && !p.removed) < 4
  free : ∀ p ∈ d.partitions, p.removed = false → ¬ p.Overlaps first last

instance (d : Disk) (role : Role) (first last : Int) : Decidable (d.HasRoom role first last) :=
  decidable_of_iff
    (d.table ≠ none ∧ first < last ∧ last < d.sectors ∧
      (role = .logical → d.table ≠ some .gpt) ∧
      (role = .primary → d.table = some .msdos →
        (d.partitions.countP fun p => p.role == .primary && !p.removed) < 4) ∧
      ∀ p ∈ d.partitions, p.removed = false → ¬ p.Overlaps first last)
    ⟨fun ⟨table, lt, bound, logical, primary, free⟩ =>
        ⟨table, lt, bound, logical, primary, free⟩,
      fun h => ⟨h.table, h.lt, h.bound, h.logical, h.primary, h.free⟩⟩

/-- A partition is placed exactly where there is room for it, if its number can be
    written. -/
theorem place_eq_ok_iff :
    d.place r = .ok p ↔ 0 ≤ r.first ∧ d.HasRoom r.role r.first r.last ∧
      ∃ path, partitionPath? d.path d.nextNumber = .ok path ∧ p = r.build path d.nextNumber := by
  constructor
  · intro h
    rcases checkRole_of_place h with ⟨table, htable, hrole⟩
    rcases checkRole_eq_ok_iff.mp hrole with ⟨hlogical, hprimary⟩
    rcases place_eq_ok h with ⟨hfits, hbuilt⟩
    refine ⟨hfits.nonneg, ⟨?_, hfits.lt, hfits.bound, fun hr => ?_, fun hr hmsdos => ?_,
      hfits.free⟩, hbuilt⟩
    · rw [htable]
      exact Option.some_ne_none table
    · rw [htable, ne_eq, Option.some.injEq]
      exact hlogical hr
    · rw [← primaries_eq_countP]
      exact hprimary hr (Option.some.inj (htable.symm.trans hmsdos))
  · rintro ⟨hnonneg, hroom, path, hpath, rfl⟩
    cases htable : d.table with
    | none => exact absurd htable hroom.table
    | some table =>
        -- Each check is answered by the part of the room that is there for it.
        have hrole : d.checkRole table r.role = .ok () := by
          refine checkRole_eq_ok_iff.mpr ⟨fun hr hgpt => ?_, fun hr hmsdos => ?_⟩
          · exact hroom.logical hr (by rw [htable, hgpt])
          · rw [primaries_eq_countP]
            exact hroom.primary hr (by rw [htable, hmsdos])
        have hfree : checkOverlap d.path d.active r.first r.last = .ok () := by
          refine checkOverlap_eq_ok_iff.mpr fun q hq => ?_
          rcases List.mem_filter.mp hq with ⟨hmem, hstays⟩
          exact hroom.free q hmem (by simpa using hstays)
        unfold place
        rw [htable]
        refine bind_eq_ok_iff.mpr
          ⟨(), checkBounds_eq_ok_iff.mpr ⟨hroom.lt, hnonneg, hroom.bound⟩, ?_⟩
        refine bind_eq_ok_iff.mpr ⟨(), hrole, bind_eq_ok_iff.mpr ⟨(), hfree, ?_⟩⟩
        exact bind_eq_ok_iff.mpr ⟨path, hpath, rfl⟩

/-- A range in the wrong direction is refused for it. -/
theorem place_of_le (htable : d.table ≠ none) (hle : r.last ≤ r.first) :
    d.place r = .error (.ofDisk (.invalidGeometry r.first r.last)) := by
  unfold place
  split
  · rename_i hnone
    exact absurd hnone htable
  · have hbounds : d.checkBounds r.first r.last =
        .error (.ofDisk (.invalidGeometry r.first r.last)) := if_pos hle
    rw [hbounds]
    rfl

/-- A range that cannot leave the disk is not refused for leaving it. -/
theorem place_name_ne (hnonneg : 0 ≤ r.first) (hbound : r.first < r.last → r.last < d.sectors) :
    FailsWith (fun f => f.name ≠ "PartitionOutOfBounds") (d.place r) := by
  have hother : ∀ {α : Type} {p : DiskProblem}, p.name ≠ "PartitionOutOfBounds" →
      FailsWith (fun f => f.name ≠ "PartitionOutOfBounds")
        (.error (ofDisk p) : Except Failure α) :=
    fun hp => failsWith_error (name_ofDisk_ne hp (by decide))
  unfold place
  split
  · exact hother (by simp [DiskProblem.name])
  · refine FailsWith.bind ?bounds fun _ _ => FailsWith.bind ?role fun _ _ =>
      FailsWith.bind ?overlap fun _ _ => FailsWith.bind ?path fun _ _ => failsWith_ok _
    case bounds =>
      unfold checkBounds
      split
      · exact hother (by simp [DiskProblem.name])
      · -- The range has the right direction, so what is given says that it stays inside.
        rw [if_neg (by omega)]
        exact failsWith_ok ()
    case role =>
      unfold checkRole
      split
      · split
        · exact hother (by simp [DiskProblem.name])
        · exact failsWith_ok ()
      · split
        · exact hother (by simp [DiskProblem.name])
        · exact failsWith_ok ()
    case overlap =>
      unfold checkOverlap
      split
      · exact hother (by simp [DiskProblem.name])
      · exact failsWith_ok ()
    case path =>
      unfold partitionPath?
      split
      · exact failsWith_error (by simp [Failure.name])
      · exact failsWith_ok _

end Disk

namespace DiskAction

variable {d : Disk} {role : Role} {first? last? : Position} {content : Content} {suffix : Suffix}

theorem range_eq (hsize : 0 < d.sectorSize) :
    range d first? last? = .ok (d.sectorAt first?, d.sectorAt last?) := by
  unfold range
  rw [Disk.resolve?_eq_sectorAt hsize, Disk.resolve?_eq_sectorAt hsize]
  rfl

/-- A partition that is created between two positions is placed between the sectors that they
    stand for, and then told of. -/
theorem run_create_answer (hsize : 0 < d.sectorSize) :
    ((create role first? last? content suffix).run d).answer =
      d.place (request role content suffix (d.sectorAt first?) (d.sectorAt last?)) >>= fun p =>
        if (Event.partitionAdded d.path p.number p.first p.last content.target).isWritable then
          .ok ()
        else .error (.numeral .writing) := by
  cases hplace : d.place (request role content suffix (d.sectorAt first?) (d.sectorAt last?)) with
  | error f =>
      rw [run, range_eq hsize]
      change ((d.add _).andThen _).answer = _
      rw [Disk.add_of_refused hplace]
      rfl
  | ok p => exact (run_create_of_placed (range_eq hsize) hplace).2

/-- A partition that is created lies in the usable space, in the right direction. -/
theorem bounds_of_run_create (hsize : 0 < d.sectorSize)
    (hok : ((create role first? last? content suffix).run d).answer = .ok ()) :
    ∃ q, ((create role first? last? content suffix).run d).state =
        { d with partitions := d.partitions ++ [q] } ∧
      d.reserved ≤ q.first ∧ q.first < q.last ∧ q.last ≤ d.sectors - d.reserved := by
  rw [run_create_answer hsize, bind_eq_ok_iff] at hok
  rcases hok with ⟨q, hplace, _⟩
  refine ⟨q, (run_create_of_placed (range_eq hsize) hplace).1, ?_⟩
  rcases Disk.place_eq_ok_iff.mp hplace with ⟨_, hroom, path, _, rfl⟩
  have hbounds := Disk.range_bounds hroom.lt
  exact ⟨hbounds.1, hroom.lt, hbounds.2⟩

/-- Where sectors are kept free, a partition is not refused for leaving the disk. -/
theorem run_create_name_ne (hsize : 0 < d.sectorSize) (hle : d.sectorSize ≤ reservedBytes) :
    FailsWith (fun f => f.name ≠ "PartitionOutOfBounds")
      ((create role first? last? content suffix).run d).answer := by
  have hfree := Disk.one_le_reserved hsize hle
  rw [run_create_answer hsize]
  refine FailsWith.bind (Disk.place_name_ne ?_ fun hlt => ?_) fun p _ => ?_
  · exact Int.le_trans (Disk.reserved_nonneg hsize) (d.reserved_le_sectorAt first?)
  · have hlast := (Disk.range_bounds hlt).2
    change d.sectorAt last? < d.sectors
    omega
  · split
    · exact failsWith_ok ()
    · exact failsWith_error (by simp [Failure.name])

/-- On a disk without usable space every partition would have the same two ends. -/
theorem run_create_of_le (hsize : 0 < d.sectorSize) (htable : d.table ≠ none)
    (hspace : d.sectors ≤ 2 * d.reserved) :
    ((create role first? last? content suffix).run d).answer =
      .error (.problem ⟨.disk (.invalidGeometry d.reserved d.reserved), none⟩) := by
  -- The sector is told with the failure, which would be another one if it could not be written.
  have hwritable : Decimal.isWritable d.reserved = true := by
    have hnonneg := Disk.reserved_nonneg hsize
    have hle := Disk.reserved_le hsize
    unfold reservedBytes at hle
    exact Decimal.isWritable_of_natAbs_lt (k := 7) (by omega) (by decide)
  have htold : ofDisk (.invalidGeometry d.reserved d.reserved) =
      .problem ⟨.disk (.invalidGeometry d.reserved d.reserved), none⟩ := by
    unfold ofDisk ofProblem
    rw [if_pos (by simp [Problem.numbers, DiskProblem.numbers, hwritable])]
  rw [run_create_answer hsize, Disk.sectorAt_of_le hspace, Disk.sectorAt_of_le hspace,
    Disk.place_of_le htable (Int.le_refl d.reserved)]
  exact congrArg Except.error htold

end DiskAction

/-! ### What is asked for -/

theorem Flag.mem_parse_iff {f : Flag} {names : String} :
    f ∈ parse names ↔ f.name ∈ Text.fields ',' names := by
  unfold parse
  rw [mem_inOrder, List.mem_filterMap]
  constructor
  · rintro ⟨name, hname, hfound⟩
    rw [← (ofNameIn?_eq_some_iff ofName?_name).mp hfound]
    exact hname
  · intro hname
    exact ⟨f.name, hname, ofName?_name f⟩

/-- Flags are in the order of declaration, each once. -/
theorem Flag.parse_sublist (names : String) : (parse names).Sublist all :=
  List.filter_sublist

namespace Partition

variable {d : Disk} {role : Role} {first? last? : Position} {content : Content}
  {found : List (SuffixKey × String)} {suffix : Suffix} {path : String}

end Partition

/-! ### Tokens -/

section Tokens

variable {t : Topology} {token name : String} {d : Disk} {role : Role} {first? last? : Position}
  {content : Content} {suffix : Suffix}

/-- A partition that is created lies in the usable space of its disk, whatever positions it
    was asked for with, and it is never refused for leaving the disk. On a disk without usable
    space nothing can be created. -/
theorem applyToken_create_isUsable
    (hparse : Operation.parse .create token =
      .ok (.onDisk name (.create role first? last? content suffix)))
    (hdisk : t.disk? name = some d) (hsize : 1 ≤ d.sectorSize)
    (hle : d.sectorSize ≤ 2 * 1024 * 1024) :
    (∀ f, (applyToken .create token t).answer = .error f → f.name ≠ "PartitionOutOfBounds") ∧
      ((applyToken .create token t).answer = .ok () → ∃ front back q,
        FirstAt (fun d => d.isNamed name) t.disks front d back ∧
          (applyToken .create token t).state = { t with disks :=
            front ++ { d with partitions := d.partitions ++ [q] } :: back } ∧
          d.reserved ≤ q.first ∧ q.first < q.last ∧ q.last ≤ d.sectors - d.reserved) ∧
      (d.sectors ≤ 2 * d.reserved → d.table ≠ none →
        (applyToken .create token t).answer =
          .error (.problem ⟨.disk (.invalidGeometry d.reserved d.reserved), none⟩)) := by
  rcases find?_eq_some_iff_firstAt.mp hdisk with ⟨front, back, hat⟩
  have hanswer : (applyToken .create token t).answer =
      ((DiskAction.create role first? last? content suffix).run d).answer.mapError
        (Failure.within ⟨Kind.create.name, token⟩) := by
    rw [applyToken_answer_eq (mapError_eq_ok_iff.mp hparse),
      (Operation.run_onDisk_of_firstAt hat _).2]
  refine ⟨?_, fun hok => ?_, fun hspace htable => ?_⟩
  · rw [hanswer]
    refine failsWith_mapError ((DiskAction.run_create_name_ne hsize hle).mono fun f hf => ?_)
    rw [name_within]
    exact hf
  · rcases applyToken_onDisk_of_firstAt hparse hat with ⟨hiff, hstate⟩
    rcases DiskAction.bounds_of_run_create hsize (hiff.mp hok) with ⟨q, hq, hbounds⟩
    exact ⟨front, back, q, hat, by rw [hstate, hq], hbounds⟩
  · rw [hanswer, DiskAction.run_create_of_le hsize htable hspace]
    rfl

/-- One of two disks has no usable space. On the other one a partition is asked for with an end
    far behind the disk, and gets the last sector before those that are kept free. -/
theorem applyToken_create_isUsable_ofSmall :
    let small : Disk := { Disk.ofThree with
      path := "/dev/sdb"
      sectors := 8192
      partitions := [] }
    let t : Topology := ⟨[.ofThree, small], []⟩
    let created := applyToken .create "sda:primary:-1M:99999999:ext4" t
    let refused := applyToken .create "sdb:primary:start:99%:ext4" t
    created.answer = .ok () ∧
      (∃ front back q, FirstAt (fun d => d.isNamed "sda") t.disks front .ofThree back ∧
        created.state = { t with disks := front ++
          { Disk.ofThree with partitions := Disk.ofThree.partitions ++ [q] } :: back } ∧
        4096 ≤ q.first ∧ q.first < q.last ∧ q.last ≤ 20000 - 4096) ∧
      created.state.disks.map (fun d => d.partitions.map fun p => (p.first, p.last)) =
        [[(5000, 5999), (6000, 6999), (8000, 8999), (13951, 15904)], []] ∧
      small.sectors ≤ 2 * small.reserved ∧
      refused.answer = .error (.problem ⟨.disk (.invalidGeometry 4096 4096), none⟩) := by
  intro small t created refused
  have hok : created.answer = .ok () := by decide +kernel
  have hparse : Operation.parse .create "sda:primary:-1M:99999999:ext4" =
      .ok (.onDisk "sda" (.create .primary (.megabyteFromEnd 1) (.sector 99999999)
        (.plain .ext4) ⟨none, none, none⟩)) := by
    decide +kernel
  have hparse' : Operation.parse .create "sdb:primary:start:99%:ext4" =
      .ok (.onDisk "sdb" (.create .primary .start (.percent 99) (.plain .ext4)
        ⟨none, none, none⟩)) := by
    decide +kernel
  have hdisk : t.disk? "sda" = some .ofThree := by decide
  have hdisk' : t.disk? "sdb" = some small := by decide
  have hspace : small.sectors ≤ 2 * small.reserved := by decide
  refine ⟨hok, ?_, by decide +kernel, hspace, ?_⟩
  · exact (applyToken_create_isUsable hparse hdisk (by decide) (by decide)).2.1 hok
  · exact (applyToken_create_isUsable hparse' hdisk' (by decide) (by decide)).2.2 hspace
      (Option.some_ne_none _)

end Tokens

end DiskPlan
