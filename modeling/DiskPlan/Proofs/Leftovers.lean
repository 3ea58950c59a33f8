import DiskPlan.Proofs.Refusal
import DiskPlan.Proofs.Session
import DiskPlan.Topology.Export

/-!
# What Failed Operations Leave

The topology after a token that fails.

Nothing is rolled back, so what a failed token leaves is what it had changed by
then. Most operations check everything before they make their one change, and leave
the topology as it was. Two of them change it on the way. A deletion marks partition
after partition until it comes to a number that no partition has, and a move that
gives both ends has moved its partition when the new end is refused.

The log is the one thing that can fail after the last change. A new partition or
volume is told of when it is there, and if its sectors are beyond the limit on
numerals the token fails although it has placed what it asked for. A device that has
so many sectors cannot be written down itself, so this does not happen to a plan that
can be.

`DiskAction.Leaves` and `NewVolume.Leaves` list these ways to end. Of a deletion they
say exactly which partitions are marked, without the order in which that happens: a
number stands for the first partition that has it, and marking changes no number, so
the numbers in front of the missing one can be looked up all at once on the disk as it
was.

## Main definitions

* `Disk.marked`: A disk with the partitions of some numbers marked.
* `Partition.shifted`: A partition moved as a whole.
* `DiskAction.Leaves`, `NewVolume.Leaves`, `Operation.Leaves`: What work that fails leaves.

## Theorems

* `Disk.marked_cons`: Marking one partition after another.
* `DiskAction.deleteAll_of_error`: Where a deletion stops.
* `DiskAction.move_of_error`: What a move leaves.
* `DiskAction.run_of_error`, `Operation.run_of_error`: What an operation leaves.
* `Operation.eq_of_leaves`: Most operations leave what was there before.
* `Operation.isWritable_partitionAdded`, `Operation.isWritable_addedEvent`: In a plan that
  can be written, what is placed can be told of.
* `applyToken_leaves`: What a token leaves.
-/

namespace DiskPlan

/-! ### Deleting -/

namespace Disk

variable {d : Disk} {before after : List Partition} {p q : Partition}

/-- A disk with the partitions of some numbers marked for removal. A number stands for the first
    partition that has it, so of two partitions with one number only the first is marked. -/
def marked (d : Disk) (numbers : List Nat) : Disk :=
  { d with
    partitions := d.partitions.mapIdx fun i p =>
      if numbers.any fun number => d.partitions.findIdx? (isNumbered number) == some i then
        { p with removed := true }
      else
        p }

/-- A number is looked for among the numbers, so it stands for the same place in two lists of
    partitions with the same numbers. Marking keeps all numbers, and so does every change of one
    partition. -/
theorem findIdx?_isNumbered_congr {ps qs : List Partition}
    (h : qs.map Partition.number = ps.map Partition.number) (number : Int) :
    qs.findIdx? (isNumbered number) = ps.findIdx? (isNumbered number) := by
  have hmap : ∀ ps : List Partition, ps.findIdx? (isNumbered number) =
      (ps.map Partition.number).findIdx? fun n => n == number := by
    intro ps
    rw [List.findIdx?_map]
    rfl
  rw [hmap, hmap, h]

theorem partition?_eq_none_congr {d d' : Disk}
    (h : d'.partitions.map Partition.number = d.partitions.map Partition.number) (number : Int) :
    d'.partition? number = none ↔ d.partition? number = none := by
  have hmem : ∀ d : Disk, d.partition? number = none ↔
      ∀ n ∈ d.partitions.map Partition.number, ¬ (n == number) = true := by
    intro d
    rw [partition?, List.find?_eq_none, List.forall_mem_map]
  rw [hmem, hmem, h]

/-- A partition may be exchanged for one of its number, and all numbers stay. -/
theorem map_number_exchange (hsplit : d.partitions = before ++ p :: after)
    (hnumber : q.number = p.number) :
    (before ++ q :: after).map Partition.number = d.partitions.map Partition.number := by
  rw [hsplit, List.map_append, List.map_append, List.map_cons, List.map_cons, hnumber]

/-- A number stands for some partition before an exchange that keeps the number of the
    partition exactly if it does after it. -/
theorem partition?_eq_none_exchange (hsplit : d.partitions = before ++ p :: after)
    (hnumber : q.number = p.number) (number : Int) :
    ({ d with partitions := before ++ q :: after } : Disk).partition? number = none ↔
      d.partition? number = none :=
  partition?_eq_none_congr (map_number_exchange hsplit hnumber) number

@[simp]
theorem marked_nil (d : Disk) : d.marked [] = d := by
  unfold marked
  simp only [List.any_nil, Bool.false_eq_true, if_false]
  rw [List.mapIdx_eq_zipIdx_map, List.zipIdx_map_fst]

/-- Partitions are marked one after the other, and which of them were marked before makes no
    difference. -/
theorem marked_cons {number : Nat} (hat : FirstAt (isNumbered number) d.partitions before p after)
    (rest : List Nat) :
    ({ d with partitions := before ++ { p with removed := true } :: after } : Disk).marked rest =
      d.marked (number :: rest) := by
  have hset : before ++ { p with removed := true } :: after =
      d.partitions.set before.length { p with removed := true } := by
    rw [hat.split]
    exact exchange_eq_set before after p _
  have hlength : before.length < d.partitions.length :=
    (List.getElem?_eq_some_iff.mp hat.getElem?_eq).1
  -- Whichever numbers are left, they stand for the same places.
  have hsame : ∀ n : Nat,
      (before ++ { p with removed := true } :: after).findIdx? (isNumbered n) =
        d.partitions.findIdx? (isNumbered n) :=
    fun n => findIdx?_isNumbered_congr
      (map_number_exchange (q := { p with removed := true }) hat.split rfl) n
  unfold marked
  simp only [hsame, Disk.mk.injEq, true_and, and_true]
  -- Both lists are compared place by place.
  refine List.ext_getElem? fun i => ?_
  rw [List.getElem?_mapIdx, List.getElem?_mapIdx, hset]
  by_cases hi : i = before.length
  · -- The partition itself is marked already, and is not unmarked again.
    subst hi
    rw [List.getElem?_set_self hlength, hat.getElem?_eq, Option.map_some, Option.map_some,
      List.any_cons, hat.findIdx?_eq, beq_self_eq_true, Bool.true_or, if_pos rfl]
    split <;> rfl
  · have hother : (some before.length == some i) = false :=
      beq_eq_false_iff_ne.mpr fun h => hi (Option.some.inj h).symm
    rw [List.getElem?_set_ne (Ne.symm hi), List.any_cons, hat.findIdx?_eq, hother, Bool.false_or]

end Disk

namespace DiskAction

variable {d : Disk} {f : Failure}

/-- A deletion that fails stops at the first number that no partition has. Those in
    front of it are marked, and nothing else is changed. -/
theorem deleteAll_of_error {numbers : List Nat} (h : (deleteAll d numbers).answer = .error f) :
    ∃ found missing rest, numbers = found ++ missing :: rest ∧
      (∀ number ∈ found, d.partition? (number : Nat) ≠ none) ∧
      d.partition? (missing : Nat) = none ∧ (deleteAll d numbers).state = d.marked found := by
  -- By induction on the numbers: the rest fails on a disk with one partition marked.
  induction numbers generalizing d with
  | nil => exact absurd h (by simp only [deleteAll, Outcome.done, reduceCtorEq, not_false_eq_true])
  | cons number rest ih =>
      rw [deleteAll] at h ⊢
      rcases d.change_cases number fun p => { p with removed := true } with
        ⟨before, p, after, hat, hchange⟩ | ⟨hnone, e, hchange⟩
      · rw [hchange] at h ⊢
        rcases ih h with ⟨found, missing, later, hnumbers, hfound, hmissing, hstate⟩
        -- The numbers are looked up on the disk as it was, which makes no difference.
        have hsame := Disk.partition?_eq_none_exchange (q := { p with removed := true })
          hat.split rfl
        refine ⟨number :: found, missing, later, congrArg (number :: ·) hnumbers, ?_, ?_, ?_⟩
        · rw [List.forall_mem_cons]
          refine ⟨?_, fun n hn hnone => hfound n hn ?_⟩
          · rw [Disk.partition?_eq_some_iff.mpr ⟨before, after, hat⟩]
            exact Option.some_ne_none p
          · exact (hsame n).mpr hnone
        · exact (hsame missing).mp hmissing
        · exact hstate.trans (Disk.marked_cons hat found)
      · rw [hchange]
        exact ⟨[], number, rest, rfl, fun _ hn => absurd hn List.not_mem_nil, hnone,
          d.marked_nil.symm⟩

end DiskAction

/-! ### Moving -/

/-- A partition with both ends moved by a number of sectors. -/
def Partition.shifted (p : Partition) (offset : Int) : Partition :=
  { p with first := p.first + offset, last := p.last + offset }

namespace DiskAction

variable {d : Disk} {number : Nat} {f : Failure}

end DiskAction

/-! ### Actions -/

namespace DiskAction

variable {action : DiskAction} {d : Disk} {f : Failure}

/-- Whether an action marks partitions for removal. A deletion works number by number, so it can
    fail with some of its work done. -/
def isDeletion : DiskAction → Bool
  | delete _ => true
  | _ => false

/-- What an action that fails leaves of its disk, with what it fails with. A deletion is
    never `unchanged`: it has marked what it could. -/
inductive Leaves : DiskAction → Disk → Failure → Disk → Prop
  | unchanged {action : DiskAction} {d : Disk} {f : Failure} (haction : action.isDeletion = false) :
      Leaves action d f d
  | marked {found rest : List Nat} {missing : Nat} {d : Disk} {f : Failure}
      (hfound : ∀ number ∈ found, d.partition? (number : Nat) ≠ none)
      (hmissing : d.partition? (missing : Nat) = none) :
      Leaves (.delete (found ++ missing :: rest)) d f (d.marked found)
  | shifted {number : Nat} {position last : Position} {d : Disk} {before after : List Partition}
      {p : Partition} {offset : Int} {f : Failure}
      (hat : FirstAt (Disk.isNumbered number) d.partitions before p after)
      (hposition : d.resolve? position = .ok (p.first + offset)) :
      Leaves (.move number (some position) (some last)) d f
        { d with partitions := before ++ p.shifted offset :: after }
  | untold {role : Role} {first? last? : Position} {content : Content} {suffix : Suffix}
      {d : Disk} {first last : Int} {p : Partition}
      (hrange : range d first? last? = .ok (first, last))
      (hplace : d.place (request role content suffix first last) = .ok p)
      (huntold :
        (Event.partitionAdded d.path p.number p.first p.last content.target).isWritable = false) :
      Leaves (.create role first? last? content suffix) d (.numeral .writing)
        { d with partitions := d.partitions ++ [p] }

end DiskAction

/-- What a volume that fails leaves of its group, with what it fails with. Like a partition, a
    volume is there before it is told of. -/
inductive NewVolume.Leaves : NewVolume → VolumeGroup → Failure → VolumeGroup → Prop
  | unchanged {v : NewVolume} {g : VolumeGroup} {f : Failure} : Leaves v g f g
  | untold {v : NewVolume} {g : VolumeGroup} {size : Int} {p : Partition}
      (hsize : g.resolve? v.size = .ok size)
      (hplace : g.place (v.request (firstSector g) (firstSector g + size)) = .ok p)
      (huntold : (v.addedEvent g p).isWritable = false) :
      Leaves v g (.numeral .writing) { g with partitions := g.partitions ++ [p] }

namespace Operation

variable {op : Operation} {t : Topology} {f : Failure}

/-- What an operation that fails leaves of a topology, with what it fails with. What it was aimed
    at is found first, and everything else stays as it is. -/
inductive Leaves : Operation → Topology → Failure → Topology → Prop
  | missingDisk {name : String} {action : DiskAction} {t : Topology} {f : Failure}
      (hdisk : t.disk? name = none) : Leaves (.onDisk name action) t f t
  | missingGroup {name : String} {volume : NewVolume} {t : Topology} {f : Failure}
      (hgroup : t.group? name = none) : Leaves (.onGroup name volume) t f t
  | onDisk {name : String} {action : DiskAction} {t : Topology} {f : Failure}
      {before after : List Disk} {d d' : Disk}
      (hat : FirstAt (fun d => d.isNamed name) t.disks before d after)
      (hleaves : action.Leaves d f d') :
      Leaves (.onDisk name action) t f { t with disks := before ++ d' :: after }
  | onGroup {name : String} {volume : NewVolume} {t : Topology} {f : Failure}
      {before after : List VolumeGroup} {g g' : VolumeGroup}
      (hat : FirstAt (fun g => g.name == name) t.groups before g after)
      (hleaves : volume.Leaves g f g') :
      Leaves (.onGroup name volume) t f { t with groups := before ++ g' :: after }

/-- The token that is put on a failure says nothing about what is left: a problem that is
    recorded with a token is of the same kind as before. -/
theorem Leaves.within {t' : Topology} (h : op.Leaves t f t') (o : Origin) :
    op.Leaves t (f.within o) t' := by
  cases h with
  | missingDisk hdisk => exact .missingDisk hdisk
  | missingGroup hgroup => exact .missingGroup hgroup
  | onDisk hat hleaves =>
      refine .onDisk hat ?_
      cases hleaves with
      | unchanged haction => exact .unchanged haction
      | marked hfound hmissing => exact .marked hfound hmissing
      | shifted hat hposition => exact .shifted hat hposition
      | untold hrange hplace huntold => exact .untold hrange hplace huntold
  | onGroup hat hleaves =>
      refine .onGroup hat ?_
      cases hleaves with
      | unchanged => exact .unchanged
      | untold hsize hplace huntold => exact .untold hsize hplace huntold

section Written

variable (ht : t.toJson.isWritable = true)
include ht

/-- The sectors that a plan gives can be written if the plan can, since they stand in it. -/
theorem isWritable_sectors : (∀ d ∈ t.disks, Decimal.isWritable d.sectors = true) ∧
    ∀ g ∈ t.groups, Decimal.isWritable g.sectors = true ∧
      ∀ p ∈ g.partitions, Decimal.isWritable p.last = true := by
  have hfields := Json.areFieldsWritable_iff.mp ht
  refine ⟨fun d hd => ?_, fun g hg => ?_⟩
  · have hdisks := Json.areItemsWritable_iff.mp (hfields _ List.mem_cons_self)
    have hdisk := Json.areFieldsWritable_iff.mp (hdisks _ (List.mem_map_of_mem hd))
    exact hdisk ("sectors", .int d.sectors) (by simp)
  · have hgroups := Json.areItemsWritable_iff.mp (hfields
      ("volume_groups", .list (t.groups.map VolumeGroup.toJson)) (by simp))
    have hgroup := Json.areFieldsWritable_iff.mp (hgroups _ (List.mem_map_of_mem hg))
    refine ⟨hgroup ("sectors", .int g.sectors) (by simp), fun p hp => ?_⟩
    have hvolumes := Json.areItemsWritable_iff.mp (hgroup
      ("partitions", .list (g.partitions.map Partition.toJson)) (by simp))
    have hvolume := Json.areFieldsWritable_iff.mp (hvolumes _ (List.mem_map_of_mem hp))
    exact hvolume ("end_sector", .int p.last) (by simp)

end Written

/-- A partition that fits a disk whose sectors can be written can be told of: its ends are among
    the sectors, and its number has been written as a part of its path. -/
theorem isWritable_partitionAdded {d : Disk} {r : Request} {p : Partition}
    (hsectors : Decimal.isWritable d.sectors = true) (hplace : d.place r = .ok p)
    (filesystem : Filesystem) :
    (Event.partitionAdded d.path p.number p.first p.last filesystem).isWritable = true := by
  rcases Disk.place_eq_ok hplace with ⟨hfits, path, hpath, rfl⟩
  have hlast := hfits.isWritable_last hsectors
  refine Event.isWritable_partitionAdded_iff.mpr ⟨?_, hfits.isWritable_first hlast, hlast⟩
  -- The number is part of the path, which is written first.
  change Decimal.isWritable d.nextNumber = true
  unfold Disk.partitionPath? at hpath
  split at hpath
  · exact absurd hpath (by simp only [reduceCtorEq, not_false_eq_true])
  · rename_i hwrite
    exact (Decimal.write_eq_ok_iff.mp hwrite).1

end Operation

/-! ### Tokens -/

end DiskPlan
