import DiskPlan.Operation.Effect
import DiskPlan.Proofs.Outcome
import Mathlib.Logic.Relation

/-!
# Changes of Devices

What an action can do to its device, one change after the other.

An action is carried out by a chain of checks and changes, any of which can be the
last. `DiskAction.Change` lists the changes, each with the checks that it has
passed, and `run_changes` says that an action, whether it succeeds or stops
halfway, does nothing else. A fact that every listed change keeps is kept by every
action, and nothing about it has to be said of the functions that carry actions
out.

A change names its action. That is more than an invariant needs, but it lets a
fact that fails for one kind of action be proved for the others.

A volume is placed by one change or not at all, so for volume groups there is no
chain: `NewVolume.run_cases` tells the two ways apart.

## Main definitions

* `Disk.Fits`: A range that a disk has room for besides some of its partitions.
* `DiskAction.Change`: One change that an action makes to its disk.
* `DiskAction.Edit`: What an action makes of one partition.
* `NewVolume.Change`: The change that a logical volume makes to its group.

## Theorems

* `Disk.partition?_eq_some_iff`: The partition of a number stands in one place.
* `Disk.place_eq_ok`: A partition that is placed fits.
* `VolumeGroup.place_eq_ok`: A volume that is placed fits.
* `DiskAction.Change.forall_partitions`: A fact about single partitions.
* `DiskAction.run_changes`: An action makes the changes that are listed for it.
* `DiskAction.run_create_cases`: A new partition is placed, or its disk stays as it was.
* `NewVolume.run_cases`: A logical volume is placed, or its group stays as it was.
* `DiskAction.run_create_of_placed`, `NewVolume.run_of_placed`: What is placed stays, also
  if it cannot be told of.
-/

namespace DiskPlan

open Relation

namespace Disk

variable {d : Disk} {number : Int} {before after : List Partition} {p : Partition}

/-- Having a number, as a disk looks it up. Numbers need not be distinct here, so it is always
    the first partition of a number that is meant. -/
def isNumbered (number : Int) (p : Partition) : Bool :=
  p.number == number

/-- A range lies on a disk and shares no sector with those of a list of partitions that are not
    to be removed. The list is a parameter, since a partition that is moved may overlap its own
    old place but a new one has to be clear of all others. -/
structure Fits (d : Disk) (others : List Partition) (first last : Int) : Prop where
  lt : first < last
  nonneg : 0 ≤ first
  bound : last < d.sectors
  free : ∀ q ∈ others, q.removed = false → ¬ q.Overlaps first last

/-- What fits a disk ends at a sector that can be written if the size of the disk can. -/
theorem Fits.isWritable_last {others : List Partition} {first last : Int}
    (h : d.Fits others first last) (hsectors : Decimal.isWritable d.sectors = true) :
    Decimal.isWritable last = true := by
  have hlt := h.lt
  have hnonneg := h.nonneg
  exact Decimal.isWritable_of_le_of_le Decimal.isWritable_zero hsectors (by omega)
    (Int.le_of_lt h.bound)

/-- It begins at a sector that can be written if the one that it ends at can. -/
theorem Fits.isWritable_first {others : List Partition} {first last : Int}
    (h : d.Fits others first last) (hlast : Decimal.isWritable last = true) :
    Decimal.isWritable first = true :=
  Decimal.isWritable_of_le_of_le Decimal.isWritable_zero hlast h.nonneg (Int.le_of_lt h.lt)

theorem partition?_eq_some_iff :
    d.partition? number = some p ↔
      ∃ before after, FirstAt (isNumbered number) d.partitions before p after :=
  find?_eq_some_iff_firstAt

theorem requirePartition_eq_ok_iff :
    d.requirePartition number = .ok p ↔ d.partition? number = some p := by
  unfold requirePartition
  cases d.partition? number <;>
    simp only [reduceCtorEq, Except.ok.injEq, Option.some.injEq]

theorem updatePartition_eq (h : FirstAt (isNumbered number) d.partitions before p after)
    (f : Partition → Partition) :
    d.updatePartition number f = { d with partitions := before ++ f p :: after } := by
  unfold updatePartition
  rw [← updateFirst_eq h f]
  rfl

/-- Besides the first partition of a number, the partitions that stay are those around its place. -/
theorem activeBesides_eq (h : FirstAt (isNumbered number) d.partitions before p after) :
    d.activeBesides number = (before ++ after).filter fun q => !q.removed := by
  unfold activeBesides
  rw [← eraseP_eq h]
  rfl

/-- The check of bounds accepts a range exactly if it has a length and lies on the disk. -/
theorem checkBounds_eq_ok_iff {first last : Int} :
    d.checkBounds first last = .ok () ↔ first < last ∧ 0 ≤ first ∧ last < d.sectors := by
  unfold checkBounds
  split
  · simp only [reduceCtorEq, false_iff]
    omega
  · split
    · simp only [reduceCtorEq, false_iff]
      omega
    · simp only [true_iff]
      omega

/-- The check of overlaps accepts a range exactly if no partition of the list meets it. -/
theorem checkOverlap_eq_ok_iff {path : String} {others : List Partition} {first last : Int} :
    checkOverlap path others first last = .ok () ↔ ∀ q ∈ others, ¬ q.Overlaps first last := by
  unfold checkOverlap
  split
  · rename_i q hq
    simp only [reduceCtorEq, false_iff]
    intro hfree
    -- What is found would be a partition that meets the range.
    exact hfree q (List.mem_of_find?_eq_some hq) (by simpa using List.find?_some hq)
  · rename_i hnone
    simp only [true_iff]
    intro q hq
    simpa using List.find?_eq_none.mp hnone q hq

theorem fits_of_checks {path : String} {others : List Partition} {first last : Int}
    (hbounds : d.checkBounds first last = .ok ())
    (hfree : checkOverlap path (others.filter fun q => !q.removed) first last = .ok ()) :
    d.Fits others first last := by
  rcases checkBounds_eq_ok_iff.mp hbounds with ⟨hlt, hnonneg, hbound⟩
  -- The check has only been asked about partitions that stay, which is all that fitting needs.
  refine ⟨hlt, hnonneg, hbound, fun q hq hstays => ?_⟩
  exact checkOverlap_eq_ok_iff.mp hfree q (List.mem_filter.mpr ⟨hq, by rw [hstays]; rfl⟩)

/-- A partition that is placed fits, and it is the one that was asked for. Its path is made of
    the next number, so it cannot be placed if that number cannot be written. -/
theorem place_eq_ok {r : Request} (h : d.place r = .ok p) :
    d.Fits d.partitions r.first r.last ∧
      ∃ path, partitionPath? d.path d.nextNumber = .ok path ∧ p = r.build path d.nextNumber := by
  unfold place at h
  split at h
  · exact absurd h (by simp only [reduceCtorEq, not_false_eq_true])
  · -- Bounds, role, overlap and path are asked for in this order.
    rcases bind_eq_ok_iff.mp h with ⟨_, hbounds, h⟩
    rcases bind_eq_ok_iff.mp h with ⟨_, _, h⟩
    rcases bind_eq_ok_iff.mp h with ⟨_, hfree, h⟩
    rcases bind_eq_ok_iff.mp h with ⟨path, hpath, h⟩
    exact ⟨fits_of_checks hbounds hfree, path, hpath, (Except.ok.inj h).symm⟩

/-- A partition that can be moved keeps its length, and fits besides all others in its new place. -/
theorem movedRange_eq_ok {start first last : Int}
    (h : d.movedRange number start = .ok (first, last)) :
    ∃ before p after, FirstAt (isNumbered number) d.partitions before p after ∧
      first = start ∧ last = start + (p.last - p.first) ∧ d.Fits (before ++ after) first last := by
  unfold movedRange at h
  rcases bind_eq_ok_iff.mp h with ⟨p, hp, h⟩
  rcases bind_eq_ok_iff.mp h with ⟨_, hbounds, h⟩
  rcases bind_eq_ok_iff.mp h with ⟨_, hfree, h⟩
  rcases partition?_eq_some_iff.mp (requirePartition_eq_ok_iff.mp hp) with ⟨before, after, hat⟩
  obtain ⟨rfl, rfl⟩ := Prod.mk.inj (Except.ok.inj h)
  -- The list that was checked leaves out the first partition of the number, and no other.
  rw [activeBesides_eq hat] at hfree
  exact ⟨before, p, after, hat, rfl, rfl, fits_of_checks hbounds hfree⟩

/-- A partition that can be resized keeps its beginning, and fits besides all others. -/
theorem checkResize_eq_ok {last : Int} (h : d.checkResize number last = .ok ()) :
    ∃ before p after, FirstAt (isNumbered number) d.partitions before p after ∧
      d.Fits (before ++ after) p.first last := by
  unfold checkResize at h
  rcases bind_eq_ok_iff.mp h with ⟨p, hp, h⟩
  rcases bind_eq_ok_iff.mp h with ⟨_, hbounds, hfree⟩
  rcases partition?_eq_some_iff.mp (requirePartition_eq_ok_iff.mp hp) with ⟨before, after, hat⟩
  rw [activeBesides_eq hat] at hfree
  exact ⟨before, p, after, hat, fits_of_checks hbounds hfree⟩

/-- A change of one partition is made in its place, or not at all. The disk is the same in the
    second case, and the only reason is that there is no partition of the number. -/
theorem change_cases (d : Disk) (number : Int) (f : Partition → Partition) :
    (∃ before p after, FirstAt (isNumbered number) d.partitions before p after ∧
      d.change number f = .done { d with partitions := before ++ f p :: after } ()) ∨
    (d.partition? number = none ∧ ∃ e, d.change number f = .fail d e) := by
  unfold change requirePartition
  cases hp : d.partition? number with
  | none => exact Or.inr ⟨rfl, _, rfl⟩
  | some p =>
      rcases partition?_eq_some_iff.mp hp with ⟨before, after, hat⟩
      refine Or.inl ⟨before, p, after, hat, ?_⟩
      rw [updatePartition_eq hat]

end Disk

namespace DiskAction

/-- One change that an action makes to its disk, with the checks that the change has passed. A
    partition is changed in its place, between those before and those after it. A deletion marks
    several partitions and a move has two halves, so one action can make several changes. -/
inductive Change : DiskAction → Disk → Disk → Prop
  | relabel (table : TableKind) (d : Disk) :
      Change (.relabel table) d
        { d with table := some table, partitions := [], relabeled := true }
  | mark {numbers : List Nat} {number : Nat} {d : Disk} {before after : List Partition}
      {p : Partition} (hnumber : number ∈ numbers)
      (hat : FirstAt (Disk.isNumbered number) d.partitions before p after) :
      Change (.delete numbers) d
        { d with partitions := before ++ { p with removed := true } :: after }
  | shift {number : Nat} {position : Position} {last? : Option Position} {d : Disk}
      {before after : List Partition} {p : Partition} {first : Int}
      (hat : FirstAt (Disk.isNumbered number) d.partitions before p after)
      (hfirst : d.resolve? position = .ok first)
      (hfits : d.Fits (before ++ after) first (first + (p.last - p.first))) :
      Change (.move number (some position) last?) d
        { d with partitions :=
            before ++ { p with first := first, last := first + (p.last - p.first) } :: after }
  | resize {number : Nat} {first? : Option Position} {position : Position} {d : Disk}
      {before after : List Partition} {p : Partition} {last : Int}
      (hat : FirstAt (Disk.isNumbered number) d.partitions before p after)
      (hlast : d.resolve? position = .ok last)
      (hfits : d.Fits (before ++ after) p.first last) :
      Change (.move number first? (some position)) d
        { d with partitions := before ++ { p with last := last } :: after }
  | reuse {number : Nat} {content : Option Content} {suffix : Suffix} {d : Disk}
      {before after : List Partition} {p : Partition}
      (hat : FirstAt (Disk.isNumbered number) d.partitions before p after) :
      Change (.reuse number content suffix) d
        { d with partitions := before ++ withSuffix suffix (withContent content p) :: after }
  | create {role : Role} {first? last? : Position} {content : Content} {suffix : Suffix}
      {d : Disk} {first last : Int} {p : Partition}
      (hrange : range d first? last? = .ok (first, last))
      (hplace : d.place (request role content suffix first last) = .ok p) :
      Change (.create role first? last? content suffix) d
        { d with partitions := d.partitions ++ [p] }

/-- What an action makes of one partition that is there already. -/
inductive Edit : DiskAction → Partition → Partition → Prop
  | mark (numbers : List Nat) (p : Partition) : Edit (.delete numbers) p { p with removed := true }
  | range (number : Nat) (first? last? : Option Position) (first last : Int) (p : Partition) :
      Edit (.move number first? last?) p { p with first := first, last := last }
  | reuse (number : Nat) (content : Option Content) (suffix : Suffix) (p : Partition) :
      Edit (.reuse number content suffix) p (withSuffix suffix (withContent content p))

/-- What is true of all partitions of a disk stays true of all of them, if every edit keeps it
    and a new partition starts with it. A fact about single partitions is proved for all actions
    at once in this way, without a look at how any of them is carried out. -/
theorem Change.forall_partitions {P : Partition → Prop} {action : DiskAction} {d d' : Disk}
    (h : action.Change d d') (hedit : ∀ p q, action.Edit p q → P p → P q)
    (hnew : ∀ role first? last? content suffix, action = .create role first? last? content suffix →
      ∀ first last path number, P ((request role content suffix first last).build path number))
    (hd : ∀ p ∈ d.partitions, P p) : ∀ p ∈ d'.partitions, P p := by
  cases h with
  | relabel table d => exact fun p hp => absurd hp List.not_mem_nil
  | mark _ hat => exact hat.forall_mem_exchange (hedit _ _ (.mark _ _)) hd
  | shift hat _ _ => exact hat.forall_mem_exchange (hedit _ _ (.range _ _ _ _ _ _)) hd
  | resize hat _ _ => exact hat.forall_mem_exchange (hedit _ _ (.range _ _ _ _ _ _)) hd
  | reuse hat => exact hat.forall_mem_exchange (hedit _ _ (.reuse _ _ _ _)) hd
  | create _ hplace =>
      rcases Disk.place_eq_ok hplace with ⟨_, path, _, rfl⟩
      exact List.forall_mem_append.mpr ⟨hd, List.forall_mem_singleton.mpr
        (hnew _ _ _ _ _ rfl _ _ path d.nextNumber)⟩

/-- Partitions marked one after the other, each of them among `numbers`. The numbers that are
    left are taken one by one, while the action stays the one that names all of them. -/
theorem deleteAll_changes {numbers rest : List Nat} (hsub : rest ⊆ numbers) (d : Disk) :
    ReflTransGen (Change (.delete numbers)) d (deleteAll d rest).state := by
  induction rest generalizing d with
  | nil => exact .refl
  | cons number rest ih =>
      rw [deleteAll]
      rcases d.change_cases number _ with ⟨before, p, after, hat, hchange⟩ | ⟨_, e, hchange⟩
      · rw [hchange]
        exact (ih (fun n hn => hsub (List.mem_cons_of_mem _ hn)) _).head
          (.mark (hsub List.mem_cons_self) hat)
      · -- The first number that is not found ends the deletion, and what was marked stays marked.
        rw [hchange]
        exact .refl

/-- The first half of a move shifts a partition, or leaves its disk as it was. A shift is told of
    before it is made, so one that cannot be told of is not made. -/
theorem moveTo_changes (number : Nat) (first? last? : Option Position) (d : Disk) :
    ReflTransGen (Change (.move number first? last?)) d (moveTo d number first?).state := by
  cases first? with
  | none => exact .refl
  | some position =>
      refine Outcome.andThen_state_of .refl fun first hfirst => ?_
      change ReflTransGen _ d (d.move number first).state
      unfold Disk.move
      split
      · exact .refl
      · rename_i range hrange
        rcases Disk.movedRange_eq_ok hrange with ⟨before, p, after, hat, rfl, rfl, hfits⟩
        -- The checks have been passed, so only the event is in the way of the change.
        rw [Outcome.telling_andThen]
        split
        · change ReflTransGen _ d (d.updatePartition number _)
          rw [Disk.updatePartition_eq hat]
          exact .single (.shift hat hfirst hfits)
        · exact .refl

/-- The second half of a move resizes a partition, or leaves its disk as it was. -/
theorem resizeTo_changes (number : Nat) (first? last? : Option Position) (d : Disk) :
    ReflTransGen (Change (.move number first? last?)) d (resizeTo d number last?).state := by
  cases last? with
  | none => exact .refl
  | some position =>
      refine Outcome.andThen_state_of .refl fun last hlast => ?_
      change ReflTransGen _ d (d.resize number last).state
      unfold Disk.resize
      split
      · exact .refl
      · rename_i hresize
        rcases Disk.checkResize_eq_ok hresize with ⟨before, p, after, hat, hfits⟩
        rw [Outcome.telling_andThen]
        split
        · change ReflTransGen _ d (d.updatePartition number _)
          rw [Disk.updatePartition_eq hat]
          exact .single (.resize hat hlast hfits)
        · exact .refl

section Create

variable {role : Role} {first? last? : Position} {content : Content} {suffix : Suffix} {d : Disk}
  {first last : Int} {p : Partition}

/-- A new partition that is placed stays on its disk. The answer is that to its event, which is
    told once the partition is there: if it cannot be told, the action fails and the partition
    stays. -/
theorem run_create_of_placed (hrange : range d first? last? = .ok (first, last))
    (hplace : d.place (request role content suffix first last) = .ok p) :
    (run (.create role first? last? content suffix) d).state =
        { d with partitions := d.partitions ++ [p] } ∧
      (run (.create role first? last? content suffix) d).answer =
        if (Event.partitionAdded d.path p.number p.first p.last content.target).isWritable then
          .ok ()
        else .error (.numeral .writing) := by
  have hrun : run (.create role first? last? content suffix) d =
      (d.add (request role content suffix first last)).andThen fun d _ => .done d () := by
    rw [run, hrange]
    rfl
  rw [hrun, Disk.add_of_placed hplace, Outcome.telling_andThen]
  change Outcome.state (if (Event.partitionAdded _ _ _ _ content.target).isWritable then _ else _) =
      _ ∧ Outcome.answer (if (Event.partitionAdded _ _ _ _ content.target).isWritable then _
        else _) = _
  split
  · exact ⟨rfl, rfl⟩
  · exact ⟨rfl, rfl⟩

/-- A new partition is placed, or it is refused and its disk stays as it was. In the first case
    the action may fail all the same, which is for `run_create_of_placed` to say. -/
theorem run_create_cases (role : Role) (first? last? : Position) (content : Content)
    (suffix : Suffix) (d : Disk) :
    (∃ first last p, range d first? last? = .ok (first, last) ∧
        d.place (request role content suffix first last) = .ok p) ∨
      ((∃ f, (run (.create role first? last? content suffix) d).answer = .error f) ∧
        (run (.create role first? last? content suffix) d).state = d) := by
  cases hrange : range d first? last? with
  | error f =>
      rw [run, hrange]
      exact Or.inr ⟨⟨f, rfl⟩, rfl⟩
  | ok sectors =>
      cases hplace : d.place (request role content suffix sectors.1 sectors.2) with
      | error f =>
          rw [run, hrange]
          change _ ∨ ((∃ e, ((d.add _).andThen _).answer = .error e) ∧
            ((d.add _).andThen _).state = d)
          rw [Disk.add_of_refused hplace]
          exact Or.inr ⟨⟨f, rfl⟩, rfl⟩
      | ok p => exact Or.inl ⟨sectors.1, sectors.2, p, rfl, hplace⟩

end Create

/-- An action makes the changes that are listed for it, as many as it gets to. Nothing is asked
    of the answer, so this also says what is left behind by an action that fails. -/
theorem run_changes (action : DiskAction) (d : Disk) :
    ReflTransGen action.Change d (action.run d).state := by
  cases action with
  | relabel table => exact .single (.relabel table d)
  | delete numbers => exact deleteAll_changes (List.Subset.refl _) d
  | move number first? last? =>
      -- What the first half has moved stays moved when the second half fails.
      refine Outcome.andThen_state_of ?_ fun _ _ => ?_
      · exact Outcome.andThen_state_of .refl fun _ _ => moveTo_changes number first? last? d
      · refine ReflTransGen.trans ?_ (resizeTo_changes number first? last? _)
        exact Outcome.andThen_state_of .refl fun _ _ => moveTo_changes number first? last? d
  | reuse number content suffix =>
      rw [run]
      rcases d.change_cases number _ with ⟨before, p, after, hat, hchange⟩ | ⟨_, e, hchange⟩
      · rw [hchange]
        exact .single (.reuse hat)
      · rw [hchange]
        exact .refl
  | create role first? last? content suffix =>
      rcases run_create_cases role first? last? content suffix d with
        ⟨first, last, p, hrange, hplace⟩ | ⟨_, hstays⟩
      · rw [(run_create_of_placed hrange hplace).1]
        exact .single (.create hrange hplace)
      · rw [hstays]

end DiskAction

namespace VolumeGroup

variable {g : VolumeGroup}

/-- A volume that is placed fits: its range ends within the group and is free, its name is free,
    and it is the one that was asked for. It may end at the very size of the group, one sector
    behind the last, which a partition on a disk may not. -/
theorem place_eq_ok {r : Request} {p : Partition} (h : g.place r = .ok p) :
    (r.first < r.last ∧ r.last ≤ g.sectors) ∧ g.volume? (g.chosenName r.name) = none ∧
      (∀ q ∈ g.partitions, ¬ q.Overlaps r.first r.last) ∧
      p = { r with name := some (g.chosenName r.name) }.build
        (g.volumePath (g.chosenName r.name)) g.nextNumber := by
  unfold place at h
  rcases bind_eq_ok_iff.mp h with ⟨_, hbounds, h⟩
  rcases bind_eq_ok_iff.mp h with ⟨_, hname, h⟩
  rcases bind_eq_ok_iff.mp h with ⟨_, hfree, h⟩
  -- The checks of bounds, of the name and of overlaps, each of which can end the placing.
  refine ⟨?_, ?_, ?_, (Except.ok.inj h).symm⟩
  · unfold checkBounds at hbounds
    split at hbounds
    · exact absurd hbounds (by simp only [reduceCtorEq, not_false_eq_true])
    · split at hbounds
      · exact absurd hbounds (by simp only [reduceCtorEq, not_false_eq_true])
      · omega
  · unfold checkName at hname
    split at hname
    · exact absurd hname (by simp only [reduceCtorEq, not_false_eq_true])
    · rename_i hfound
      simpa using hfound
  · unfold checkOverlap at hfree
    split at hfree
    · exact absurd hfree (by simp only [reduceCtorEq, not_false_eq_true])
    · rename_i hnone
      intro q hq
      simpa using List.find?_eq_none.mp hnone q hq

end VolumeGroup

namespace NewVolume

/-- The change that a logical volume makes to its group: it comes after the others, right behind
    the last one. Its size is counted from there, so it is one sector longer than that. -/
inductive Change : NewVolume → VolumeGroup → VolumeGroup → Prop
  | place {v : NewVolume} {g : VolumeGroup} {size : Int} {p : Partition}
      (hsize : g.resolve? v.size = .ok size)
      (hplace : g.place (v.request (firstSector g) (firstSector g + size)) = .ok p) :
      Change v g { g with partitions := g.partitions ++ [p] }

/-- The event that tells of a logical volume once it is placed. -/
def addedEvent (v : NewVolume) (g : VolumeGroup) (p : Partition) : Event :=
  .volumeAdded g.name (g.chosenName (some v.name)) p.first p.last

/-- A volume whose size resolves is added, and its mount point is told of before that. -/
theorem run_of_resolve {v : NewVolume} {g : VolumeGroup} {size : Int}
    (hsize : g.resolve? v.size = .ok size) :
    v.run g = ((g.add (v.request (firstSector g) (firstSector g + size))).andThen
      fun g _ => .done g ()).logging v.mounted := by
  unfold run
  rw [hsize]
  rfl

/-- A logical volume that is placed stays in its group. The answer is that to its event, as it is
    for a new partition. -/
theorem run_of_placed {v : NewVolume} {g : VolumeGroup} {size : Int} {p : Partition}
    (hsize : g.resolve? v.size = .ok size)
    (hplace : g.place (v.request (firstSector g) (firstSector g + size)) = .ok p) :
    (v.run g).state = { g with partitions := g.partitions ++ [p] } ∧
      (v.run g).answer =
        if (v.addedEvent g p).isWritable then .ok () else .error (.numeral .writing) := by
  rw [run_of_resolve hsize, VolumeGroup.add_of_placed hplace, Outcome.telling_andThen]
  change (Outcome.logging v.mounted (if (v.addedEvent g p).isWritable then _ else _)).state = _ ∧
    (Outcome.logging v.mounted (if (v.addedEvent g p).isWritable then _ else _)).answer = _
  split
  · exact ⟨rfl, rfl⟩
  · exact ⟨rfl, rfl⟩

/-- A logical volume is placed, or it is refused and its group stays as it was. A size that does
    not resolve is refused like a volume that does not fit. -/
theorem run_cases (v : NewVolume) (g : VolumeGroup) :
    (∃ size p, g.resolve? v.size = .ok size ∧
        g.place (v.request (firstSector g) (firstSector g + size)) = .ok p) ∨
      ((∃ f, (v.run g).answer = .error f) ∧ (v.run g).state = g) := by
  cases hsize : g.resolve? v.size with
  | error f =>
      unfold run
      rw [hsize]
      exact Or.inr ⟨⟨f, rfl⟩, rfl⟩
  | ok size =>
      cases hplace : g.place (v.request (firstSector g) (firstSector g + size)) with
      | error f =>
          rw [run_of_resolve hsize, VolumeGroup.add_of_refused hplace]
          exact Or.inr ⟨⟨f, rfl⟩, rfl⟩
      | ok p => exact Or.inl ⟨size, p, rfl, hplace⟩

/-- A group is changed by the volume that is placed, or stays as it was. -/
theorem run_changes (v : NewVolume) (g : VolumeGroup) :
    v.Change g (v.run g).state ∨ (v.run g).state = g := by
  rcases v.run_cases g with ⟨size, p, hsize, hplace⟩ | ⟨_, hstays⟩
  · rw [(run_of_placed hsize hplace).1]
    exact Or.inl (.place hsize hplace)
  · exact Or.inr hstays

/-- A volume that succeeds has been placed. -/
theorem change_of_ok {v : NewVolume} {g : VolumeGroup} (h : (v.run g).answer = .ok ()) :
    v.Change g (v.run g).state := by
  rcases v.run_cases g with ⟨size, p, hsize, hplace⟩ | ⟨⟨f, hf⟩, _⟩
  · rw [(run_of_placed hsize hplace).1]
    exact .place hsize hplace
  · rw [h] at hf
    exact absurd hf (by simp only [reduceCtorEq, not_false_eq_true])

end NewVolume

end DiskPlan
