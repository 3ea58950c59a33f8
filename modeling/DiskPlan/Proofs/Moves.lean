import DiskPlan.Proofs.Leftovers
import DiskPlan.Proofs.ModestTokens
import DiskPlan.Proofs.UsableSpace

/-!
# Moved Partitions

When a partition can be moved, and how far.

A move that gives both ends is two changes. The partition is shifted to its new start
with its old length, and then it is resized to its new end, and each of the two is
checked on its own. So it does not suffice that the range that was asked for is free: the
partition must fit in front of its new start with its old length, too, although it does
not stay there. A partition that is to become shorter on its way to the end of a disk, or
into a gap, can be refused for that.

The sectors kept free at the end of a disk bound what a position can stand for. A new end
that is given never lies behind them, but the end that a shift computes from the length is
only checked against the end of the disk. A move that gives nothing but a start can
therefore enter them, by as much as the partition is longer than what is left.

## Main definitions

* `DiskAction.Shifts`, `DiskAction.Resizes`: What the two halves of a move make of a
  partition.
* `DiskAction.moved`: What a move as a whole makes of a partition.
* `Topology.Moved`: A topology with one partition moved.
* `DiskAction.KeepsClear`: A move that leaves the end of its disk free.

## Theorems

* `Disk.move_eq_ok_iff`, `Disk.resize_eq_ok_iff`: A change is made if the new range fits
  and can be told of.
* `DiskAction.run_move_eq_ok_iff`: A move succeeds if both of its halves fit.
* `DiskAction.eq_moved`, `DiskAction.fits_of_moves`: Where a move leads.
* `DiskAction.keepsClear_iff`: Where a move ends.
* `applyToken_move_eq_ok_iff`: Which moves of both ends succeed.
* `applyToken_move_keepsClear_iff`: Which moves leave the end of a disk free.
* `applyToken_move_isMoved`: What a move that succeeds leaves of a topology.
-/

namespace DiskPlan

/-! ### The two changes -/

namespace Disk

variable {d : Disk} {number first last : Int} {before after : List Partition} {p : Partition}

theorem requirePartition_of_firstAt
    (hat : FirstAt (isNumbered number) d.partitions before p after) :
    d.requirePartition number = .ok p :=
  requirePartition_eq_ok_iff.mpr (partition?_eq_some_iff.mpr ⟨before, after, hat⟩)

/-- The two checks of a range say together that the range fits. The partition itself is left out
    of what is looked at, so its old range does not count. -/
theorem checks_eq_ok_iff (hat : FirstAt (isNumbered number) d.partitions before p after) :
    (d.checkBounds first last = .ok () ∧
      checkOverlap d.path (d.activeBesides number) first last = .ok ()) ↔
      d.Fits (before ++ after) first last := by
  rw [activeBesides_eq hat]
  constructor
  · rintro ⟨hbounds, hfree⟩
    exact fits_of_checks hbounds hfree
  · intro h
    refine ⟨checkBounds_eq_ok_iff.mpr ⟨h.lt, h.nonneg, h.bound⟩, ?_⟩
    refine checkOverlap_eq_ok_iff.mpr fun q hq => ?_
    rw [List.mem_filter, Bool.not_eq_true'] at hq
    exact h.free q hq.1 hq.2

theorem movedRange_eq_ok_iff (hat : FirstAt (isNumbered number) d.partitions before p after)
    {range : Int × Int} :
    -- The checks are made in a row, and the range is known from the start and the old length.
    d.movedRange number first = .ok range ↔
      range = (first, first + (p.last - p.first)) ∧
        d.Fits (before ++ after) first (first + (p.last - p.first)) := by
  rw [← checks_eq_ok_iff hat]
  unfold movedRange
  rw [requirePartition_of_firstAt hat]
  constructor
  · intro h
    rcases bind_eq_ok_iff.mp h with ⟨_, hp, h⟩
    obtain rfl := Except.ok.inj hp
    rcases bind_eq_ok_iff.mp h with ⟨_, hbounds, h⟩
    rcases bind_eq_ok_iff.mp h with ⟨_, hfree, h⟩
    exact ⟨(Except.ok.inj h).symm, hbounds, hfree⟩
  · rintro ⟨rfl, hbounds, hfree⟩
    refine bind_eq_ok_iff.mpr ⟨p, rfl, ?_⟩
    exact bind_eq_ok_iff.mpr ⟨(), hbounds, bind_eq_ok_iff.mpr ⟨(), hfree, rfl⟩⟩

theorem checkResize_eq_ok_iff (hat : FirstAt (isNumbered number) d.partitions before p after) :
    d.checkResize number last = .ok () ↔ d.Fits (before ++ after) p.first last := by
  rw [← checks_eq_ok_iff hat]
  unfold checkResize
  rw [requirePartition_of_firstAt hat]
  constructor
  · intro h
    rcases bind_eq_ok_iff.mp h with ⟨_, hp, h⟩
    obtain rfl := Except.ok.inj hp
    rcases bind_eq_ok_iff.mp h with ⟨_, hbounds, hfree⟩
    exact ⟨hbounds, hfree⟩
  · rintro ⟨hbounds, hfree⟩
    exact bind_eq_ok_iff.mpr ⟨p, rfl, bind_eq_ok_iff.mpr ⟨(), hbounds, hfree⟩⟩

/-- A partition is shifted exactly if its range fits at the new start and the log can tell of it.
    The log comes first, so an event that cannot be written leaves the partition where it was. -/
theorem move_eq_ok_iff (hat : FirstAt (isNumbered number) d.partitions before p after) :
    (d.move number first).answer = .ok () ↔
      d.Fits (before ++ after) first (first + (p.last - p.first)) ∧
        (Event.partitionMoved d.path number first (first + (p.last - p.first))).isWritable =
          true := by
  unfold move
  cases hrange : d.movedRange number first with
  | error f =>
      refine iff_of_false (by simp [Outcome.fail]) fun h => ?_
      have hok := (movedRange_eq_ok_iff hat).mpr ⟨rfl, h.1⟩
      rw [hrange] at hok
      exact absurd hok (by simp)
  | ok range =>
      rcases (movedRange_eq_ok_iff hat).mp hrange with ⟨rfl, hfits⟩
      refine Iff.trans ?_ (and_iff_right hfits).symm
      rw [Outcome.andThen_unit_eq_ok_iff, Outcome.telling_answer_eq_ok_iff]
      exact (and_iff_left rfl).trans (and_iff_left rfl)

theorem move_state_of_fits (hat : FirstAt (isNumbered number) d.partitions before p after)
    (hfits : d.Fits (before ++ after) first (first + (p.last - p.first)))
    (htold : (Event.partitionMoved d.path number first
      (first + (p.last - p.first))).isWritable = true) :
    (d.move number first).state =
      { d with partitions :=
          before ++ { p with first := first, last := first + (p.last - p.first) } :: after } := by
  unfold move
  rw [(movedRange_eq_ok_iff hat).mpr ⟨rfl, hfits⟩]
  dsimp only
  rw [Outcome.telling_of_isWritable htold]
  exact updatePartition_eq hat _

/-- A partition is resized exactly if its range fits with the new end and the log can tell of it.
    The start does not have to be written for that. -/
theorem resize_eq_ok_iff (hat : FirstAt (isNumbered number) d.partitions before p after) :
    (d.resize number last).answer = .ok () ↔
      d.Fits (before ++ after) p.first last ∧
        (Event.partitionResized d.path number last).isWritable = true := by
  rw [← checkResize_eq_ok_iff hat]
  unfold resize
  cases d.checkResize number last with
  | error f => simp [Outcome.fail]
  | ok _ =>
      refine Iff.trans ?_ (and_iff_right rfl).symm
      rw [Outcome.andThen_unit_eq_ok_iff, Outcome.telling_answer_eq_ok_iff]
      exact (and_iff_left rfl).trans (and_iff_left rfl)

theorem resize_state_of_fits (hat : FirstAt (isNumbered number) d.partitions before p after)
    (hfits : d.Fits (before ++ after) p.first last)
    (htold : (Event.partitionResized d.path number last).isWritable = true) :
    (d.resize number last).state =
      { d with partitions := before ++ { p with last := last } :: after } := by
  unfold resize
  rw [(checkResize_eq_ok_iff hat).mpr hfits]
  dsimp only
  rw [Outcome.telling_of_isWritable htold]
  exact updatePartition_eq hat _

/-- Whether a range fits depends on the size of a disk and on the other partitions, so a change
    of the partition itself makes no difference. -/
theorem fits_withPartitions_iff (d : Disk) (partitions others : List Partition) (first last : Int) :
    ({ d with partitions := partitions } : Disk).Fits others first last ↔
      d.Fits others first last := by
  constructor
  · exact fun h => ⟨h.lt, h.nonneg, h.bound, h.free⟩
  · exact fun h => ⟨h.lt, h.nonneg, h.bound, h.free⟩

end Disk

/-! ### Moves -/

namespace DiskAction

/-- What the first half of a move makes of a partition: nothing without a new start, and
    otherwise the partition shifted there, if there is room for it besides the others and the log
    can tell of it. The length stays, even if a new end is to follow. -/
inductive Shifts (d : Disk) (others : List Partition) (p : Partition) :
    Option Position → Partition → Prop
  | kept : Shifts d others p none p
  | shifted {position : Position} {first : Int} (hfirst : d.resolve? position = .ok first)
      (hfits : d.Fits others first (first + (p.last - p.first)))
      (htold : (Event.partitionMoved d.path p.number first
        (first + (p.last - p.first))).isWritable = true) :
      Shifts d others p (some position)
        { p with first := first, last := first + (p.last - p.first) }

/-- What the second half of a move makes of a partition: nothing without a new end, and
    otherwise the partition resized to it, if there is room for it besides the others and the
    log can tell of it. -/
inductive Resizes (d : Disk) (others : List Partition) (p : Partition) :
    Option Position → Partition → Prop
  | kept : Resizes d others p none p
  | resized {position : Position} {last : Int} (hlast : d.resolve? position = .ok last)
      (hfits : d.Fits others p.first last)
      (htold : (Event.partitionResized d.path p.number last).isWritable = true) :
      Resizes d others p (some position) { p with last := last }

variable {d : Disk} {number : Nat} {first? last? : Option Position}
  {before after : List Partition} {p q r : Partition}

/-- What a new start makes of a partition whose number can be written. It is the new end alone
    that can be too long for the log, as the new start lies between it and zero. -/
theorem shifts_some_iff {others : List Partition} {position : Position} {first : Int}
    (hnumber : Decimal.isWritable p.number = true) (hfirst : d.resolve? position = .ok first) :
    Shifts d others p (some position) q ↔
      q = { p with first := first, last := first + (p.last - p.first) } ∧
        d.Fits others first (first + (p.last - p.first)) ∧
        Decimal.isWritable (first + (p.last - p.first)) = true := by
  constructor
  · intro hq
    cases hq with
    | shifted hfirst' hfits htold =>
        -- A position stands for one sector of the disk.
        obtain rfl := Except.ok.inj (hfirst.symm.trans hfirst')
        exact ⟨rfl, hfits, (Event.isWritable_partitionMoved_iff.mp htold).2.2⟩
  · rintro ⟨rfl, hfits, hend⟩
    exact .shifted hfirst hfits (Event.isWritable_partitionMoved_iff.mpr
      ⟨hnumber, hfits.isWritable_first hend, hend⟩)

/-- What a new end makes of a partition whose number can be written. -/
theorem resizes_some_iff {others : List Partition} {position : Position} {last : Int}
    (hnumber : Decimal.isWritable p.number = true) (hlast : d.resolve? position = .ok last) :
    Resizes d others p (some position) q ↔
      q = { p with last := last } ∧ d.Fits others p.first last ∧
        Decimal.isWritable last = true := by
  constructor
  · intro hq
    cases hq with
    | resized hlast' hfits htold =>
        obtain rfl := Except.ok.inj (hlast.symm.trans hlast')
        exact ⟨rfl, hfits, (Event.isWritable_partitionResized_iff.mp htold).2⟩
  · rintro ⟨rfl, hfits, hend⟩
    exact .resized hlast hfits (Event.isWritable_partitionResized_iff.mpr ⟨hnumber, hend⟩)

theorem moveTo_eq_ok_iff (hat : FirstAt (Disk.isNumbered number) d.partitions before p after) :
    (moveTo d number first?).answer = .ok () ↔ ∃ q, Shifts d (before ++ after) p first? q := by
  cases first? with
  | none => exact iff_of_true rfl ⟨p, .kept⟩
  | some position =>
      -- The partition has the number that it was looked for by, which is the one in the event.
      have hnumber : p.number = number := eq_of_beq hat.holds
      rw [moveTo, Outcome.andThen_eq_ok_iff]
      constructor
      · rintro ⟨first, hfirst, hmove⟩
        rcases (Disk.move_eq_ok_iff hat).mp hmove with ⟨hfits, htold⟩
        exact ⟨_, .shifted hfirst hfits (hnumber ▸ htold)⟩
      · rintro ⟨_, hshift⟩
        cases hshift with
        | shifted hfirst hfits htold =>
            exact ⟨_, hfirst, (Disk.move_eq_ok_iff hat).mpr ⟨hfits, hnumber ▸ htold⟩⟩

theorem moveTo_state_of_shifts
    (hat : FirstAt (Disk.isNumbered number) d.partitions before p after)
    (h : Shifts d (before ++ after) p first? q) :
    (moveTo d number first?).state = { d with partitions := before ++ q :: after } := by
  cases h with
  | kept =>
      rw [← hat.split]
      rfl
  | shifted hfirst hfits htold =>
      have hnumber : p.number = number := eq_of_beq hat.holds
      rw [moveTo, Outcome.andThen_state_of_ok hfirst]
      exact Disk.move_state_of_fits hat hfits (hnumber ▸ htold)

theorem resizeTo_eq_ok_iff (hat : FirstAt (Disk.isNumbered number) d.partitions before p after) :
    (resizeTo d number last?).answer = .ok () ↔ ∃ q, Resizes d (before ++ after) p last? q := by
  cases last? with
  | none => exact iff_of_true rfl ⟨p, .kept⟩
  | some position =>
      have hnumber : p.number = number := eq_of_beq hat.holds
      rw [resizeTo, Outcome.andThen_eq_ok_iff]
      constructor
      · rintro ⟨last, hlast, hresize⟩
        rcases (Disk.resize_eq_ok_iff hat).mp hresize with ⟨hfits, htold⟩
        exact ⟨_, .resized hlast hfits (hnumber ▸ htold)⟩
      · rintro ⟨_, hresize⟩
        cases hresize with
        | resized hlast hfits htold =>
            exact ⟨_, hlast, (Disk.resize_eq_ok_iff hat).mpr ⟨hfits, hnumber ▸ htold⟩⟩

theorem resizeTo_state_of_resizes
    (hat : FirstAt (Disk.isNumbered number) d.partitions before p after)
    (h : Resizes d (before ++ after) p last? q) :
    (resizeTo d number last?).state = { d with partitions := before ++ q :: after } := by
  cases h with
  | kept =>
      rw [← hat.split]
      rfl
  | resized hlast hfits htold =>
      have hnumber : p.number = number := eq_of_beq hat.holds
      rw [resizeTo, Outcome.andThen_state_of_ok hlast]
      exact Disk.resize_state_of_fits hat hfits (hnumber ▸ htold)

/-- The second half of a move does not depend on what the first half has made of the disk besides
    the partition, so both halves can be judged on the disk as it was. -/
theorem resizes_withPartitions_iff {partitions others : List Partition} :
    Resizes { d with partitions := partitions } others q last? r ↔ Resizes d others q last? r := by
  constructor
  · intro h
    cases h with
    | kept => exact .kept
    | resized hlast hfits htold =>
        exact .resized hlast ((d.fits_withPartitions_iff _ _ _ _).mp hfits) htold
  · intro h
    cases h with
    | kept => exact .kept
    | resized hlast hfits htold =>
        exact .resized hlast ((d.fits_withPartitions_iff _ _ _ _).mpr hfits) htold

/-- Where the first half of a move leaves the partition, for the second half to find: in its
    place, under its number. -/
theorem firstAt_of_shifts (hat : FirstAt (Disk.isNumbered number) d.partitions before p after)
    (h : Shifts d (before ++ after) p first? q) :
    FirstAt (Disk.isNumbered number)
      ({ d with partitions := before ++ q :: after } : Disk).partitions before q after := by
  refine hat.exchange ?_
  -- A shift leaves the number alone.
  cases h with
  | kept => exact hat.holds
  | shifted _ _ _ => exact hat.holds

/-- A move succeeds exactly if there is room for the partition after each of its halves. Both are
    checked, although only the range after the second one is to stay. -/
theorem run_move_eq_ok_iff (hat : FirstAt (Disk.isNumbered number) d.partitions before p after) :
    (run (.move number first? last?) d).answer = .ok () ↔
      ∃ q r, Shifts d (before ++ after) p first? q ∧ Resizes d (before ++ after) q last? r := by
  rw [run, Outcome.andThen_unit_eq_ok_iff, Disk.requirePartition_of_firstAt hat]
  change (moveTo d number first?).answer = .ok () ∧
    (resizeTo (moveTo d number first?).state number last?).answer = .ok () ↔ _
  constructor
  · -- The first half decides on which disk the second one works.
    rintro ⟨hfirst, hlast⟩
    rcases (moveTo_eq_ok_iff hat).mp hfirst with ⟨q, hq⟩
    rw [moveTo_state_of_shifts hat hq] at hlast
    rcases (resizeTo_eq_ok_iff (firstAt_of_shifts hat hq)).mp hlast with ⟨r, hr⟩
    exact ⟨q, r, hq, resizes_withPartitions_iff.mp hr⟩
  · rintro ⟨q, r, hq, hr⟩
    refine ⟨(moveTo_eq_ok_iff hat).mpr ⟨q, hq⟩, ?_⟩
    rw [moveTo_state_of_shifts hat hq]
    exact (resizeTo_eq_ok_iff (firstAt_of_shifts hat hq)).mpr
      ⟨r, resizes_withPartitions_iff.mpr hr⟩

theorem run_move_state (hat : FirstAt (Disk.isNumbered number) d.partitions before p after)
    (hq : Shifts d (before ++ after) p first? q) (hr : Resizes d (before ++ after) q last? r) :
    (run (.move number first? last?) d).state =
      { d with partitions := before ++ r :: after } := by
  have hfirst := (moveTo_eq_ok_iff hat).mpr ⟨q, hq⟩
  rw [run, Disk.requirePartition_of_firstAt hat]
  change ((moveTo d number first?).andThen fun d _ => resizeTo d number last?).state = _
  rw [Outcome.andThen_state_of_ok hfirst, moveTo_state_of_shifts hat hq]
  exact resizeTo_state_of_resizes (firstAt_of_shifts hat hq) (resizes_withPartitions_iff.mpr hr)

end DiskAction

/-! ### Where a move leads -/

namespace DiskAction

/-- What a move makes of a partition. It begins at the new start and ends at the new end, as
    far as they are given. Without a new end it has its old length behind a new start. -/
def moved (d : Disk) (p : Partition) : Option Position → Option Position → Partition
  | none, none => p
  | some first, none =>
    { p with first := d.sectorAt first, last := d.sectorAt first + (p.last - p.first) }
  | none, some last => { p with last := d.sectorAt last }
  | some first, some last => { p with first := d.sectorAt first, last := d.sectorAt last }

variable {d : Disk} {number : Nat} {others : List Partition} {first? last? : Option Position}
  {p q r : Partition}

/-- Both halves of a move together. The length that the first half keeps does not show if there
    is a second half. -/
theorem eq_moved (hsize : 0 < d.sectorSize) (hq : Shifts d others p first? q)
    (hr : Resizes d others q last? r) : r = moved d p first? last? := by
  -- On a disk with sectors of some size every position stands for one sector.
  have hsector : ∀ {position sector}, d.resolve? position = .ok sector →
      sector = d.sectorAt position := fun h =>
    (Except.ok.inj ((Disk.resolve?_eq_sectorAt hsize _).symm.trans h)).symm
  cases hq with
  | kept =>
      cases hr with
      | kept => rfl
      | resized hlast _ _ =>
          obtain rfl := hsector hlast
          rfl
  | shifted hfirst _ _ =>
      obtain rfl := hsector hfirst
      cases hr with
      | kept => rfl
      | resized hlast _ _ =>
          obtain rfl := hsector hlast
          rfl

/-- A partition that is moved at all fits where it is in the end, be it the first or the second
    half that has brought it there. -/
theorem fits_of_moves (hq : Shifts d others p first? q) (hr : Resizes d others q last? r)
    (hgiven : first? ≠ none ∨ last? ≠ none) : d.Fits others r.first r.last := by
  cases hr with
  | resized _ hfits _ => exact hfits
  | kept =>
      cases hq with
      | shifted _ hfits _ => exact hfits
      | kept => exact absurd hgiven (by simp)

theorem exists_firstAt_of_run_move
    (hok : (run (.move number first? last?) d).answer = .ok ()) :
    ∃ before p after, FirstAt (Disk.isNumbered number) d.partitions before p after := by
  rw [run] at hok
  rcases Outcome.andThen_unit_eq_ok_iff.mp hok with ⟨hfirst, _⟩
  rcases Outcome.andThen_eq_ok_iff.mp hfirst with ⟨p, hp, _⟩
  rcases Disk.partition?_eq_some_iff.mp (Disk.requirePartition_eq_ok_iff.mp hp) with
    ⟨before, after, hat⟩
  exact ⟨before, p, after, hat⟩

/-- A move that gives neither end looks its partition up, and that is all. It still fails for a
    partition that is not there. -/
theorem run_move_none (number : Nat) (d : Disk) :
    (run (.move number none none) d).state = d ∧
      ((run (.move number none none) d).answer = .ok () ↔ ∃ p, d.partition? number = some p) := by
  rw [run]
  cases hp : d.requirePartition number with
  | error f =>
      refine ⟨rfl, iff_of_false (by simp [Outcome.ofExcept, Outcome.andThen]) ?_⟩
      rintro ⟨p, hfound⟩
      rw [Disk.requirePartition_eq_ok_iff.mpr hfound] at hp
      exact absurd hp (by simp)
  | ok p => exact ⟨rfl, iff_of_true rfl ⟨p, Disk.requirePartition_eq_ok_iff.mp hp⟩⟩

end DiskAction

/-- A topology in which the partition of a number, on the disk of a name, is where a move leads,
    and fits there if it was to be moved at all. All other partitions and disks are as before. -/
inductive Topology.Moved (t : Topology) (name : String) (number : Nat)
    (first? last? : Option Position) : Topology → Prop
  | intro {front back : List Disk} {d : Disk} {before after : List Partition} {p q : Partition}
      (hdisk : FirstAt (fun d => d.isNamed name) t.disks front d back)
      (hpartition : FirstAt (Disk.isNumbered number) d.partitions before p after)
      (hmoved : q = DiskAction.moved d p first? last?)
      (hfits : first? ≠ none ∨ last? ≠ none → d.Fits (before ++ after) q.first q.last) :
      Moved t name number first? last?
        { t with disks := front ++ { d with partitions := before ++ q :: after } :: back }

/-! ### The end of a disk -/

namespace DiskAction

variable {d : Disk} {reserved : Int} {others : List Partition} {first? last? : Option Position}
  {p q r : Partition}

/-- Moves that leave the last `reserved` sectors of a disk free of a partition that was not there
    before. A new end is enough for that if the disk has so many sectors at both of its ends,
    since it is clamped. Without one the length of the partition decides. -/
def KeepsClear (d : Disk) (reserved : Int) (p : Partition) :
    Option Position → Option Position → Prop
  | none, none => True
  | some position, none =>
    ∀ first, d.resolve? position = .ok first → first + (p.last - p.first) ≤ d.sectors - reserved
  | _, some _ => 2 * reserved ≤ d.sectors

theorem keepsClear_iff (hreserved : d.reserved? = .ok reserved)
    (hclear : p.last ≤ d.sectors - reserved) (hq : Shifts d others p first? q)
    (hr : Resizes d others q last? r) :
    r.last ≤ d.sectors - reserved ↔ KeepsClear d reserved p first? last? := by
  -- Without a new end it is the first half that decides, and only it is bounded by the disk.
  cases hr with
  | kept =>
      cases hq with
      | kept => exact iff_of_true hclear trivial
      | shifted hfirst _ _ =>
          constructor
          · intro h first hfirst'
            obtain rfl := Except.ok.inj (hfirst.symm.trans hfirst')
            exact h
          · exact fun h => h _ hfirst
  | @resized position last hlast _ _ =>
      have hkeeps : KeepsClear d reserved p first? (some position) ↔ 2 * reserved ≤ d.sectors := by
        cases first? <;> rfl
      -- The new end is a position, whatever became of the start.
      have hbounds := Disk.resolve?_bounds hreserved hlast
      unfold Position.limit at hbounds
      rw [hkeeps]
      dsimp only
      omega

end DiskAction

/-! ### Tokens -/

section Tokens

variable {token name : String} {number : Nat} {t : Topology} {front back : List Disk} {d : Disk}
  {before after : List Partition} {p : Partition}

/-- A token that gives a partition a new start and a new end is carried out exactly if the
    partition fits at the new start with its old length, and in the new range, and if both of
    its ends there can be written for the log to tell of them. On a disk whose sectors can be
    written this is so wherever the partition fits. -/
theorem applyToken_move_eq_ok_iff {newFirst newLast : Position} {first last : Int}
    (hparse : Operation.parse .move token =
      .ok (.onDisk name (.move number (some newFirst) (some newLast))))
    (hdisk : FirstAt (fun d => d.isNamed name) t.disks front d back)
    (hpartition : FirstAt (Disk.isNumbered number) d.partitions before p after)
    (hfirst : d.resolve? newFirst = .ok first) (hlast : d.resolve? newLast = .ok last) :
    ((applyToken .move token t).answer = .ok () ↔
      (d.Fits (before ++ after) first (first + (p.last - p.first)) ∧
        d.Fits (before ++ after) first last) ∧
      Decimal.isWritable (first + (p.last - p.first)) = true ∧ Decimal.isWritable last = true) ∧
    (Decimal.isWritable d.sectors = true →
      ((applyToken .move token t).answer = .ok () ↔
        d.Fits (before ++ after) first (first + (p.last - p.first)) ∧
          d.Fits (before ++ after) first last)) ∧
    ((applyToken .move token t).answer = .ok () →
      (applyToken .move token t).state =
        { t with disks :=
            front ++ { d with partitions :=
              before ++ { p with first := first, last := last } :: after } :: back }) := by
  rcases applyToken_onDisk_of_firstAt hparse hdisk with ⟨hanswer, hstate⟩
  -- The number is that of the token, and so it is not too long.
  have hnumber : Decimal.isWritable p.number = true := by
    rw [show p.number = number from eq_of_beq hpartition.holds]
    exact Operation.isWritable_of_read (mapError_eq_ok_iff.mp hparse) _ List.mem_cons_self
  -- Between the two halves it is as long as before.
  let shifted : Partition := { p with first := first, last := first + (p.last - p.first) }
  have hiff : (applyToken .move token t).answer = .ok () ↔
      (d.Fits (before ++ after) first (first + (p.last - p.first)) ∧
        d.Fits (before ++ after) first last) ∧
      Decimal.isWritable (first + (p.last - p.first)) = true ∧
        Decimal.isWritable last = true := by
    rw [hanswer, DiskAction.run_move_eq_ok_iff hpartition]
    constructor
    · -- There is one way only for each of the two halves to go.
      rintro ⟨q, r, hq, hr⟩
      rcases (DiskAction.shifts_some_iff hnumber hfirst).mp hq with ⟨rfl, hfits, hend⟩
      have hresized := (DiskAction.resizes_some_iff (p := shifted) hnumber hlast).mp hr
      rcases hresized with ⟨_, hfits', hend'⟩
      exact ⟨⟨hfits, hfits'⟩, hend, hend'⟩
    · rintro ⟨⟨hfits, hfits'⟩, hend, hend'⟩
      exact ⟨shifted, _, (DiskAction.shifts_some_iff hnumber hfirst).mpr ⟨rfl, hfits, hend⟩,
        (DiskAction.resizes_some_iff (p := shifted) hnumber hlast).mpr ⟨rfl, hfits', hend'⟩⟩
  refine ⟨hiff, fun hsectors => ?_, fun hok => ?_⟩
  · -- The ends are on the disk, so they can be written if its sectors can.
    rw [hiff, and_iff_left_iff_imp]
    rintro ⟨hfits, hfits'⟩
    exact ⟨hfits.isWritable_last hsectors, hfits'.isWritable_last hsectors⟩
  · rcases hiff.mp hok with ⟨⟨hfits, hfits'⟩, hend, hend'⟩
    have hq := (DiskAction.shifts_some_iff hnumber hfirst).mpr ⟨rfl, hfits, hend⟩
    have hr := (DiskAction.resizes_some_iff (p := shifted) hnumber hlast).mpr
      ⟨rfl, hfits', hend'⟩
    rw [hstate, DiskAction.run_move_state hpartition hq hr]

/-- A partition is made shorter and brought in front of its neighbour. With its old length it
    would overlap the neighbour. -/
theorem not_moved_ofThree :
    let t : Topology := ⟨[.ofThree], []⟩
    let p := Partition.found 2 6000 6999
    let others := [Partition.found 1 5000 5999, .found 3 8000 8999]
    Operation.parse .move "sda:2:7400:7800" =
        .ok (.onDisk "sda" (.move 2 (some (.sector 7400)) (some (.sector 7800)))) ∧
      t.disk? "sda" = some .ofThree ∧ Disk.ofThree.partition? 2 = some p ∧ p.removed = false ∧
      Disk.ofThree.resolve? (.sector 7400) = .ok 7400 ∧
      Disk.ofThree.resolve? (.sector 7800) = .ok 7800 ∧
      Disk.ofThree.activeBesides 2 = others ∧ Disk.ofThree.Fits others 7400 7800 ∧
      (applyToken .move "sda:2:7400:7800" t).answer =
        .error (.ofDisk (.sectorOverlaps "/dev/sda" 3)) := by
  intro t p others
  have hfree : ∀ q ∈ others, ¬ q.Overlaps 7400 7800 := by decide
  have hfits : Disk.ofThree.Fits others 7400 7800 :=
    ⟨by decide, by decide, by decide, fun q hq _ => hfree q hq⟩
  exact ⟨by decide +kernel, by decide +kernel, by decide, rfl, by decide, by decide, by decide,
    hfits, by decide +kernel⟩

/-- A partition is moved one gap further and made shorter. -/
theorem applyToken_move_eq_ok_iff_ofThree :
    let t : Topology := ⟨[.ofThree], []⟩
    let moved := applyToken .move "sda:2:7000:7900" t
    Disk.ofThree.Fits [.found 1 5000 5999, .found 3 8000 8999] 7000 7999 ∧
      Disk.ofThree.Fits [.found 1 5000 5999, .found 3 8000 8999] 7000 7900 ∧
      moved.answer = .ok () ∧
      moved.state = ⟨[{ Disk.ofThree with
        partitions := [.found 1 5000 5999, .found 2 7000 7900, .found 3 8000 8999] }], []⟩ := by
  intro t moved
  have hfree : ∀ q ∈ [Partition.found 1 5000 5999, .found 3 8000 8999], ¬ q.Overlaps 7000 7999 := by
    decide
  have hfree' : ∀ q ∈ [Partition.found 1 5000 5999, .found 3 8000 8999],
      ¬ q.Overlaps 7000 7900 := by
    decide
  have hfits : Disk.ofThree.Fits [.found 1 5000 5999, .found 3 8000 8999] 7000 7999 :=
    ⟨by decide, by decide, by decide, fun q hq _ => hfree q hq⟩
  have hfits' : Disk.ofThree.Fits [.found 1 5000 5999, .found 3 8000 8999] 7000 7900 :=
    ⟨by decide, by decide, by decide, fun q hq _ => hfree' q hq⟩
  have hparse : Operation.parse .move "sda:2:7000:7900" =
      .ok (.onDisk "sda" (.move 2 (some (.sector 7000)) (some (.sector 7900)))) := by
    decide +kernel
  have hdisk : FirstAt (fun d => d.isNamed "sda") t.disks [] .ofThree [] :=
    ⟨rfl, by decide, by decide⟩
  have hpartition : FirstAt (Disk.isNumbered (2 : Nat)) Disk.ofThree.partitions
      [.found 1 5000 5999] (.found 2 6000 6999) [.found 3 8000 8999] :=
    ⟨rfl, by decide, by decide⟩
  have hfirst : Disk.ofThree.resolve? (.sector 7000) = .ok 7000 := by decide
  have hlast : Disk.ofThree.resolve? (.sector 7900) = .ok 7900 := by decide
  have hsectors : Decimal.isWritable Disk.ofThree.sectors = true := by decide +kernel
  have hmoves := applyToken_move_eq_ok_iff hparse hdisk hpartition hfirst hlast
  have hok := (hmoves.2.1 hsectors).mpr ⟨hfits, hfits'⟩
  exact ⟨hfits, hfits', hok, hmoves.2.2 hok⟩

/-- A token that moves a partition in front of the sectors kept free at the end of its disk
    leaves them free exactly if it gives no start, gives an end and the disk has room between
    its ends, or leads to a place from which the length of the partition does not reach them. -/
theorem applyToken_move_keepsClear_iff {first? last? : Option Position} {reserved : Int}
    (hparse : Operation.parse .move token = .ok (.onDisk name (.move number first? last?)))
    (hdisk : FirstAt (fun d => d.isNamed name) t.disks front d back)
    (hpartition : FirstAt (Disk.isNumbered number) d.partitions before p after)
    (hreserved : d.reserved? = .ok reserved) (hclear : p.last ≤ d.sectors - reserved)
    (hok : (applyToken .move token t).answer = .ok ()) :
    ∃ q : Partition, (applyToken .move token t).state =
        { t with disks :=
            front ++ { d with partitions := before ++ q :: after } :: back } ∧
      (q.last ≤ d.sectors - reserved ↔ DiskAction.KeepsClear d reserved p first? last?) := by
  rcases applyToken_onDisk_of_firstAt hparse hdisk with ⟨hanswer, hstate⟩
  rcases (DiskAction.run_move_eq_ok_iff hpartition).mp (hanswer.mp hok) with ⟨q, r, hq, hr⟩
  refine ⟨r, ?_, DiskAction.keepsClear_iff hreserved hclear hq hr⟩
  rw [hstate, DiskAction.run_move_state hpartition hq hr]

/-- A partition is moved far to the back, its length kept. It ends among the last 4096
    sectors, where it has not been before. -/
theorem not_clear_ofThree :
    let t : Topology := ⟨[.ofThree], []⟩
    let moved := applyToken .move "sda:3:15500:none" t
    t.disk? "sda" = some .ofThree ∧ Disk.ofThree.partition? 3 = some (.found 3 8000 8999) ∧
      Disk.ofThree.reserved? = .ok 4096 ∧
      (Partition.found 3 8000 8999).last ≤ Disk.ofThree.sectors - 4096 ∧
      moved.answer = .ok () ∧
      moved.state = ⟨[{ Disk.ofThree with
        partitions := [.found 1 5000 5999, .found 2 6000 6999, .found 3 15500 16499] }], []⟩ ∧
      ¬ (Partition.found 3 15500 16499).last ≤ Disk.ofThree.sectors - 4096 := by
  intro t moved
  exact ⟨by decide +kernel, by decide, by decide, by decide, by decide +kernel, by decide +kernel,
    by decide⟩

/-- The move that ends too far back is the one that does not keep clear. -/
theorem applyToken_move_keepsClear_iff_ofThree :
    let t : Topology := ⟨[.ofThree], []⟩
    let moved := applyToken .move "sda:3:15500:none" t
    moved.answer = .ok () ∧
      ¬ DiskAction.KeepsClear .ofThree 4096 (.found 3 8000 8999) (some (.sector 15500)) none ∧
      ∃ q : Partition, moved.state = ⟨[{ Disk.ofThree with
        partitions := [.found 1 5000 5999, .found 2 6000 6999, q] }], []⟩ ∧
        ¬ q.last ≤ Disk.ofThree.sectors - 4096 := by
  intro t moved
  have hok : moved.answer = .ok () := by decide +kernel
  have hkeeps : ¬ DiskAction.KeepsClear .ofThree 4096 (.found 3 8000 8999)
      (some (.sector 15500)) none := by
    intro h
    exact absurd (h 15500 (by decide)) (by decide)
  have hparse : Operation.parse .move "sda:3:15500:none" =
      .ok (.onDisk "sda" (.move 3 (some (.sector 15500)) none)) := by
    decide +kernel
  have hdisk : FirstAt (fun d => d.isNamed "sda") t.disks [] .ofThree [] :=
    ⟨rfl, by decide, by decide⟩
  have hpartition : FirstAt (Disk.isNumbered (3 : Nat)) Disk.ofThree.partitions
      [.found 1 5000 5999, .found 2 6000 6999] (.found 3 8000 8999) [] :=
    ⟨rfl, by decide, by decide⟩
  have hreserved : Disk.ofThree.reserved? = .ok 4096 := by decide
  rcases applyToken_move_keepsClear_iff hparse hdisk hpartition hreserved (by decide) hok with
    ⟨q, hstate, hiff⟩
  exact ⟨hok, hkeeps, q, hstate, fun h => hkeeps (hiff.mp h)⟩

/-- A move that succeeds leaves its partition where it leads, and everything else as it was.
    A move that gives neither end changes nothing, and succeeds exactly if there is a
    partition that it could have moved. -/
theorem applyToken_move_isMoved (hsizes : ∀ d ∈ t.disks, 0 < d.sectorSize) (token : String) :
    ((applyToken .move token t).answer = .ok () → ∃ name number first? last?,
      Operation.parse .move token = .ok (.onDisk name (.move number first? last?)) ∧
        t.Moved name number first? last? (applyToken .move token t).state) ∧
    ∀ name number, Operation.parse .move token = .ok (.onDisk name (.move number none none)) →
      ((applyToken .move token t).answer = .ok () ↔
        ∃ d p, t.disk? name = some d ∧ d.partition? number = some p) ∧
      (applyToken .move token t).state = t := by
  refine ⟨fun hok => ?_, fun name number hparse => ⟨?_, ?_⟩⟩
  · -- A token that is carried out has been read, and what it asks for is a move.
    rcases read_of_applyToken hok with ⟨op, hread⟩
    have hparse : Operation.parse .move token = .ok op := mapError_eq_ok_iff.mpr hread
    cases Operation.asked_of_read hread with
    | move name number first? last? =>
        rcases (applyToken_onDisk_eq_ok_iff hparse).mp hok with ⟨front, d, back, hdisk, hrun⟩
        rcases DiskAction.exists_firstAt_of_run_move hrun with ⟨before, p, after, hpartition⟩
        rcases (DiskAction.run_move_eq_ok_iff hpartition).mp hrun with ⟨q, r, hq, hr⟩
        have hsize : 0 < d.sectorSize := hsizes d (by rw [hdisk.split]; simp)
        refine ⟨name, number, first?, last?, hparse, ?_⟩
        rw [(applyToken_onDisk_of_firstAt hparse hdisk).2,
          DiskAction.run_move_state hpartition hq hr]
        exact .intro hdisk hpartition (DiskAction.eq_moved hsize hq hr)
          (DiskAction.fits_of_moves hq hr)
  · rw [applyToken_onDisk_eq_ok_iff hparse]
    constructor
    · rintro ⟨front, d, back, hdisk, hrun⟩
      rcases (DiskAction.run_move_none number d).2.mp hrun with ⟨p, hp⟩
      exact ⟨d, p, find?_eq_some_iff_firstAt.mpr ⟨front, back, hdisk⟩, hp⟩
    · rintro ⟨d, p, hdisk, hp⟩
      rcases find?_eq_some_iff_firstAt.mp hdisk with ⟨front, back, hdisk⟩
      exact ⟨front, d, back, hdisk, (DiskAction.run_move_none number d).2.mpr ⟨p, hp⟩⟩
  · cases hdisk : t.disk? name with
    | none =>
        rw [applyToken_state_of_ok (mapError_eq_ok_iff.mp hparse)]
        exact (Operation.run_onDisk_of_none hdisk _).1
    | some d =>
        rcases find?_eq_some_iff_firstAt.mp hdisk with ⟨front, back, hdisk⟩
        rw [(applyToken_onDisk_of_firstAt hparse hdisk).2, (DiskAction.run_move_none number d).1,
          ← hdisk.split]

/-- Two partitions have one number, and the first of them gets a new end. A third one is to
    be left where it is, but there is none. -/
theorem applyToken_move_isMoved_ofRepeated :
    let d : Disk := { Disk.ofThree with
      partitions := [.found 1 5000 5999, .found 2 6000 6999, .found 2 8000 8999] }
    let t : Topology := ⟨[d], []⟩
    let moved := applyToken .move "sda:2:none:7500" t
    let kept := applyToken .move "sda:3:none:none" t
    (∀ d ∈ t.disks, 0 < d.sectorSize) ∧ moved.answer = .ok () ∧
      (∃ name number first? last?,
        Operation.parse .move "sda:2:none:7500" =
            .ok (.onDisk name (.move number first? last?)) ∧
          t.Moved name number first? last? moved.state) ∧
      moved.state = ⟨[{ d with
        partitions := [.found 1 5000 5999, .found 2 6000 7500, .found 2 8000 8999] }], []⟩ ∧
      kept.answer ≠ .ok () ∧ kept.state = t := by
  intro d t moved kept
  have hsizes : ∀ d ∈ t.disks, 0 < d.sectorSize := List.forall_mem_singleton.mpr (by decide)
  have hok : moved.answer = .ok () := by decide +kernel
  have hparse : Operation.parse .move "sda:3:none:none" =
      .ok (.onDisk "sda" (.move 3 none none)) := by
    decide +kernel
  have hkept := (applyToken_move_isMoved hsizes "sda:3:none:none").2 "sda" 3 hparse
  refine ⟨hsizes, hok, (applyToken_move_isMoved hsizes _).1 hok, by decide +kernel, ?_, hkept.2⟩
  rw [ne_eq, hkept.1]
  rintro ⟨d', p, hdisk, hp⟩
  obtain rfl : d = d' := Option.some.inj hdisk
  have hnone : d.partition? (3 : Nat) = none := by decide
  exact absurd (hnone.symm.trans hp) (by simp)

end Tokens

end DiskPlan
