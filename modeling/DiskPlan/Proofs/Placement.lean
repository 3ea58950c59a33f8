import DiskPlan.Proofs.Session

/-!
# Placement of Partitions

No two partitions that stay on a disk share a sector, and all of them lie on it.

Every change checks the range that it makes against the partitions that are not to
be removed, but not all of them: a partition that is moved is left out of its own
check, and one that is to be removed can be moved onto others. So the disk is
looked at around the partition that changes. `isPlaced_middle` takes that partition
out of the list, where the others stand as they stood before, and asks of it what
the check of the change has just found. Each kind of change is then one line of
bookkeeping.

The partitions to be removed are not part of the claim. They may overlap whatever
has taken their place, and they never come back.

## Main definitions

* `Partition.Holds`: A sector of a partition.
* `Partition.Apart`: Two partitions that share no sector.
* `Partition.IsWithin`: A partition that lies on a device.
* `Disk.IsPlaced`: A disk whose staying partitions are apart and lie on it.

## Theorems

* `Disk.isPlaced_middle`: A disk seen around one of its partitions.
* `Disk.Fits.isPlaced`: A partition may be put where it fits.
* `DiskAction.Change.isPlaced`: Every change keeps a disk placed.
* `after_isPlaced`: Every session keeps the disks placed.
-/

namespace DiskPlan

open Relation

namespace Partition

/-- A sector of a partition. Both ends belong to it. -/
def Holds (p : Partition) (sector : Int) : Prop :=
  p.first ≤ sector ∧ sector ≤ p.last

/-- Two partitions that share no sector. -/
def Apart (p q : Partition) : Prop :=
  ∀ sector, ¬ (p.Holds sector ∧ q.Holds sector)

/-- A partition of at least one sector that lies on a device of `sectors` sectors. -/
def IsWithin (sectors : Int) (p : Partition) : Prop :=
  0 ≤ p.first ∧ p.first ≤ p.last ∧ p.last < sectors

instance (sectors : Int) (p : Partition) : Decidable (p.IsWithin sectors) :=
  inferInstanceAs (Decidable (_ ∧ _ ∧ _))

/-- Sharing no sector does not depend on which partition is named first. -/
theorem Apart.symm {p q : Partition} (h : p.Apart q) : q.Apart p :=
  fun sector hboth => h sector ⟨hboth.2, hboth.1⟩

/-- A range that a partition does not overlap shares no sector with it. -/
theorem apart_of_not_overlaps {p q : Partition} (h : ¬ q.Overlaps p.first p.last) : p.Apart q := by
  rintro sector ⟨⟨hp, hp'⟩, hq, hq'⟩
  -- The sector itself stands between the ends of both.
  exact h ⟨by omega, by omega⟩

end Partition

namespace Disk

/-- A disk on which the partitions that are not to be removed lie within its
    sectors, no two of them on a common one. -/
structure IsPlaced (d : Disk) : Prop where
  within : ∀ p ∈ d.active, p.IsWithin d.sectors
  apart : d.active.Pairwise Partition.Apart

variable {d : Disk} {before after : List Partition} {p q : Partition}

/-- The partitions that stay on a disk, seen around one of them, with or without that one. -/
theorem active_middle (d : Disk) (before after : List Partition) (q : Partition) :
    ({ d with partitions := before ++ q :: after } : Disk).active =
      before.filter (fun p => !p.removed) ++
        (if q.removed then [] else [q]) ++ after.filter fun p => !p.removed := by
  unfold active
  rw [List.filter_append, List.filter_cons]
  cases q.removed <;> simp

/-- A disk is placed exactly if it is without one of its partitions, and that one,
    unless it is to be removed, lies on the disk and apart from the others. -/
theorem isPlaced_middle (d : Disk) (before after : List Partition) (q : Partition) :
    ({ d with partitions := before ++ q :: after } : Disk).IsPlaced ↔
      ({ d with partitions := before ++ after } : Disk).IsPlaced ∧
        (q.removed = false → q.IsWithin d.sectors ∧
          ∀ r ∈ before ++ after, r.removed = false → q.Apart r) := by
  have hrest : ({ d with partitions := before ++ after } : Disk).active =
      before.filter (fun p => !p.removed) ++ after.filter fun p => !p.removed := by
    unfold active
    rw [List.filter_append]
  by_cases hremoved : q.removed = true
  · -- A partition to be removed is not among the active ones at all, so it makes no difference to
    -- the disk, and nothing is asked of it.
    have hsame : ({ d with partitions := before ++ q :: after } : Disk).active =
        ({ d with partitions := before ++ after } : Disk).active := by
      rw [active_middle, hrest, if_pos hremoved, List.append_nil]
    constructor
    · rintro ⟨hwithin, hapart⟩
      rw [hsame] at hwithin hapart
      refine ⟨⟨hwithin, hapart⟩, fun hstays => ?_⟩
      rw [hremoved] at hstays
      exact absurd hstays.symm Bool.false_ne_true
    · rintro ⟨⟨hwithin, hapart⟩, _⟩
      rw [← hsame] at hwithin hapart
      exact ⟨hwithin, hapart⟩
  · -- A partition that stays is one of the active ones, and all that is to be shown is what it
    -- adds to the pairs and to the ranges.
    rw [Bool.not_eq_true] at hremoved
    have hactive : ({ d with partitions := before ++ q :: after } : Disk).active =
        before.filter (fun p => !p.removed) ++ q :: after.filter fun p => !p.removed := by
      rw [active_middle, hremoved]
      simp
    -- Being apart is symmetric, so the partition may as well stand in front.
    have hpairs : ({ d with partitions := before ++ q :: after } : Disk).active.Pairwise
          Partition.Apart ↔
        (∀ r ∈ before ++ after, r.removed = false → q.Apart r) ∧
          ({ d with partitions := before ++ after } : Disk).active.Pairwise Partition.Apart := by
      rw [hactive, List.pairwise_middle fun h => h.symm, List.pairwise_cons, hrest,
        ← List.filter_append]
      simp only [List.mem_filter, Bool.not_eq_true', and_imp]
    constructor
    · rintro ⟨hwithin, hapart⟩
      rw [hactive] at hwithin
      refine ⟨⟨fun r hr => ?_, (hpairs.mp hapart).2⟩, fun _ => ⟨?_, (hpairs.mp hapart).1⟩⟩
      · rw [hrest] at hr
        -- The partitions before and behind it are the others.
        rcases List.mem_append.mp hr with hr | hr
        · exact hwithin r (List.mem_append_left _ hr)
        · exact hwithin r (List.mem_append_right _ (List.mem_cons_of_mem _ hr))
      · exact hwithin q (List.mem_append_right _ List.mem_cons_self)
    · rintro ⟨⟨hwithin, hapart⟩, hq⟩
      rw [hrest] at hwithin
      refine ⟨fun r hr => ?_, hpairs.mpr ⟨(hq hremoved).2, hapart⟩⟩
      rw [hactive] at hr
      rcases List.mem_append.mp hr with hr | hr
      · exact hwithin r (List.mem_append_left _ hr)
      · rcases List.mem_cons.mp hr with rfl | hr
        · exact (hq hremoved).1
        · exact hwithin r (List.mem_append_right _ hr)

/-- A placed disk stays placed without one of its partitions, which lies on it and apart from all
    the others unless it is to be removed. -/
theorem IsPlaced.middle (h : d.IsPlaced) (hsplit : d.partitions = before ++ p :: after) :
    ({ d with partitions := before ++ after } : Disk).IsPlaced ∧
      (p.removed = false → p.IsWithin d.sectors ∧
        ∀ r ∈ before ++ after, r.removed = false → p.Apart r) := by
  have hd : d = { d with partitions := before ++ p :: after } := by rw [← hsplit]
  rw [hd] at h
  exact (isPlaced_middle d before after p).mp h

/-- A partition may be put where it fits besides the others. What it fits beside is the list
    without it, so this serves a partition that is new as well as one that is moved. -/
theorem Fits.isPlaced (h : d.Fits (before ++ after) q.first q.last)
    (hrest : ({ d with partitions := before ++ after } : Disk).IsPlaced) :
    ({ d with partitions := before ++ q :: after } : Disk).IsPlaced := by
  refine (isPlaced_middle d before after q).mpr ⟨hrest, fun _ => ⟨?_, fun r hr hstays => ?_⟩⟩
  · -- The check has found the range in order and within the disk.
    exact ⟨h.nonneg, by have := h.lt; omega, h.bound⟩
  · exact Partition.apart_of_not_overlaps (h.free r hr hstays)

/-- A partition may be exchanged for one of the same range that stays only if the
    other did. -/
theorem IsPlaced.exchange (h : d.IsPlaced) (hsplit : d.partitions = before ++ p :: after)
    (hfirst : q.first = p.first) (hlast : q.last = p.last)
    (hstays : q.removed = false → p.removed = false) :
    ({ d with partitions := before ++ q :: after } : Disk).IsPlaced := by
  rcases h.middle hsplit with ⟨hrest, hp⟩
  refine (isPlaced_middle d before after q).mpr ⟨hrest, fun hq => ?_⟩
  replace hp := hp (hstays hq)
  -- Only the ends of a partition enter into any of this.
  unfold Partition.IsWithin Partition.Apart Partition.Holds at hp ⊢
  rw [hfirst, hlast]
  exact hp

end Disk

namespace DiskAction

/-- A partition that is given contents keeps its range and its mark. -/
theorem withContent_range (content : Option Content) (p : Partition) :
    (withContent content p).first = p.first ∧ (withContent content p).last = p.last ∧
      (withContent content p).removed = p.removed := by
  unfold withContent
  split <;> exact ⟨rfl, rfl, rfl⟩

/-- So does one that is given a mount point, flags or the identifier of a key. -/
theorem withSuffix_range (suffix : Suffix) (p : Partition) :
    (withSuffix suffix p).first = p.first ∧ (withSuffix suffix p).last = p.last ∧
      (withSuffix suffix p).removed = p.removed := by
  unfold withSuffix Partition.mountedAt
  cases suffix.mount <;> cases suffix.flags <;> cases suffix.keyId <;> exact ⟨rfl, rfl, rfl⟩

/-- Every change keeps a disk placed. A change that leaves the range alone exchanges the
    partition, and one that makes a range has just checked it; a new table leaves no partition at
    all. -/
theorem Change.isPlaced {action : DiskAction} {d d' : Disk} (h : action.Change d d')
    (hd : d.IsPlaced) : d'.IsPlaced := by
  cases h with
  | relabel table d =>
      exact ⟨fun p hp => absurd hp List.not_mem_nil, List.Pairwise.nil⟩
  | mark hnumber hat =>
      -- A partition that was marked is not among those that stay, so nothing is asked of it.
      refine hd.exchange hat.split rfl rfl fun hstays => ?_
      exact absurd hstays.symm Bool.false_ne_true
  | shift hat hfirst hfits => exact Disk.Fits.isPlaced hfits (hd.middle hat.split).1
  | resize hat hlast hfits => exact Disk.Fits.isPlaced hfits (hd.middle hat.split).1
  | @reuse number content suffix d before after p hat =>
      have hsuffix := withSuffix_range suffix (withContent content p)
      have hcontent := withContent_range content p
      refine hd.exchange hat.split (hsuffix.1.trans hcontent.1)
        (hsuffix.2.1.trans hcontent.2.1) fun hstays => ?_
      rw [← hcontent.2.2, ← hsuffix.2.2]
      exact hstays
  | create hrange hplace =>
      -- A new partition is the last one, so none stand behind it.
      rcases Disk.place_eq_ok hplace with ⟨hfits, path, _, rfl⟩
      refine Disk.Fits.isPlaced ?_ ?_
      · rw [List.append_nil]
        exact hfits
      · rw [List.append_nil]
        exact hd

end DiskAction

/-- Whatever calls are made on disks whose staying partitions lie on them and share
    no sector, and whichever of the calls fail on the way, this is true of the disks
    in the end. -/
theorem after_isPlaced (t : Topology) (h : ∀ d ∈ t.disks, d.IsPlaced) (calls : List Call) :
    ∀ d ∈ (t.after calls).disks, d.IsPlaced :=
  Topology.disks_of_reaches (fun _ hchange hd => hchange.isPlaced hd) (t.after_reaches calls) h

/-- Three calls that fail. The first marks a partition before it finds one missing,
    and the second moves another onto it before the new end is refused. -/
theorem after_isPlaced_ofThree :
    let calls : List Call := [.apply .delete ["sda:2:9:3"], .apply .move ["sda:1:6500:6000"],
      .apply .create ["sda:primary:8000:end:ext4"], .initializeGroups]
    let t : Topology := ⟨[.ofThree], []⟩
    (∀ d ∈ t.disks, d.IsPlaced) ∧
      (t.after calls).disks.map (fun d => d.partitions.map fun p => (p.first, p.last, p.removed)) =
        [[(6500, 7499, false), (6000, 6999, true), (8000, 8999, false)]] ∧
      ∀ d ∈ (t.after calls).disks, d.IsPlaced := by
  have hthree : ∀ d ∈ [Disk.ofThree], d.IsPlaced := by
    intro d hd
    obtain rfl := List.mem_singleton.mp hd
    have hpairs : Disk.ofThree.active.Pairwise fun p q => ¬ q.Overlaps p.first p.last := by decide
    exact ⟨by decide, hpairs.imp Partition.apart_of_not_overlaps⟩
  exact ⟨hthree, by decide +kernel, after_isPlaced ⟨[.ofThree], []⟩ hthree _⟩

end DiskPlan
