import DiskPlan.Proofs.Placement
import DiskPlan.Proofs.PlannedDisks

/-!
# Partitions and Their Table

What a partition table asks of the partitions that are created on it.

A table is asked once, when a partition is added: there has to be one, it has to have
room for a logical partition, and an MS-DOS table for one more primary. Afterwards the
partition stays in the list while other partitions come and go and while the table itself
is replaced, and nobody asks again. So that the answers are still right in the end is an
invariant of the session, and it is kept for three different reasons. A new table leaves
no partitions, so none of them stands on a table that it was not added to. An edit leaves
alone where a partition comes from and what its role is, and takes no mark for removal
back, so there are never more primaries after it. And only an addition makes their number
grow, which is when it is bounded.

The bound is not four alone. A disk can be found with more primary partitions than its
table has room for, and these may stay. No more are added to them.

## Main definitions

* `Disk.RespectsTable`: A disk with nothing on it that its table does not allow.

## Theorems

* `Disk.checkRole_eq_ok_iff`, `Disk.checkRole_of_place`: What a table is asked.
* `Disk.primaries_exchange_le`, `Disk.primaries_concat`: How many primaries there are
  after a change.
* `DiskAction.Change.respectsTable`: Every change respects the table.
* `after_respectsTable`: Every session respects the tables.
-/

namespace DiskPlan

open Relation

namespace Disk

/-- A disk with nothing on it that its table does not allow, if `found` primary partitions
    were on it at first. What was there already is not asked for its role. -/
structure RespectsTable (found : Nat) (d : Disk) : Prop where
  tableless : d.table = none → ∀ p ∈ d.partitions, p.provenance ≠ .new
  relabeled : d.relabeled = true → d.table ≠ none
  logical : d.table = some .gpt → ∀ p ∈ d.partitions, p.provenance = .new → p.role ≠ .logical
  primaries : d.table = some .msdos → d.primaries ≤ max 4 found

variable {d d' : Disk} {before after : List Partition} {p q : Partition}

/-- As it is found, a disk respects its table, whatever is on it. None of its partitions is new,
    and its own primaries are the bound. -/
theorem IsFound.respectsTable (h : d.IsFound) : d.RespectsTable d.primaries := by
  have hold : ∀ p ∈ d.partitions, p.provenance ≠ .new := by
    intro p hp
    rw [h.2 p hp]
    simp only [ne_eq, reduceCtorEq, not_false_eq_true]
  refine ⟨fun _ => hold, fun hrelabeled => ?_, fun _ p hp hnew => absurd hnew (hold p hp),
    fun _ => Nat.le_max_right _ _⟩
  rw [h.1] at hrelabeled
  exact absurd hrelabeled Bool.false_ne_true

/-! ### Primaries -/

/-- The primaries are those that count as primary and stay. -/
theorem primaries_eq_countP (d : Disk) :
    d.primaries = d.partitions.countP fun p => p.role == .primary && !p.removed :=
  List.countP_filter

/-- A partition may be exchanged for one of the same role that stays only if the other
    did, and there are no more primaries than before. -/
theorem primaries_exchange_le (hsplit : d.partitions = before ++ p :: after)
    (hrole : q.role = p.role) (hstays : q.removed = false → p.removed = false) :
    ({ d with partitions := before ++ q :: after } : Disk).primaries ≤ d.primaries := by
  -- If the other one counts as a primary, the first one did.
  have hcounted : (q.role == .primary && !q.removed) = true →
      (p.role == .primary && !p.removed) = true := by
    rw [Bool.and_eq_true, Bool.and_eq_true, Bool.not_eq_true', Bool.not_eq_true', hrole]
    exact fun h => ⟨h.1, hstays h.2⟩
  rw [primaries_eq_countP, primaries_eq_countP, hsplit, List.countP_append, List.countP_append,
    List.countP_cons, List.countP_cons]
  by_cases hq : (q.role == .primary && !q.removed) = true
  · rw [if_pos hq, if_pos (hcounted hq)]
  · rw [if_neg hq]
    omega

/-- A partition at the end adds one to the primaries if it is one of them. -/
theorem primaries_concat (d : Disk) (p : Partition) :
    ({ d with partitions := d.partitions ++ [p] } : Disk).primaries =
      d.primaries + if p.role == .primary && !p.removed then 1 else 0 := by
  rw [primaries_eq_countP, primaries_eq_countP, List.countP_append, List.countP_singleton]

/-! ### What a table is asked -/

/-- A table has room for a role: a logical partition for which it is not the kind that has none,
    and a primary one of which there are not too many yet. -/
theorem checkRole_eq_ok_iff {table : TableKind} {role : Role} :
    d.checkRole table role = .ok () ↔
      (role = .logical → table ≠ .gpt) ∧
        (role = .primary → table = .msdos → d.primaries < maxPrimaries) := by
  cases role with
  | logical => cases table <;> simp [checkRole]
  -- A primary partition is asked two things at once, and refused only if both are so.
  | primary =>
      by_cases hfull : table = .msdos ∧ maxPrimaries ≤ d.primaries
      · rw [show d.checkRole table .primary = _ from if_pos hfull]
        simp only [reduceCtorEq, false_iff]
        rintro ⟨_, hroom⟩
        exact absurd (hroom trivial hfull.1) (Nat.not_lt.mpr hfull.2)
      · rw [show d.checkRole table .primary = _ from if_neg hfull]
        simp only [reduceCtorEq, false_implies, true_and, true_iff]
        intro _ htable
        exact Nat.lt_of_not_le fun hle => hfull ⟨htable, hle⟩

/-- A partition is placed on a table, and one that has room for its role. -/
theorem checkRole_of_place {r : Request} (h : d.place r = .ok p) :
    ∃ table, d.table = some table ∧ d.checkRole table r.role = .ok () := by
  unfold place at h
  split at h
  · exact absurd h (by simp only [reduceCtorEq, not_false_eq_true])
  · rename_i table htable
    -- Between the table and the role only the bounds are checked.
    rcases bind_eq_ok_iff.mp h with ⟨_, _, h⟩
    rcases bind_eq_ok_iff.mp h with ⟨_, hrole, _⟩
    exact ⟨table, htable, hrole⟩

end Disk

/-! ### Changes -/

namespace DiskAction

variable {action : DiskAction} {d d' : Disk} {found : Nat}

/-- No edit takes a mark for removal back. -/
theorem Edit.stays {p q : Partition} (h : action.Edit p q) (hq : q.removed = false) :
    p.removed = false := by
  cases h with
  | mark _ _ => exact absurd hq.symm Bool.false_ne_true
  | range _ _ _ _ _ _ => exact hq
  | reuse _ content suffix _ =>
      rw [(withSuffix_range suffix _).2.2, (withContent_range content p).2.2] at hq
      exact hq

/-- An edit respects the table: what it looks at of a partition stays, and there are no
    more primaries than before. -/
theorem Change.respectsTable_of_isEdit (h : action.Change d d') (hedit : action.isEdit)
    (hd : d.RespectsTable found) : d'.RespectsTable found := by
  -- An edit changes one partition, and keeps what it is known by.
  have hidentities := (h.edits hedit).1
  rcases h.exchange_of_isEdit hedit with ⟨before, p, q, after, hsplit, hedited, rfl⟩
  have hrole := Partition.role_of_identity hedited.identity
  refine ⟨fun htable => ?_, hd.relabeled, fun htable => ?_, fun htable => ?_⟩
  · refine forall_of_identities (fun p q hidentity hp => ?_) hidentities (hd.tableless htable)
    rw [Partition.provenance_of_identity hidentity]
    exact hp
  · refine forall_of_identities (fun p q hidentity hp => ?_) hidentities (hd.logical htable)
    rw [Partition.provenance_of_identity hidentity, Partition.role_of_identity hidentity]
    exact hp
  · exact (Disk.primaries_exchange_le hsplit hrole hedited.stays).trans (hd.primaries htable)

/-- A partition that is placed respects the table that it is placed on. -/
theorem respectsTable_concat (hd : d.RespectsTable found) {r : Request} {p : Partition}
    (hplace : d.place r = .ok p) :
    ({ d with partitions := d.partitions ++ [p] } : Disk).RespectsTable found := by
  rcases Disk.checkRole_of_place hplace with ⟨table, htable, hchecked⟩
  rcases Disk.place_eq_ok hplace with ⟨_, path, _, rfl⟩
  -- What the table answered is true of the one partition that is new.
  rcases Disk.checkRole_eq_ok_iff.mp hchecked with ⟨hlogical, hprimary⟩
  refine ⟨fun hnone => ?_, hd.relabeled, fun hgpt => ?_, fun hmsdos => ?_⟩
  · rw [htable] at hnone
    exact absurd hnone (Option.some_ne_none table)
  · obtain rfl : table = .gpt := Option.some.inj (htable.symm.trans hgpt)
    refine List.forall_mem_append.mpr ⟨hd.logical hgpt, List.forall_mem_singleton.mpr ?_⟩
    exact fun _ hrole => hlogical hrole rfl
  · obtain rfl : table = .msdos := Option.some.inj (htable.symm.trans hmsdos)
    have hbefore := hd.primaries hmsdos
    rw [Disk.primaries_concat]
    split
    · -- One more primary: there was room for it among the four.
      rename_i hcounted
      have hroom := hprimary (beq_iff_eq.mp ((Bool.and_eq_true _ _).mp hcounted).1) rfl
      have hfour : maxPrimaries = 4 := rfl
      omega
    · exact hbefore

/-- Every change respects the table of its disk. -/
theorem Change.respectsTable (h : action.Change d d') (hd : d.RespectsTable found) :
    d'.RespectsTable found := by
  cases action with
  | relabel table =>
      cases h with
      | relabel _ _ =>
          -- Under the new table there is nothing that it could have been asked about.
          have hnone : ∀ p : Partition, p ∉ ([] : List Partition) := fun _ => List.not_mem_nil
          exact ⟨fun _ p hp => absurd hp (hnone p), fun _ => Option.some_ne_none table,
            fun _ p hp => absurd hp (hnone p), fun _ => Nat.zero_le _⟩
  | create _ _ _ _ _ =>
      cases h with
      | create _ hplace => exact respectsTable_concat hd hplace
  -- All other actions are edits.
  | _ =>
      refine h.respectsTable_of_isEdit ?_ hd
      simp only [isEdit, kind, ne_eq, reduceCtorEq, not_false_eq_true, and_self]

end DiskAction

/-! ### Sessions -/

/-- Whatever calls are made on disks as they are found, and whichever of the calls fail on
    the way, every disk respects its table in the end. No disk is added or lost, so each
    is bounded by the primary partitions that the one in its place had at first. -/
theorem after_respectsTable {t : Topology} (h : ∀ d ∈ t.disks, d.IsFound) (calls : List Call) :
    List.Forall₂ (fun found d => d.RespectsTable found.primaries) t.disks (t.after calls).disks :=
  -- The bound of each disk is a number of the disk in its place at first, so this is a fact about
  -- pairs of disks.
  Topology.forall₂_disks_of_reaches (R := fun found d => d.RespectsTable found.primaries)
    (fun _ hchange hd => hchange.respectsTable hd) (t.after_reaches calls)
    fun d hd => (h d hd).respectsTable

/-- A disk with five primary partitions on an MS-DOS table, and one without a table. -/
def Disk.ofFive : List Disk :=
  [{ Disk.ofThree with
      table := some .msdos
      partitions := [.found 1 5000 5999, .found 2 6000 6999, .found 3 7000 7999,
        .found 4 8000 8999, .found 5 9000 9999] },
    { Disk.ofThree with
      path := "/dev/sdb"
      table := none
      partitions := [] }]

/-- A session in which every check of a table fails once. Of the five primaries two have to
    go before a new one has room, and a logical partition has none on the new table. -/
theorem after_respectsTable_ofFive :
    let t : Topology := ⟨Disk.ofFive, []⟩
    let calls : List Call := [.apply .create ["sda:primary:10000:10999:ext4"],
      .apply .delete ["sda:1:9"], .apply .create ["sda:primary:10000:10999:ext4"],
      .apply .delete ["sda:2"], .apply .create ["sda:primary:10000:10999:ext4",
        "sda:primary:11000:11999:ext4"], .apply .create ["sdb:primary:10000:10999:ext4"],
      .apply .relabel ["sdb:gpt"], .apply .create ["sdb:logical:10000:10999:ext4"],
      .apply .create ["sdb:primary:10000:10999:ext4"]]
    (∀ d ∈ t.disks, d.IsFound) ∧
      (t.after calls).disks.map (fun d => (d.table, d.primaries,
          d.partitions.map fun p => (p.number, p.removed))) =
        [(some .msdos, 4, [(1, true), (2, true), (3, false), (4, false), (5, false),
            (6, false)]),
          (some .gpt, 1, [(1, false)])] ∧
      List.Forall₂ (fun found d => d.RespectsTable found.primaries) t.disks
        (t.after calls).disks := by
  intro t calls
  have hfound : ∀ d ∈ t.disks, d.IsFound := by
    refine List.forall_mem_cons.mpr ⟨⟨rfl, by decide⟩, List.forall_mem_singleton.mpr ⟨rfl, ?_⟩⟩
    exact fun _ hp => absurd hp List.not_mem_nil
  exact ⟨hfound, by decide +kernel, after_respectsTable hfound calls⟩

end DiskPlan
