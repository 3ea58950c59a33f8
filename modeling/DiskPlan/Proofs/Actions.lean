import DiskPlan.Proofs.Change
import DiskPlan.Proofs.Reading

/-!
# Actions in a Row

What is left of a disk after actions that all succeed.

`DiskAction.Runs` carries actions out one after the other and asks of each of them
that it succeeds. Actions of one kind in a row then have one effect that can be said
of the disk they end in:

Of new tables only the last one is left. Deleting, moving and reusing leave in its
place what a partition is known by, so they are `edits`; on a disk without partitions
none of them can succeed, but for a deletion that names no partition. Creating adds
partitions behind the others, and `Creates` says which: one for each action, with
numbers that count up from the next one. That the numbers count up is a fact about
`Disk.nextNumber`, which is one more than the greatest number, so that the partition
that gets it has the greatest number from then on.

## Main definitions

* `Disk.device`: What no action changes.
* `Partition.identity`: What a partition is known by.
* `DiskAction.Runs`: Actions in a row, each of which succeeds.
* `DiskAction.lastTable?`: The last table that is asked for.
* `DiskAction.Creates`: The partitions that actions ask for, with their numbers.

## Theorems

* `Disk.number_lt_nextNumber`, `Disk.nextNumber_concat`: Numbers count up.
* `DiskAction.runs_append_iff`: A run can be cut anywhere.
* `DiskAction.Runs.device`: What no run changes.
* `DiskAction.Runs.eq_of_relabels`, `DiskAction.Runs.relabels`: A run of new tables.
* `DiskAction.Change.exchange_of_isEdit`: What a deletion, a move or a reuse changes.
* `DiskAction.Runs.edits`, `DiskAction.Runs.eq_delete_nil`: A run of deletions, moves
  and reuses.
* `DiskAction.Runs.creates`: A run of new partitions.
-/

namespace DiskPlan

open Relation

/-! ### Numbers -/

namespace Disk

variable {d : Disk} {p : Partition}

/-- A partition has a number below the next one. Numbers are not reused, so a partition that is
    to be removed counts as well. -/
theorem number_lt_nextNumber (hp : p ∈ d.partitions) : p.number < d.nextNumber := by
  have hmem : p.number ∈ d.partitions.map Partition.number := List.mem_map_of_mem hp
  unfold nextNumber
  -- The next number is counted from the greatest one, which only an empty disk lacks.
  cases hmax : (d.partitions.map Partition.number).max? with
  | none =>
      rw [List.max?_eq_none_iff] at hmax
      rw [hmax] at hmem
      exact absurd hmem List.not_mem_nil
  | some greatest =>
      have hle : p.number ≤ greatest := (List.max?_eq_some_iff.mp hmax).2 _ hmem
      rw [Option.getD_some]
      omega

/-- The number behind that of a partition that got the next one. The new partition has the
    greatest number from then on, so the numbers of partitions that are added in a row count up
    by one. -/
theorem nextNumber_concat (hp : p.number = d.nextNumber) :
    ({ d with partitions := d.partitions ++ [p] } : Disk).nextNumber = d.nextNumber + 1 := by
  have hmax : ((d.partitions ++ [p]).map Partition.number).max? = some d.nextNumber := by
    rw [List.max?_eq_some_iff, List.map_append, List.map_singleton, hp]
    refine ⟨List.mem_append_right _ (List.mem_singleton_self _), ?_⟩
    rw [List.forall_mem_append, List.forall_mem_singleton]
    -- Every number from before is below the new one, which is the next number.
    refine ⟨fun number hnumber => ?_, Int.le_refl _⟩
    rcases List.mem_map.mp hnumber with ⟨q, hq, rfl⟩
    exact Int.le_of_lt (number_lt_nextNumber hq)
  change ((d.partitions ++ [p]).map Partition.number).max?.getD 0 + 1 = _
  rw [hmax, Option.getD_some]

/-- What no action changes: where a disk is, its size and its name. -/
def device (d : Disk) : String × Int × Int × Label :=
  (d.path, d.sectors, d.sectorSize, d.model)

end Disk

namespace DiskAction

variable {action : DiskAction} {actions first second : List DiskAction} {d d' : Disk}

/-! ### Runs -/

/-- Actions carried out one after the other, each of which succeeds. The disk in between is where
    an action has ended, so a run is settled by the actions and the disk that it begins with. -/
inductive Runs : List DiskAction → Disk → Disk → Prop
  | nil (d : Disk) : Runs [] d d
  | cons {action : DiskAction} {actions : List DiskAction} {d d' : Disk}
      (hok : (action.run d).answer = .ok ()) (hrest : Runs actions (action.run d).state d') :
      Runs (action :: actions) d d'

/-- A run can be cut anywhere: there is one disk where the first part ends and the second begins. -/
theorem runs_append_iff :
    Runs (first ++ second) d d' ↔ ∃ between, Runs first d between ∧ Runs second between d' := by
  induction first generalizing d with
  | nil =>
      constructor
      · exact fun h => ⟨d, .nil d, h⟩
      · rintro ⟨between, hfirst, hsecond⟩
        cases hfirst with
        | nil _ => exact hsecond
  | cons action rest ih =>
      constructor
      · intro h
        cases h with
        | cons hok hrest =>
            rcases ih.mp hrest with ⟨between, hfirst, hsecond⟩
            exact ⟨between, .cons hok hfirst, hsecond⟩
      · rintro ⟨between, hfirst, hsecond⟩
        cases hfirst with
        | cons hok hrest => exact .cons hok (ih.mpr ⟨between, hrest, hsecond⟩)

/-- What every change of an action keeps, a run of such actions keeps. The hypothesis is about
    changes and not about actions, so it need not be known that an action is carried out in full. -/
theorem Runs.keeps {P : Disk → Prop} (h : Runs actions d d')
    (hP : ∀ action ∈ actions, ∀ {d d'}, action.Change d d' → P d → P d') (hd : P d) : P d' := by
  induction h with
  | nil _ => exact hd
  | @cons action _ d _ _ _ ih =>
      -- One action is several changes, so there is an induction within the induction.
      refine ih (fun a ha => hP a (List.mem_cons_of_mem _ ha)) ?_
      have hchanges := action.run_changes d
      generalize (action.run d).state = d₁ at hchanges ⊢
      induction hchanges with
      | refl => exact hd
      | tail _ hchange ih => exact hP action List.mem_cons_self hchange ih

theorem Change.device (h : action.Change d d') : d'.device = d.device := by
  cases h <;> rfl

theorem Runs.device (h : Runs actions d d') : d'.device = d.device :=
  h.keeps (P := fun d' => d'.device = d.device) (fun _ _ _ _ hchange => hchange.device.trans) rfl

/-! ### Kinds -/

/-- The kind of operation that an action is. -/
def kind : DiskAction → Kind
  | relabel _ => .relabel
  | delete _ => .delete
  | move _ _ _ => .move
  | reuse _ _ _ => .reuse
  | create _ _ _ _ _ => .create

theorem kind_of_asked {kind : Kind} {name : String}
    (h : (Operation.onDisk name action).Asked kind) : action.kind = kind := by
  cases h <;> rfl

/-! ### New tables -/

/-- The table that an action asks for. Only a new table is asked for in this way. -/
def table? : DiskAction → Option TableKind
  | relabel table => some table
  | _ => none

/-- The last table that some action asks for. -/
def lastTable? (actions : List DiskAction) : Option TableKind :=
  (actions.filterMap table?).getLast?

theorem eq_nil_of_lastTable? (h : lastTable? actions = none)
    (hkind : ∀ a ∈ actions, a.kind = .relabel) : actions = [] := by
  cases actions with
  | nil => rfl
  | cons action rest =>
      cases action with
      | relabel table =>
          change (table :: rest.filterMap table?).getLast? = none at h
          exact absurd (List.getLast?_eq_none_iff.mp h) (List.cons_ne_nil _ _)
      | _ =>
          exact absurd (hkind _ List.mem_cons_self) (by
            simp only [kind, reduceCtorEq, not_false_eq_true])

/-- Of new tables in a row the last one is left. A table takes all partitions away and keeps the
    device, so what an earlier table did cannot be seen under a later one. -/
theorem Runs.eq_of_relabels (h : Runs actions d d') (hkind : ∀ a ∈ actions, a.kind = .relabel) :
    d' = (lastTable? actions).elim d fun table => (d.relabel table).state := by
  induction h with
  | nil _ => rfl
  | @cons action rest d d' _ _ ih =>
      have hrest := ih fun a ha => hkind a (List.mem_cons_of_mem _ ha)
      cases action with
      | relabel table =>
          have hlast : lastTable? (relabel table :: rest) =
              some ((lastTable? rest).getD table) := by
            change (table :: rest.filterMap table?).getLast? = _
            rw [List.getLast?_cons]
            rfl
          rw [hlast, hrest]
          -- The table that is put on first leaves no trace under another one.
          cases lastTable? rest <;> rfl
      | _ =>
          exact absurd (hkind _ List.mem_cons_self) (by
            simp only [kind, reduceCtorEq, not_false_eq_true])

/-- New tables take the partitions of a disk away, and nothing else does. The disk is marked
    exactly if a table was asked for, and the last one asked for is the one that it has. -/
theorem Runs.relabels (h : Runs actions d d') (hkind : ∀ a ∈ actions, a.kind = .relabel)
    (hd : d.relabeled = false) :
    (d'.relabeled = true ↔ actions ≠ []) ∧ d'.table = (lastTable? actions).or d.table ∧
      d'.partitions = if d'.relabeled then [] else d.partitions := by
  rw [h.eq_of_relabels hkind]
  cases hlast : lastTable? actions with
  | none =>
      have hactions : actions = [] := eq_nil_of_lastTable? hlast hkind
      rw [Option.elim_none, hactions, hd]
      exact ⟨iff_of_false Bool.false_ne_true fun h => h rfl, rfl, rfl⟩
  | some table =>
      -- A table has been asked for, so there is an action.
      have hactions : actions ≠ [] := by
        rintro rfl
        exact absurd hlast (by simp only [lastTable?, List.filterMap_nil, List.getLast?_nil,
          reduceCtorEq, not_false_eq_true])
      exact ⟨iff_of_true rfl hactions, rfl, rfl⟩

end DiskAction

/-! ### Edits -/

/-- What a partition is known by: all that a plan cannot change of one that is there. Where it
    lies and what is to be in it are left out, since moves and reuses are about these. -/
def Partition.identity (p : Partition) :
    String × Int × Role × Option Filesystem × Option Label × Provenance :=
  (p.path, p.number, p.role, p.filesystem, p.name, p.provenance)

namespace Partition

variable {p q : Partition}

theorem path_of_identity (h : q.identity = p.identity) : q.path = p.path :=
  congrArg Prod.fst h

theorem number_of_identity (h : q.identity = p.identity) : q.number = p.number :=
  congrArg (fun x => x.2.1) h

theorem role_of_identity (h : q.identity = p.identity) : q.role = p.role :=
  congrArg (fun x => x.2.2.1) h

theorem name_of_identity (h : q.identity = p.identity) : q.name = p.name :=
  congrArg (fun x => x.2.2.2.2.1) h

theorem provenance_of_identity (h : q.identity = p.identity) : q.provenance = p.provenance :=
  congrArg (fun x => x.2.2.2.2.2) h

end Partition

/-- What is true of what partitions are known by stays true of them. -/
theorem forall_of_identities {P : Partition → Prop} {ps qs : List Partition}
    (hP : ∀ p q : Partition, q.identity = p.identity → P p → P q)
    (h : qs.map Partition.identity = ps.map Partition.identity) (hps : ∀ p ∈ ps, P p) :
    ∀ q ∈ qs, P q := by
  -- Partitions are compared through what they are known by, so a partition of the one list stands
  -- for one of the other.
  intro q hq
  have hmem : q.identity ∈ ps.map Partition.identity := by
    rw [← h]
    exact List.mem_map_of_mem hq
  rcases List.mem_map.mp hmem with ⟨p, hp, hidentity⟩
  exact hP p q hidentity.symm (hps p hp)

namespace DiskAction

variable {action : DiskAction} {actions : List DiskAction} {d d' : Disk}

/-- Whether an action is one that changes partitions in their place. -/
def isEdit (action : DiskAction) : Prop :=
  action.kind ≠ .relabel ∧ action.kind ≠ .create

/-- The kinds of operations that change partitions in their place. -/
def editKinds : List Kind := [.delete, .move, .reuse]

theorem isEdit_of_mem {actions : Kind → List DiskAction}
    (hkind : ∀ kind, ∀ a ∈ actions kind, a.kind = kind) :
    ∀ a ∈ editKinds.flatMap actions, a.isEdit := by
  intro a ha
  rcases List.mem_flatMap.mp ha with ⟨kind, hmem, ha⟩
  have hne : ∀ kind ∈ editKinds, kind ≠ .relabel ∧ kind ≠ .create := by decide
  unfold isEdit
  rw [hkind kind a ha]
  exact hne kind hmem

theorem Edit.identity {p q : Partition} (h : action.Edit p q) : q.identity = p.identity := by
  cases h with
  | mark _ _ => rfl
  | range _ _ _ _ _ _ => rfl
  | reuse _ content suffix _ =>
      -- What is to be in a partition is kept apart from what was found in it.
      have hcontent : (withContent content p).identity = p.identity := by
        unfold withContent
        split <;> rfl
      rw [← hcontent]
      unfold withSuffix Partition.mountedAt
      dsimp only
      cases suffix.mount <;> cases suffix.keyId <;> cases suffix.flags <;> rfl

/-- An edit exchanges one partition for what it makes of it, and leaves everything else. The
    place is the same before and after, so the order of partitions is kept too. -/
theorem Change.exchange_of_isEdit (h : action.Change d d') (hedit : action.isEdit) :
    ∃ before p q after, d.partitions = before ++ p :: after ∧ action.Edit p q ∧
      d' = { d with partitions := before ++ q :: after } := by
  cases h with
  | relabel _ _ => exact absurd rfl hedit.1
  | create _ _ => exact absurd rfl hedit.2
  | mark _ hat => exact ⟨_, _, _, _, hat.split, .mark _ _, rfl⟩
  | shift hat _ _ => exact ⟨_, _, _, _, hat.split, .range _ _ _ _ _ _, rfl⟩
  | resize hat _ _ => exact ⟨_, _, _, _, hat.split, .range _ _ _ _ _ _, rfl⟩
  | reuse hat => exact ⟨_, _, _, _, hat.split, .reuse _ _ _ _, rfl⟩

/-- An edit leaves everything but the partitions, and what they are known by. -/
theorem Change.edits (h : action.Change d d') (hedit : action.isEdit) :
    d'.partitions.map Partition.identity = d.partitions.map Partition.identity ∧
      d'.table = d.table ∧ d'.relabeled = d.relabeled := by
  rcases h.exchange_of_isEdit hedit with ⟨before, p, q, after, hsplit, hedited, rfl⟩
  refine ⟨?_, rfl, rfl⟩
  rw [hsplit, List.map_append, List.map_append, List.map_cons, List.map_cons, hedited.identity]

/-- A run of edits leaves everything but the partitions, and what they are known by. -/
theorem Runs.edits (h : Runs actions d d') (hedit : ∀ a ∈ actions, a.isEdit) :
    d'.partitions.map Partition.identity = d.partitions.map Partition.identity ∧
      d'.table = d.table ∧ d'.relabeled = d.relabeled := by
  refine h.keeps (P := fun d' => d'.partitions.map Partition.identity =
    d.partitions.map Partition.identity ∧ d'.table = d.table ∧ d'.relabeled = d.relabeled)
    (fun a ha d₁ d₂ hchange hd => ?_) ⟨rfl, rfl, rfl⟩
  rcases hchange.edits (hedit a ha) with ⟨hpartitions, htable, hrelabeled⟩
  exact ⟨hpartitions.trans hd.1, htable.trans hd.2.1, hrelabeled.trans hd.2.2⟩

/-- Without partitions there is nothing to edit. The one edit that succeeds all the same is a
    deletion that names no partition, which looks none up. -/
theorem eq_delete_nil_of_run (hempty : d.partitions = []) (hedit : action.isEdit)
    (hok : (action.run d).answer = .ok ()) : action = .delete [] := by
  -- All edits but an empty deletion look a partition up first.
  have hnone : ∀ (number : Int) (f : Partition → Partition),
      (d.change number f).answer ≠ .ok () := by
    intro number f hchange
    rcases d.change_cases number f with ⟨_, _, _, hat, _⟩ | ⟨_, e, hfail⟩
    · exact absurd hempty hat.ne_nil
    · rw [hfail] at hchange
      exact absurd hchange (by simp only [Outcome.fail, reduceCtorEq, not_false_eq_true])
  cases action with
  | relabel _ => exact absurd rfl hedit.1
  | create _ _ _ _ _ => exact absurd rfl hedit.2
  | delete numbers =>
      cases numbers with
      | nil => rfl
      -- A deletion that names a partition looks for the first of them at once.
      | cons number rest =>
          rw [run, deleteAll] at hok
          exact absurd (Outcome.andThen_unit_eq_ok_iff.mp hok).1 (hnone _ _)
  | move number _ _ =>
      -- A move looks its partition up before it asks where it is to go.
      rcases Outcome.andThen_unit_eq_ok_iff.mp hok with ⟨hfirst, _⟩
      rcases Outcome.andThen_eq_ok_iff.mp hfirst with ⟨p, hp, _⟩
      rcases Disk.partition?_eq_some_iff.mp (Disk.requirePartition_eq_ok_iff.mp hp) with
        ⟨_, _, hat⟩
      exact absurd hempty hat.ne_nil
  | reuse _ _ _ => exact absurd hok (hnone _ _)

/-- On a disk without partitions only deletions that name none succeed. Such a deletion leaves
    the disk without partitions, so the same can be said of the next action. -/
theorem Runs.eq_delete_nil (h : Runs actions d d') (hempty : d.partitions = [])
    (hedit : ∀ a ∈ actions, a.isEdit) : ∀ a ∈ actions, a = .delete [] := by
  induction h with
  | nil _ => exact fun _ ha => absurd ha List.not_mem_nil
  | @cons action rest d d' hok _ ih =>
      have haction := eq_delete_nil_of_run hempty (hedit _ List.mem_cons_self) hok
      subst haction
      exact List.forall_mem_cons.mpr
        ⟨rfl, ih hempty fun a ha => hedit a (List.mem_cons_of_mem _ ha)⟩

/-! ### New partitions -/

/-- The partitions that actions ask for on a disk, one for each of them, with numbers that count
    up from a first one. The disk gives the path and the size that positions are resolved
    against, and no partition of it is looked at. -/
inductive Creates (d : Disk) : Int → List DiskAction → List Partition → Prop
  | nil (number : Int) : Creates d number [] []
  | cons {number : Int} {role : Role} {first? last? : Position} {content : Content}
      {suffix : Suffix} {first last : Int} {path : String} {actions : List DiskAction}
      {ps : List Partition} (hrange : range d first? last? = .ok (first, last))
      (hpath : Disk.partitionPath? d.path number = .ok path)
      (hrest : Creates d (number + 1) actions ps) :
      Creates d number (.create role first? last? content suffix :: actions)
        ((request role content suffix first last).build path number :: ps)

/-- Where the partitions go depends on the device alone. This is what allows to speak of the disk
    that a run begins with, although each partition is asked for on a disk that has the ones
    before. -/
theorem Creates.congr {number : Int} {ps : List Partition} (h : Creates d number actions ps)
    (hdevice : d.device = d'.device) : Creates d' number actions ps := by
  have hpath : d.path = d'.path := congrArg Prod.fst hdevice
  have hresolve : ∀ p, d.resolve? p = d'.resolve? p := by
    intro p
    have hsectors : d.sectors = d'.sectors := congrArg (fun x => x.2.1) hdevice
    have hsize : d.sectorSize = d'.sectorSize := congrArg (fun x => x.2.2.1) hdevice
    unfold Disk.resolve? Disk.reserved?
    rw [hsectors, hsize]
  -- By induction on the partitions asked for. No step looks at what is on the disk.
  induction h with
  | nil number => exact .nil number
  | cons hrange hnumber _ ih =>
      refine .cons ?_ (hpath ▸ hnumber) ih
      unfold range at hrange ⊢
      rw [← hresolve, ← hresolve]
      exact hrange

/-- What is asked for is new and stays, whatever the suffix of its token says. -/
theorem Creates.built {number : Int} {ps : List Partition} (h : Creates d number actions ps) :
    ∀ p ∈ ps, p.provenance = .new ∧ p.removed = false := by
  induction h with
  | nil _ => exact fun _ hp => absurd hp List.not_mem_nil
  | cons _ _ _ ih => exact List.forall_mem_cons.mpr ⟨⟨rfl, rfl⟩, ih⟩

end DiskAction

namespace DiskAction

variable {actions : List DiskAction} {d d' : Disk}

/-- A new partition that succeeds is placed behind the others, with the next number and its path. -/
theorem run_create_of_ok {role : Role} {first? last? : Position} {content : Content}
    {suffix : Suffix} (h : ((create role first? last? content suffix).run d).answer = .ok ()) :
    ∃ first last path, range d first? last? = .ok (first, last) ∧
      Disk.partitionPath? d.path d.nextNumber = .ok path ∧
      ((create role first? last? content suffix).run d).state = { d with partitions :=
        d.partitions ++ [(request role content suffix first last).build path d.nextNumber] } := by
  rcases run_create_cases role first? last? content suffix d with
    ⟨first, last, p, hrange, hplace⟩ | ⟨⟨f, herror⟩, _⟩
  · rcases Disk.place_eq_ok hplace with ⟨_, path, hpath, rfl⟩
    exact ⟨first, last, path, hrange, hpath, (run_create_of_placed hrange hplace).1⟩
  · rw [h] at herror
    exact absurd herror (by simp only [reduceCtorEq, not_false_eq_true])

/-- New partitions in a row come behind the others, with the numbers that follow. The induction
    is on the run, and the disk that counts grows by one partition with each step. -/
theorem Runs.creates (h : Runs actions d d') (hkind : ∀ a ∈ actions, a.kind = .create) :
    ∃ ps, d' = { d with partitions := d.partitions ++ ps } ∧ Creates d d.nextNumber actions ps := by
  induction h with
  | nil d => exact ⟨[], by rw [List.append_nil], .nil _⟩
  | @cons action rest d d' hok _ ih =>
      rcases ih fun a ha => hkind a (List.mem_cons_of_mem _ ha) with ⟨ps, hd', hps⟩
      cases action with
      | create role first? last? content suffix =>
          rcases run_create_of_ok hok with ⟨first, last, path, hrange, hpath, hstate⟩
          rw [hstate] at hd' hps
          -- The rest counts from the number behind the new one, on a disk of the same device.
          rw [Disk.nextNumber_concat rfl] at hps
          refine ⟨_ :: ps, ?_, .cons hrange hpath (hps.congr rfl)⟩
          rw [hd', List.append_assoc]
          rfl
      | _ =>
          exact absurd (hkind _ List.mem_cons_self) (by
            simp only [kind, reduceCtorEq, not_false_eq_true])

end DiskAction

end DiskPlan
