import DiskPlan.Proofs.Announcements
import DiskPlan.Proofs.LayoutValues
import DiskPlan.Proofs.Leftovers
import DiskPlan.Proofs.Placement
import DiskPlan.Proofs.VolumeGroups

/-!
# What Becomes of a Partition

What a plan makes of a partition that its tokens name.

Tokens that delete, move and reuse find a partition by its number, and they find it whether
it is to be removed or not. So a partition can be deleted by one token and given a filesystem
by another, and neither of the two is refused. Both leave their trace: the partition has what
was asked for last, and it is to be removed. Partitioning then removes it, and what was asked
for it is lost.

Everything that is asked of one partition is put together by `Follows`, which composes along
a run of actions. An action that names another partition is nothing to it, and neither is a
new partition, since that gets a number of its own. So what becomes of a partition depends on
the tokens that name it alone: it is to be removed exactly if one of them deletes it.

## Main definitions

* `DiskAction.number?`: The partition that a move or a reuse names.
* `DiskAction.lastOf`: The last of what actions ask for.
* `Partition.Follows`: A partition after actions on its disk.
* `Partition.Heeds`: A partition with all that is asked of it.
* `Partition.IsTold`: What partitioning tells of a partition.

## Theorems

* `Disk.partition?_exchange`: What a number stands for after an exchange.
* `DiskAction.follows_run`, `DiskAction.Runs.follows`: What actions make of a partition.
* `DiskAction.Runs.exists_partition?`: What is named is there.
* `Topology.isTold_of_mem`: The partitions of a plan are told.
* `configure_removes_iff`: A partition that is named is removed exactly if it is deleted.
-/

namespace DiskPlan

open Relation

/-! ### What actions ask for -/

namespace DiskAction

/-- The number of the partition that a move or a reuse is for. -/
def number? : DiskAction → Option Nat
  | move number _ _ => some number
  | reuse number _ _ => some number
  | _ => none

/-- Whether an action marks the partition with a number for removal. -/
def removes (number : Nat) : DiskAction → Bool
  | delete numbers => numbers.contains number
  | _ => false

/-- The filesystem that an action asks for in the partition with a number. -/
def target? (number : Nat) : DiskAction → Option Filesystem
  | reuse n content _ => if n = number then content.map Content.target else none
  | _ => none

/-- The mount point that an action asks for. -/
def mount? (number : Nat) : DiskAction → Option Path
  | reuse n _ suffix => if n = number then suffix.mount else none
  | _ => none

/-- The volume group that an action asks for. -/
def membership? (number : Nat) : DiskAction → Option Membership
  | reuse n content _ => if n = number then content.bind Content.membership? else none
  | _ => none

variable {α : Type} {asks : DiskAction → Option α}

/-- The last of what actions ask for. Actions that ask for nothing of this sort do not count, so
    it need not be the last of the actions that is meant. -/
def lastOf (asks : DiskAction → Option α) (actions : List DiskAction) : Option α :=
  (actions.filterMap asks).getLast?

/-- What is asked for last is asked for in the second stretch, or else in the first. -/
theorem lastOf_append (asks : DiskAction → Option α) (first second : List DiskAction) :
    lastOf asks (first ++ second) = (lastOf asks second).or (lastOf asks first) := by
  unfold lastOf
  rw [List.filterMap_append, List.getLast?_append]

theorem lastOf_singleton (asks : DiskAction → Option α) (action : DiskAction) :
    lastOf asks [action] = asks action := by
  unfold lastOf
  rw [List.filterMap_cons]
  cases asks action <;> rfl

theorem lastOf_eq_none {actions : List DiskAction} (h : ∀ a ∈ actions, asks a = none) :
    lastOf asks actions = none := by
  unfold lastOf
  rw [List.filterMap_eq_nil_iff.mpr h, List.getLast?_nil]

/-- The kinds of operations that work on the partitions of a disk. -/
def partitionKinds : List Kind := [.delete, .move, .reuse, .create]

/-- What only reuses ask for is what the reuses of a plan ask for. The kinds are gone through in
    a fixed order, but those that ask for nothing can be left out of it. -/
theorem lastOf_partitionKinds {actions : Kind → List DiskAction}
    (hkind : ∀ kind, ∀ a ∈ actions kind, a.kind = kind)
    (hasks : ∀ a : DiskAction, a.kind ≠ .reuse → asks a = none) :
    lastOf asks (partitionKinds.flatMap actions) = lastOf asks (actions .reuse) := by
  have hnone : ∀ kind, kind ≠ .reuse → lastOf asks (actions kind) = none :=
    fun kind hne => lastOf_eq_none fun a ha => hasks a (hkind kind a ha ▸ hne)
  simp only [partitionKinds, List.flatMap_cons, List.flatMap_nil, List.append_nil, lastOf_append,
    hnone .delete (by decide), hnone .move (by decide), hnone .create (by decide), Option.none_or,
    Option.or_none]

/-- Only deletions remove partitions. All deletions of a plan come before its moves and reuses,
    yet the mark that they leave does not depend on that. -/
theorem any_removes_iff {actions : Kind → List DiskAction} {number : Nat}
    (hkind : ∀ kind, ∀ a ∈ actions kind, a.kind = kind) :
    (partitionKinds.flatMap actions).any (removes number) = true ↔
      ∃ numbers, delete numbers ∈ actions .delete ∧ number ∈ numbers := by
  rw [List.any_eq_true]
  constructor
  · -- The kind of an action can be seen from it, so a deletion is one of the deletions.
    rintro ⟨a, ha, hremoves⟩
    rcases List.mem_flatMap.mp ha with ⟨kind, _, ha⟩
    cases a with
    | delete numbers =>
        obtain rfl : Kind.delete = kind := hkind kind _ ha
        exact ⟨numbers, ha, List.contains_iff_mem.mp hremoves⟩
    | relabel _ | move _ _ _ | reuse _ _ _ | create _ _ _ _ _ =>
        exact absurd hremoves Bool.false_ne_true
  · rintro ⟨numbers, hdelete, hnumber⟩
    exact ⟨.delete numbers, List.mem_flatMap.mpr ⟨.delete, List.mem_cons_self, hdelete⟩,
      List.contains_iff_mem.mpr hnumber⟩

end DiskAction

/-! ### Following -/

namespace Partition

variable {number : Nat} {actions first second : List DiskAction} {p q r : Partition}

/-- A partition `q` that actions on its disk have made of `p`, the one with a number: it is to be
    removed if it was or if one of them marks it, and it has what was asked for last. Where it
    lies is left out, since a moved partition is followed by its number. -/
structure Follows (number : Nat) (actions : List DiskAction) (p q : Partition) : Prop where
  removed : q.removed = (p.removed || actions.any (DiskAction.removes number))
  target : q.target = (DiskAction.lastOf (DiskAction.target? number) actions).or p.target
  mount : q.mount = (DiskAction.lastOf (DiskAction.mount? number) actions).or p.mount
  membership : q.membership =
    (DiskAction.lastOf (DiskAction.membership? number) actions).or p.membership

theorem Follows.refl (number : Nat) (p : Partition) : Follows number [] p p :=
  ⟨(Bool.or_false _).symm, rfl, rfl, rfl⟩

/-- To follow two stretches of actions one after the other is to follow both of them. -/
theorem Follows.trans (h : Follows number first p q) (h' : Follows number second q r) :
    Follows number (first ++ second) p r := by
  refine ⟨?_, ?_, ?_, ?_⟩
  · rw [h'.removed, h.removed, List.any_append, Bool.or_assoc]
  · rw [h'.target, h.target, DiskAction.lastOf_append, Option.or_assoc]
  · rw [h'.mount, h.mount, DiskAction.lastOf_append, Option.or_assoc]
  · rw [h'.membership, h.membership, DiskAction.lastOf_append, Option.or_assoc]

/-- One action, with what it asks for. -/
theorem follows_singleton {action : DiskAction}
    (hremoved : q.removed = (p.removed || action.removes number))
    (htarget : q.target = (action.target? number).or p.target)
    (hmount : q.mount = (action.mount? number).or p.mount)
    (hmembership : q.membership = (action.membership? number).or p.membership) :
    Follows number [action] p q := by
  refine ⟨?_, ?_, ?_, ?_⟩
  · rw [hremoved, List.any_cons, List.any_nil, Bool.or_false]
  · rw [htarget, DiskAction.lastOf_singleton]
  · rw [hmount, DiskAction.lastOf_singleton]
  · rw [hmembership, DiskAction.lastOf_singleton]

end Partition

namespace Disk

variable {d : Disk} {before after : List Partition} {p q : Partition}

/-- An exchange of the partition with a number is seen under that number only. The new partition
    has the number of the old one, so it stands in the way of no other. -/
theorem partition?_exchange {number : Int}
    (hat : FirstAt (isNumbered number) d.partitions before p after)
    (hnumber : q.number = p.number) (n : Int) :
    ({ d with partitions := before ++ q :: after } : Disk).partition? n =
      if n = number then some q else d.partition? n := by
  have hp : p.number = number := beq_iff_eq.mp hat.holds
  split
  · rename_i heq
    subst heq
    exact partition?_eq_some_iff.mpr
      ⟨before, after, hat.exchange (beq_iff_eq.mpr (hnumber.trans hp))⟩
  · rename_i hne
    have hother : ∀ p' : Partition, p'.number = number → isNumbered n p' = false :=
      fun p' hp' => beq_eq_false_iff_ne.mpr fun h => hne (h.symm.trans hp')
    unfold partition?
    rw [hat.split]
    exact find?_exchange (hother p hp) (hother q (hnumber.trans hp))

end Disk

namespace DiskAction

open DiskPlan.Partition (Follows)

variable {action : DiskAction} {actions : List DiskAction} {d d' : Disk} {n : Nat} {p : Partition}

/-- A deletion marks the partition with a number exactly if it names the number. The induction is
    on the numbers that are left to mark. A number may be named twice, and a partition that is
    marked is found and marked again. -/
theorem partition?_deleteAll {numbers : List Nat} (hok : (deleteAll d numbers).answer = .ok ())
    (hp : d.partition? n = some p) :
    (deleteAll d numbers).state.partition? n =
      some { p with removed := p.removed || numbers.contains n } := by
  induction numbers generalizing d p with
  | nil =>
      rw [List.contains_nil, Bool.or_false]
      exact hp
  | cons number rest ih =>
      rw [deleteAll] at hok ⊢
      rcases d.change_cases number fun p => { p with removed := true } with
        ⟨before, q, after, hat, hchange⟩ | ⟨_, e, hchange⟩
      · rw [hchange] at hok ⊢
        have hnext := Disk.partition?_exchange (q := { q with removed := true }) hat rfl n
        change (deleteAll _ rest).state.partition? n = _
        -- The partition in question is the one that is marked here, or it is passed over.
        by_cases hn : n = number
        · subst hn
          rw [Disk.partition?_eq_some_iff.mpr ⟨before, after, hat⟩] at hp
          obtain rfl := Option.some.inj hp
          rw [if_pos rfl] at hnext
          rw [ih hok hnext, List.contains_cons, beq_self_eq_true, Bool.true_or, Bool.or_true]
        · rw [if_neg fun h => hn (Int.ofNat_inj.mp h), hp] at hnext
          rw [ih hok hnext, List.contains_cons, beq_eq_false_iff_ne.mpr hn, Bool.false_or]
      · rw [hchange] at hok
        exact absurd hok (by simp only [Outcome.fail, Outcome.andThen, reduceCtorEq,
          not_false_eq_true])

/-- A move changes nothing of a partition but where it is. This holds of a move that fails as
    well, and of a partition with another number. -/
theorem partition?_move (number : Nat) (first? last? : Option Position)
    (hp : d.partition? n = some p) :
    ∃ first last, ((move number first? last?).run d).state.partition? n =
      some { p with first := first, last := last } := by
  -- Each half of a move exchanges the partition with the number for one in another range.
  have hmoved : ∀ {d : Disk} {before after : List Partition} {q : Partition} (first last : Int),
      FirstAt (Disk.isNumbered number) d.partitions before q after →
      (∃ first last, d.partition? n = some { p with first := first, last := last }) →
      ∃ first' last', ({ d with partitions :=
        before ++ { q with first := first, last := last } :: after } : Disk).partition? n =
          some { p with first := first', last := last' } := by
    intro d before after q first last hat ⟨first₀, last₀, hp⟩
    have hnext := Disk.partition?_exchange (q := { q with first := first, last := last }) hat rfl n
    by_cases hn : n = number
    · subst hn
      rw [Disk.partition?_eq_some_iff.mpr ⟨before, after, hat⟩] at hp
      obtain rfl := Option.some.inj hp
      exact ⟨first, last, hnext.trans (if_pos rfl)⟩
    · rw [if_neg fun h => hn (Int.ofNat_inj.mp h), hp] at hnext
      exact ⟨first₀, last₀, hnext⟩
  -- Both halves are in the list of changes, so the induction is on these and not on the chain.
  have hchanges := (move number first? last?).run_changes d
  generalize ((move number first? last?).run d).state = d' at hchanges ⊢
  induction hchanges with
  | refl => exact ⟨p.first, p.last, hp⟩
  | tail _ hchange ih =>
      cases hchange with
      | shift hat _ _ => exact hmoved _ _ hat ih
      | resize hat _ _ => exact hmoved _ _ hat ih

/-- What a reuse makes of a partition is what it asks for. What it does not ask for stays as it
    was before, and it never takes the mark away that a deletion has left. -/
theorem follows_reuse (content : Option Content) (suffix : Suffix) (p : Partition) :
    Follows n [.reuse n content suffix] p (withSuffix suffix (withContent content p)) := by
  have hcontent : (withContent content p).target = (content.map Content.target).or p.target ∧
      (withContent content p).membership =
        (content.bind Content.membership?).or p.membership := by
    cases content with
    | none => exact ⟨rfl, rfl⟩
    | some c => cases c <;> exact ⟨rfl, rfl⟩
  rcases hcontent with ⟨htarget, hmembership⟩
  rcases withSuffix_tags suffix (withContent content p) with ⟨htarget', hmembership'⟩
  -- Contents settle the target and the group, the suffix settles the mount point.
  apply Partition.follows_singleton
  · rw [(withSuffix_range suffix _).2.2, (withContent_range content p).2.2]
    exact (Bool.or_false _).symm
  · rw [htarget', htarget, target?, if_pos rfl]
  · rw [(withSuffix_mount suffix _).1, (withContent_mount content p).1, mount?, if_pos rfl]
  · rw [hmembership', hmembership, membership?, if_pos rfl]

/-- An action that succeeds makes of a partition what it asks of it. The partition is any one
    that is on the disk, and is left alone by actions that are for another number. -/
theorem follows_run (hok : (action.run d).answer = .ok ()) (hkind : action.kind ≠ .relabel)
    (hp : d.partition? n = some p) :
    ∃ q, (action.run d).state.partition? n = some q ∧ Follows n [action] p q := by
  cases action with
  | relabel _ => exact absurd rfl hkind
  | delete numbers =>
      exact ⟨_, partition?_deleteAll hok hp, Partition.follows_singleton rfl rfl rfl rfl⟩
  | move number first? last? =>
      rcases partition?_move number first? last? hp with ⟨first, last, hq⟩
      exact ⟨_, hq, Partition.follows_singleton (Bool.or_false _).symm rfl rfl rfl⟩
  | reuse number content suffix =>
      rw [run] at hok ⊢
      rcases d.change_cases number (withSuffix suffix ∘ withContent content) with
        ⟨before, q, after, hat, hchange⟩ | ⟨_, e, hchange⟩
      · have hidentity := (Edit.reuse number content suffix q).identity
        have hnext := Disk.partition?_exchange hat (Partition.number_of_identity hidentity) n
        rw [hchange]
        by_cases hn : n = number
        · subst hn
          rw [Disk.partition?_eq_some_iff.mpr ⟨before, after, hat⟩] at hp
          obtain rfl := Option.some.inj hp
          rw [if_pos rfl] at hnext
          exact ⟨_, hnext, follows_reuse content suffix q⟩
        · -- The reuse of another partition asks nothing of this one.
          rw [if_neg fun h => hn (Int.ofNat_inj.mp h), hp] at hnext
          refine ⟨p, hnext, Partition.follows_singleton (Bool.or_false _).symm ?_ ?_ ?_⟩
          · rw [target?, if_neg (Ne.symm hn), Option.none_or]
          · rw [mount?, if_neg (Ne.symm hn), Option.none_or]
          · rw [membership?, if_neg (Ne.symm hn), Option.none_or]
      · rw [hchange] at hok
        exact absurd hok (by simp only [Outcome.fail, reduceCtorEq, not_false_eq_true])
  | create role first? last? content suffix =>
      rcases run_create_of_ok hok with ⟨first, last, path, _, _, hstate⟩
      refine ⟨p, ?_, Partition.follows_singleton (Bool.or_false _).symm rfl rfl rfl⟩
      rw [hstate]
      -- The new partition comes behind the one that is found.
      exact (List.find?_append ..).trans (by rw [show d.partitions.find? _ = some p from hp]; rfl)

/-- Actions that succeed make of a partition what they ask of it. -/
theorem Runs.follows (h : Runs actions d d') (hkind : ∀ a ∈ actions, a.kind ≠ .relabel)
    (hp : d.partition? n = some p) :
    ∃ q, d'.partition? n = some q ∧ Follows n actions p q := by
  induction h generalizing p with
  | nil _ => exact ⟨p, hp, .refl n p⟩
  | cons hok _ ih =>
      rw [List.forall_mem_cons] at hkind
      rcases follows_run hok hkind.1 hp with ⟨q, hq, hfirst⟩
      rcases ih hkind.2 hq with ⟨r, hr, hrest⟩
      exact ⟨r, hr, hfirst.trans hrest⟩

/-- A move and a reuse that succeed have found their partition. -/
theorem exists_partition?_of_run (hok : (action.run d).answer = .ok ())
    (hn : action.number? = some n) : ∃ p, d.partition? n = some p := by
  cases action with
  | relabel _ | delete _ | create _ _ _ _ _ =>
      exact absurd hn (by simp only [number?, reduceCtorEq, not_false_eq_true])
  | move number first? last? =>
      obtain rfl := Option.some.inj hn
      rcases Outcome.andThen_unit_eq_ok_iff.mp hok with ⟨hfirst, _⟩
      rcases Outcome.andThen_eq_ok_iff.mp hfirst with ⟨p, hp, _⟩
      exact ⟨p, Disk.requirePartition_eq_ok_iff.mp hp⟩
  | reuse number content suffix =>
      obtain rfl := Option.some.inj hn
      rcases d.change_cases number (withSuffix suffix ∘ withContent content) with
        ⟨before, p, after, hat, _⟩ | ⟨_, e, hchange⟩
      · exact ⟨p, Disk.partition?_eq_some_iff.mpr ⟨before, after, hat⟩⟩
      · rw [run, hchange] at hok
        exact absurd hok (by simp only [Outcome.fail, reduceCtorEq, not_false_eq_true])

/-- A number that some partition has, some partition with the same identity has. -/
theorem exists_partition?_of_identities {number : Int}
    (h : d'.partitions.map Partition.identity = d.partitions.map Partition.identity)
    (hd' : ∃ p, d'.partition? number = some p) : ∃ p, d.partition? number = some p := by
  rcases hd' with ⟨q, hq⟩
  have hmem : q.identity ∈ d.partitions.map Partition.identity := by
    rw [← h]
    exact List.mem_map_of_mem (List.mem_of_find?_eq_some hq)
  rcases List.mem_map.mp hmem with ⟨p, hp, hidentity⟩
  refine Option.isSome_iff_exists.mp (List.find?_isSome.mpr ⟨p, hp, ?_⟩)
  rw [Partition.number_of_identity hidentity]
  exact List.find?_some (p := Disk.isNumbered number) hq

/-- What a move or a reuse names is there before any of the edits, since none of them brings a
    partition along. This is why nothing is lost when the actions are followed from the first one
    on. -/
theorem Runs.exists_partition? (h : Runs actions d d') (hedit : ∀ a ∈ actions, a.isEdit)
    (haction : action ∈ actions) (hn : action.number? = some n) :
    ∃ p, d.partition? n = some p := by
  induction h with
  | nil _ => exact absurd haction List.not_mem_nil
  | @cons first rest d _ hok hrest ih =>
      rw [List.forall_mem_cons] at hedit
      -- Either it is the first action, which has found its partition, or the disk that the others
      -- start with has the same partitions by identity.
      rcases List.mem_cons.mp haction with rfl | haction
      · exact exists_partition?_of_run hok hn
      · have hfirst : Runs [first] d (first.run d).state := .cons hok (.nil _)
        have hidentities := (hfirst.edits (List.forall_mem_singleton.mpr hedit.1)).1
        exact exists_partition?_of_identities hidentities (ih hedit.2 haction)

end DiskAction

/-! ### Partitions of a plan -/

namespace Partition

/-- A partition with all that the actions of a plan ask of the one with its number: it is to be
    removed exactly if a deletion names it, and it has what reuses ask for last. A removed
    partition can have contents and a mount point by this. -/
structure Heeds (p : Partition) (number : Nat) (actions : Kind → List DiskAction) : Prop where
  removed_iff : p.removed = true ↔
    ∃ numbers, DiskAction.delete numbers ∈ actions .delete ∧ number ∈ numbers
  target : p.target = DiskAction.lastOf (DiskAction.target? number) (actions .reuse)
  mount : p.mount = DiskAction.lastOf (DiskAction.mount? number) (actions .reuse)
  membership : p.membership = DiskAction.lastOf (DiskAction.membership? number) (actions .reuse)

/-- As it is found, nothing is asked of a partition. -/
structure IsUntouched (p : Partition) : Prop where
  removed : p.removed = false
  target : p.target = none
  mount : p.mount = none
  membership : p.membership = none

variable {number : Nat} {actions : Kind → List DiskAction} {p q : Partition}

/-- An untouched partition heeds the actions that it follows. Nothing was asked of it before, so
    all that it has at the end comes from the actions. -/
theorem Follows.heeds (h : Follows number (DiskAction.partitionKinds.flatMap actions) p q)
    (hp : p.IsUntouched) (hkind : ∀ kind, ∀ a ∈ actions kind, a.kind = kind) :
    q.Heeds number actions := by
  -- Among the kinds only reuses ask for contents or a mount point.
  have hother : ∀ a : DiskAction, a.kind ≠ .reuse →
      a.target? number = none ∧ a.mount? number = none ∧ a.membership? number = none := by
    intro a ha
    cases a with
    | reuse _ _ _ => exact absurd rfl ha
    | relabel _ | delete _ | move _ _ _ | create _ _ _ _ _ => exact ⟨rfl, rfl, rfl⟩
  refine ⟨?_, ?_, ?_, ?_⟩
  · rw [h.removed, hp.removed, Bool.false_or, DiskAction.any_removes_iff hkind]
  · rw [h.target, hp.target, Option.or_none]
    exact DiskAction.lastOf_partitionKinds hkind fun a ha => (hother a ha).1
  · rw [h.mount, hp.mount, Option.or_none]
    exact DiskAction.lastOf_partitionKinds hkind fun a ha => (hother a ha).2.1
  · rw [h.membership, hp.membership, Option.or_none]
    exact DiskAction.lastOf_partitionKinds hkind fun a ha => (hother a ha).2.2

end Partition

/-- What a run of the actions of a plan makes of a partition that one of them names. New tables
    come first and leave no partition, so the partition is followed from behind them. -/
theorem Disk.heeds_of_runs {actions : Kind → List DiskAction} {found d : Disk}
    (hfound : ∀ p ∈ found.partitions, p.IsUntouched)
    (hkind : ∀ kind, ∀ a ∈ actions kind, a.kind = kind)
    (h : DiskAction.Runs (diskKinds.flatMap actions) found d) {kind : Kind} {action : DiskAction}
    (haction : action ∈ actions kind) {n : Nat} (hn : action.number? = some n) :
    ∃ p, d.partition? n = some p ∧ p.Heeds n actions := by
  have hkinds : diskKinds.flatMap actions =
      actions .relabel ++ DiskAction.partitionKinds.flatMap actions := rfl
  have hpartitionKinds : DiskAction.partitionKinds.flatMap actions =
      DiskAction.editKinds.flatMap actions ++ actions .create := by
    simp only [DiskAction.partitionKinds, DiskAction.editKinds, List.flatMap_cons,
      List.flatMap_nil, List.append_nil, List.append_assoc]
  rw [hkinds] at h
  rcases DiskAction.runs_append_iff.mp h with ⟨d₁, htables, hrest⟩
  -- Under a new table there are no partitions, and otherwise those that were found.
  have huntouched : ∀ p ∈ d₁.partitions, p.IsUntouched := by
    rw [htables.eq_of_relabels (hkind .relabel)]
    cases DiskAction.lastTable? (actions .relabel) with
    | none => exact hfound
    | some table => exact fun _ hp => absurd hp List.not_mem_nil
  -- A move or a reuse is an edit, and new partitions come behind all edits.
  have hedit : action ∈ DiskAction.editKinds.flatMap actions := by
    have hkinds : Kind.move ∈ DiskAction.editKinds ∧ Kind.reuse ∈ DiskAction.editKinds := by decide
    refine List.mem_flatMap.mpr ⟨kind, ?_, haction⟩
    rw [← hkind kind action haction]
    cases action with
    | relabel _ | delete _ | create _ _ _ _ _ =>
        exact absurd hn (by simp only [DiskAction.number?, reduceCtorEq, not_false_eq_true])
    | move _ _ _ => exact hkinds.1
    | reuse _ _ _ => exact hkinds.2
  have hfirst := hrest
  rw [hpartitionKinds] at hfirst
  rcases DiskAction.runs_append_iff.mp hfirst with ⟨d₂, hedits, _⟩
  -- The partition is there before the first edit, so all of them can be followed.
  rcases hedits.exists_partition? (DiskAction.isEdit_of_mem hkind) hedit hn with ⟨p, hp⟩
  have hnew : ∀ a ∈ DiskAction.partitionKinds.flatMap actions, a.kind ≠ .relabel := by
    intro a ha
    rcases List.mem_flatMap.mp ha with ⟨kind, hmem, ha⟩
    rw [hkind kind a ha]
    rintro rfl
    exact absurd hmem (by decide)
  rcases hrest.follows hnew hp with ⟨q, hq, hfollows⟩
  exact ⟨q, hq, hfollows.heeds (huntouched p (List.mem_of_find?_eq_some hp)) hkind⟩

/-- What a layout says of a partition, nobody has asked for. -/
theorem isUntouched_of_load {path contents : String} {probe : Probe}
    (hload : (Layout.load path contents).answer = .ok probe) {name : String} {d : Disk}
    (h : (probe.lookup name).answer = .ok (some d)) : ∀ p ∈ d.partitions, p.IsUntouched := by
  rcases Layout.load_eq_ok_iff.mp hload with ⟨layouts, _, rfl⟩
  rcases Layout.mem_built_iff.mp (mem_of_lookup_static h) with ⟨layout, _, _, _, rfl⟩
  intro p hp
  rcases List.mem_map.mp hp with ⟨source, _, rfl⟩
  exact ⟨rfl, rfl, rfl, rfl⟩

/-! ### What is told -/

/-- What partitioning tells of a partition on a disk: that it is removed, or else what it is
    formatted with and where it is mounted, and the volume group that it is a device of. Nothing
    is told of what was asked of a partition that is removed. -/
structure Partition.IsTold (p : Partition) (d : Disk) (log : List Event) : Prop where
  removed : p.removed = true → .wouldRemove p.path ∈ log
  formatted : p.removed = false → ∀ fs, p.target = some fs → .wouldFormat p.path fs p.mount ∈ log
  grouped : p.removed = false → p.target = some .lvm → ∀ m, p.membership = some m →
    ∃ devices volumes, .wouldCreateGroup m.group devices volumes ∈ log ∧
      PhysicalVolume.device (d, p) ∈ devices

/-- The partitions of a plan are told, each for itself. Its own event is among those of its disk,
    and its group is found by the name that its membership carries. -/
theorem Topology.isTold_of_mem {t : Topology} (ht : t.IsGrouped) {d : Disk} (hd : d ∈ t.disks)
    {p : Partition} (hp : p ∈ d.partitions) : p.IsTold d t.events.flatten := by
  have hevent : ∀ e, p.event? = some e → e ∈ t.events.flatten := by
    intro e he
    refine List.mem_flatten.mpr ⟨d.events, ?_, ?_⟩
    · exact List.mem_append_left _ (List.mem_map_of_mem hd)
    · exact List.mem_append_right _ (List.mem_filterMap.mpr ⟨p, hp, he⟩)
  refine ⟨fun hremoved => ?_, fun hstays fs hfs => ?_, fun hstays hlvm m hm => ?_⟩
  · exact hevent _ (if_pos hremoved)
  · refine hevent _ ?_
    rw [Partition.event?, hstays, hfs]
    rfl
  · -- A partition that stays and is to be a physical volume is a member of exactly one group.
    have hvolume : (d, p) ∈ t.physicalVolumes := by
      refine List.mem_flatMap.mpr ⟨d, hd, List.mem_map.mpr ⟨p, List.mem_filter.mpr ⟨hp, ?_⟩, rfl⟩⟩
      rw [hstays, hlvm, beq_self_eq_true]
      rfl
    rcases (ht.once (d, p) hvolume).exists with ⟨g, hg, hname⟩
    have hgroup : m.group = g.name := by
      rw [PhysicalVolume.group?, hm] at hname
      exact Option.some.inj hname
    refine ⟨g.physicalVolumes, g.partitions.map Partition.name, ?_, ?_⟩
    · rw [hgroup]
      refine List.mem_flatten.mpr ⟨[g.event], ?_, List.mem_singleton_self _⟩
      exact List.mem_append_right _ (List.mem_map_of_mem hg)
    · rw [ht.devices g hg]
      exact List.mem_map_of_mem (List.mem_filter.mpr ⟨hvolume, beq_iff_eq.mpr hname⟩)

/-- A partition that a move or a reuse of a plan names is to be removed exactly if a deletion of
    the plan names it too. It has what was asked for last either way, and the log of an
    installation tells it if it stays. -/
theorem configure_removes_iff {path contents : String} {probe : Probe}
    (hload : (Layout.load path contents).answer = .ok probe) {r : Requests}
    (h : (configure probe r).answer = .ok ()) {i : Nat} {d : Disk}
    (hd : (configure probe r).state.disks[i]? = some d) {kind : Kind} {action : DiskAction}
    (haction : action ∈ (configure probe r).state.actionsAt i kind (r.tokens kind)) {n : Nat}
    (hn : action.number? = some n) :
    ∃ p, d.partition? n = some p ∧
      p.Heeds n (fun kind => (configure probe r).state.actionsAt i kind (r.tokens kind)) ∧
      ∀ installation : Installation, installation.topology = (configure probe r).state →
        ∀ progress, p.IsTold d (installation.describe .partition progress).log := by
  -- The plan is followed from the disks that were found, for one disk and its actions alone.
  rcases configure_carries h with ⟨found, hfound, hcarries⟩
  have huntouched : ∀ d ∈ found, ∀ p ∈ d.partitions, p.IsUntouched :=
    forall_mem_of_forall₂ hfound fun _ _ _ hlookup => isUntouched_of_load hload hlookup
  have hlt : i < found.length := by
    rw [← hcarries.length]
    exact (List.getElem?_eq_some_iff.mp hd).1
  have hruns := hcarries.runs (List.getElem?_eq_getElem hlt) hd
  rcases Disk.heeds_of_runs (huntouched _ (List.getElem_mem hlt))
    (fun kind _ ha => Topology.kind_of_mem_actionsAt ha) hruns haction hn with ⟨p, hp, hheeds⟩
  -- What partitioning tells goes through the devices of the plan and adds nothing of its own.
  refine ⟨p, hp, hheeds, fun installation htopology progress => ?_⟩
  have hlog := (installation.describeDevices_log installation.topology.events.length 0
    installation.topology.events progress).2
  change p.IsTold d (installation.describeDevices _ _ _ progress).log
  rw [hlog, htopology]
  exact Topology.isTold_of_mem (isGrouped_of_ok hload h) (List.mem_of_getElem? hd)
    (List.mem_of_find?_eq_some hp)

/-- A plan that removes a partition and gives it a filesystem, and puts another one into a
    volume group. -/
def Requests.ofKept : Requests where
  disks := ["sda"]
  tables := []
  deletes := ["sda:3"]
  moves := []
  reuses := ["sda:3:ext4:mount=/data", "sda:1:ext4", "sda:1:lvm=data"]
  creates := []
  logicals := []

theorem configure_removes_iff_ofKept :
    let plan := configure (.static Disk.ofGap) .ofKept
    let actions := fun kind => plan.state.actionsAt 0 kind (Requests.ofKept.tokens kind)
    (Layout.load "layout.json" Layout.ofGap).answer = .ok (.static Disk.ofGap) ∧
      plan.answer = .ok () ∧
      (DiskAction.reuse 3 (some (.plain .ext4)) ⟨some (.parse "/data"), none, none⟩ ∈
        actions .reuse) ∧
      ∃ d ∈ plan.state.disks, ∃ p, d.partition? 3 = some p ∧ p.Heeds 3 actions := by
  intro plan actions
  have hplan : plan.answer = .ok () := by decide +kernel
  have hreuse : DiskAction.reuse 3 (some (.plain .ext4)) ⟨some (.parse "/data"), none, none⟩ ∈
      actions .reuse := by decide +kernel
  have hlt : 0 < plan.state.disks.length := by decide +kernel
  have hd := List.getElem?_eq_getElem hlt
  rcases configure_removes_iff Layout.load_ofGap hplan hd hreuse rfl with ⟨p, hp, hheeds, _⟩
  exact ⟨Layout.load_ofGap, hplan, hreuse, _, List.getElem_mem hlt, p, hp, hheeds⟩

/-- A plan can remove a partition that it has a filesystem and a mount point for. Partitioning
    tells that the partition is removed, and nothing else of it. -/
theorem configure_removes_reused_ofKept :
    let plan := configure (.static Disk.ofGap) .ofKept
    plan.answer = .ok () ∧
      plan.state.disks.map (fun d => d.partitions.map fun p =>
          (p.path, p.removed, p.target, p.mount.map Path.text)) =
        [[("/dev/sda1", false, some .lvm, none), ("/dev/sda3", true, some .ext4, some "/data")]] ∧
      ((Installation.ofPlan plan.state).describe .partition (.start false)).log.map
          (fun e => (e.record.event, (Json.get? "partition" e.record.fields).map Json.compact)) =
        [("Would format partition", some "\"/dev/sda1\""),
          ("Would remove partition", some "\"/dev/sda3\""),
          ("Would create volume group", none)] :=
  ⟨by decide +kernel, by decide +kernel, by decide +kernel⟩

end DiskPlan
