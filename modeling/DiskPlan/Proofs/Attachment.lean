import DiskPlan.Proofs.Session
import Mathlib.Data.List.Induction
import Mathlib.Data.List.Infix

/-!
# Attachments

Whether the volume group of a partition and its target go together.

A partition says twice that it is to be a physical volume: its target is LVM, and
it belongs to a group. Only partitions that say both become one. No token makes
the first true without the second, since LVM is not among the filesystems that a
field can name, so a target of LVM always comes with a group.

The other direction fails. A partition that is reused under a plain filesystem
keeps the group that an earlier token gave it, so it goes on naming a group that it
is no part of. `Retags` says when a token does that, and `isAligned_throughout_iff`
that nothing else does: along a run all partitions are aligned exactly if no token
of the run retags one.

## Main definitions

* `Partition.IsUnplanned`, `Partition.IsUnmounted`: A partition as a probe finds it.
* `Partition.IsAttached`: A target of LVM comes with a group.
* `Partition.IsAligned`: A target of LVM and a group come together.
* `Topology.ForallPartitions`: All partitions of all disks.
* `Retags`: A token puts a plain filesystem on a partition of a group.

## Theorems

* `DiskAction.Change.isAttached`: Every change keeps partitions attached.
* `applyToken_isAligned`: A token that retags nothing keeps partitions aligned.
* `not_isAligned_of_retags`: A token that retags does not.
* `isAligned_throughout_iff`: Which runs keep partitions aligned.
-/

namespace DiskPlan

open Relation

namespace Partition

/-- As a probe finds it, a partition is not to be formatted and in no group. -/
def IsUnplanned (p : Partition) : Prop :=
  p.target = none ∧ p.membership = none

/-- As a probe finds it, a partition has no mount point and no key. -/
def IsUnmounted (p : Partition) : Prop :=
  p.mount = none ∧ p.keyId = none

/-- A partition that is to be formatted as a physical volume belongs to a group. This is the half
    that the making of groups rests on, and no token breaks it. -/
def IsAttached (p : Partition) : Prop :=
  p.target = some .lvm → p.membership.isSome = true

/-- A partition belongs to a group exactly if it is to be formatted as a physical volume. The
    other half is lost when a plain filesystem is put on a partition that is in a group already. -/
def IsAligned (p : Partition) : Prop :=
  p.membership.isSome = true ↔ p.target = some .lvm

instance (p : Partition) : Decidable p.IsUnplanned :=
  inferInstanceAs (Decidable (_ ∧ _))

instance (p : Partition) : Decidable p.IsAligned :=
  inferInstanceAs (Decidable (_ ↔ _))

theorem IsAligned.isAttached {p : Partition} (h : p.IsAligned) : p.IsAttached :=
  h.mpr

theorem IsUnplanned.isAligned {p : Partition} (h : p.IsUnplanned) : p.IsAligned := by
  unfold IsAligned
  rw [h.1, h.2]
  simp only [Option.isSome_none, Bool.false_eq_true, reduceCtorEq]

end Partition

/-- Something is true of all partitions of all disks. -/
def Topology.ForallPartitions (P : Partition → Prop) (t : Topology) : Prop :=
  ∀ d ∈ t.disks, ∀ p ∈ d.partitions, P p

instance (P : Partition → Prop) [DecidablePred P] (t : Topology) :
    Decidable (t.ForallPartitions P) :=
  inferInstanceAs (Decidable (∀ d ∈ t.disks, ∀ p ∈ d.partitions, P p))

/-! ### Edits -/

/-- Contents bring a group along exactly if they are formatted as a physical volume. Tokens
    cannot name that filesystem without a group, which is what the hypothesis is about. -/
theorem Content.isSome_membership?_iff {c : Content} (h : c.Asked) :
    c.membership?.isSome = true ↔ c.target = .lvm := by
  rw [target_eq_lvm_iff h]
  cases c with
  | plain fs => simp only [membership?, Option.isSome_none, Bool.false_eq_true, reduceCtorEq,
      exists_false]
  | physicalVolume m => exact ⟨fun _ => ⟨m, rfl⟩, fun _ => rfl⟩

namespace DiskAction

/-- Where a partition is mounted has no bearing on what it is to hold. -/
theorem withSuffix_tags (suffix : Suffix) (p : Partition) :
    (withSuffix suffix p).target = p.target ∧ (withSuffix suffix p).membership = p.membership := by
  unfold withSuffix Partition.mountedAt
  cases suffix.mount <;> cases suffix.flags <;> cases suffix.keyId <;> exact ⟨rfl, rfl⟩

theorem withContent_mount (content : Option Content) (p : Partition) :
    (withContent content p).mount = p.mount ∧ (withContent content p).keyId = p.keyId := by
  unfold withContent
  split <;> exact ⟨rfl, rfl⟩

/-- A suffix without a mount point leaves the one that is there, and cannot bring a key. -/
theorem withSuffix_mount (suffix : Suffix) (p : Partition) :
    (withSuffix suffix p).mount = suffix.mount.or p.mount ∧
      (suffix.mount = none → (withSuffix suffix p).keyId = p.keyId) := by
  unfold withSuffix Partition.mountedAt
  cases suffix.mount <;> cases suffix.flags <;> cases suffix.keyId <;> simp

/-- Putting a plain filesystem that a token can name on a partition leaves it in its
    group, so it ends up aligned exactly if it was in none. -/
theorem isAligned_plain_iff {fs : Filesystem} (h : (Content.plain fs).Asked) (suffix : Suffix)
    (p : Partition) :
    (withSuffix suffix (withContent (some (.plain fs)) p)).IsAligned ↔ p.membership = none := by
  -- A token cannot name the filesystem of physical volumes as a plain one.
  have hfs : (some fs = some Filesystem.lvm) ↔ False := by
    rw [Option.some.injEq, ← show (Content.plain fs).target = fs from rfl,
      ← Content.isSome_membership?_iff h]
    exact iff_of_false Bool.false_ne_true id
  unfold Partition.IsAligned
  rw [(withSuffix_tags suffix _).1, (withSuffix_tags suffix _).2]
  dsimp only [withContent]
  rw [hfs, iff_false, Bool.not_eq_true, Option.isSome_eq_false_iff, Option.isNone_iff_eq_none]

/-- A new partition is aligned from the start: its contents settle both sides at once. -/
theorem isAligned_request {content : Content} (h : content.Asked) (role : Role) (suffix : Suffix)
    (first last : Int) (path : String) (number : Int) :
    ((request role content suffix first last).build path number).IsAligned := by
  unfold Partition.IsAligned
  dsimp only [request, Request.build]
  rw [Content.isSome_membership?_iff h, Option.some.injEq]

/-- Every edit but putting a plain filesystem on a partition keeps it aligned. Contents that
    bring a group set both sides, and the other edits set neither. -/
theorem Edit.isAligned {action : DiskAction} {p q : Partition} (h : action.Edit p q)
    (hplain : ∀ number fs suffix, action ≠ .reuse number (some (.plain fs)) suffix)
    (hp : p.IsAligned) : q.IsAligned := by
  cases h with
  | mark => exact hp
  | range => exact hp
  | reuse number content suffix =>
      unfold Partition.IsAligned
      rw [(withSuffix_tags suffix _).1, (withSuffix_tags suffix _).2]
      cases content with
      | none => exact hp
      | some c =>
          cases c with
          | plain fs => exact absurd rfl (hplain number fs suffix)
          | physicalVolume m => exact iff_of_true rfl rfl

/-- Every edit keeps a partition attached: the one that leaves a group behind does not lead to a
    target of LVM. Unlike alignment this holds without any condition on the edit. -/
theorem Edit.isAttached {kind : Kind} {name : String} {action : DiskAction} {p q : Partition}
    (h : action.Edit p q) (hasked : (Operation.onDisk name action).Asked kind)
    (hp : p.IsAttached) : q.IsAttached := by
  cases h with
  | mark => exact hp
  | range => exact hp
  | reuse number content suffix =>
      cases hasked with
      | reuse _ _ hcontent _ =>
          unfold Partition.IsAttached
          rw [(withSuffix_tags suffix _).1, (withSuffix_tags suffix _).2]
          -- Without contents the partition stays as it is, a group comes with its target, and a
          -- plain filesystem is never the one that would need a group.
          cases content with
          | none => exact hp
          | some c =>
              cases c with
              | plain fs =>
                  -- The group stays, but then nothing is said about it.
                  intro hfs
                  have hlvm := (Content.isSome_membership?_iff (hcontent _ rfl)).mpr
                    (Option.some.inj hfs)
                  exact absurd hlvm Bool.false_ne_true
              | physicalVolume m => exact fun _ => rfl

end DiskAction

/-- Every change keeps the partitions of a disk attached. New partitions start attached, so
    nothing more is needed than what is known of edits. -/
theorem DiskAction.Change.isAttached {kind : Kind} {name : String} {action : DiskAction}
    {d d' : Disk} (h : action.Change d d') (hasked : (Operation.onDisk name action).Asked kind)
    (hd : ∀ p ∈ d.partitions, p.IsAttached) : ∀ p ∈ d'.partitions, p.IsAttached := by
  refine h.forall_partitions (fun p q hedit hp => hedit.isAttached hasked hp) ?_ hd
  rintro role first? last? content suffix rfl first last path number
  cases hasked with
  | create _ _ _ _ hcontent _ =>
      exact (isAligned_request hcontent role suffix first last path number).isAttached

/-! ### Tokens -/

/-- The partition that a name and a number stand for. -/
def Topology.partition? (t : Topology) (name : String) (number : Nat) : Option Partition :=
  (t.disk? name).bind fun d => d.partition? number

/-- A token asks for a plain filesystem on a partition that belongs to a group. The partition is
    the one that the token finds, so this depends on the topology and not on the token alone. -/
def Retags (kind : Kind) (token : String) (t : Topology) : Prop :=
  ∃ name number fs suffix p,
    (Operation.read kind token).operation =
        .ok (.onDisk name (.reuse number (some (.plain fs)) suffix)) ∧
      t.partition? name number = some p ∧ p.membership.isSome = true

/-- Where a token leads that asks for contents of a partition that exists. The disk is the first
    one of its name and the partition the first one of its number, and both are changed in their
    place. -/
theorem Operation.run_reuse_of_firstAt {name : String} {number : Nat} {content : Option Content}
    {suffix : Suffix} {t : Topology} {before after : List Disk} {d : Disk}
    {before' after' : List Partition} {p : Partition}
    (hd : FirstAt (fun d => d.isNamed name) t.disks before d after)
    (hp : FirstAt (Disk.isNumbered number) d.partitions before' p after') :
    (run (.onDisk name (.reuse number content suffix)) t).state.disks =
      before ++ { d with partitions :=
        before' ++ DiskAction.withSuffix suffix (DiskAction.withContent content p) :: after' } ::
          after := by
  have hfound : d.requirePartition number = .ok p :=
    Disk.requirePartition_eq_ok_iff.mpr (Disk.partition?_eq_some_iff.mpr ⟨before', after', hp⟩)
  rw [(run_onDisk_of_firstAt hd _).1]
  simp only [DiskAction.run, Disk.change, hfound, Outcome.done, Disk.updatePartition_eq hp,
    Function.comp_apply]

/-- A token for a partition that does not exist leaves everything as it was. -/
theorem Operation.run_reuse_of_none {name : String} {number : Nat} {t : Topology}
    (h : t.partition? name number = none) (content : Option Content) (suffix : Suffix) :
    (run (.onDisk name (.reuse number content suffix)) t).state = t := by
  cases hfound : t.disk? name with
  | none => exact (run_onDisk_of_none hfound _).1
  | some d =>
      rcases find?_eq_some_iff_firstAt.mp hfound with ⟨before, after, hd⟩
      -- The disk is found, so it is the number that stands for nothing.
      have hnone : d.partition? number = none := by
        rw [← h, Topology.partition?, hfound, Option.bind_some]
      rw [(run_onDisk_of_firstAt hd _).1]
      simp only [DiskAction.run, Disk.change, Disk.requirePartition, hnone, Outcome.fail]
      rw [← hd.split]

theorem Topology.partition?_eq_some_iff {t : Topology} {name : String} {number : Nat}
    {p : Partition} :
    t.partition? name number = some p ↔
      ∃ before d after before' after', FirstAt (fun d => d.isNamed name) t.disks before d after ∧
        FirstAt (Disk.isNumbered number) d.partitions before' p after' := by
  unfold partition?
  rw [Option.bind_eq_some_iff]
  constructor
  · rintro ⟨d, hd, hp⟩
    rcases find?_eq_some_iff_firstAt.mp hd with ⟨before, after, hd⟩
    rcases Disk.partition?_eq_some_iff.mp hp with ⟨before', after', hp⟩
    exact ⟨before, d, after, before', after', hd, hp⟩
  · rintro ⟨before, d, after, before', after', hd, hp⟩
    exact ⟨d, find?_eq_some_iff_firstAt.mpr ⟨before, after, hd⟩,
      Disk.partition?_eq_some_iff.mpr ⟨before', after', hp⟩⟩

/-- A token that retags nothing keeps all partitions aligned. A plain filesystem is looked at by
    itself, since there the hypothesis is needed; all other operations keep single partitions
    aligned, whether they succeed or not. -/
theorem applyToken_isAligned {kind : Kind} {token : String} {t : Topology}
    (ht : t.ForallPartitions Partition.IsAligned) (h : ¬ Retags kind token t) :
    (applyToken kind token t).state.ForallPartitions Partition.IsAligned := by
  cases hread : (Operation.read kind token).operation with
  | error f =>
      rw [applyToken_state_of_error hread]
      exact ht
  | ok op =>
      rw [applyToken_state_of_ok hread]
      have hasked := Operation.asked_of_read hread
      by_cases hplain : ∃ name number fs suffix,
          op = .onDisk name (.reuse number (some (.plain fs)) suffix)
      · -- The partition that is found was in no group, or the token would retag it.
        rcases hplain with ⟨name, number, fs, suffix, rfl⟩
        cases hfound : t.partition? name number with
        | none =>
            rw [Operation.run_reuse_of_none hfound]
            exact ht
        | some p =>
            have hnone : p.membership = none := by
              rw [← Option.not_isSome_iff_eq_none]
              exact fun hsome => h ⟨name, number, fs, suffix, p, hread, hfound, hsome⟩
            rcases Topology.partition?_eq_some_iff.mp hfound with ⟨_, d, _, _, _, hd, hp⟩
            unfold Topology.ForallPartitions
            rw [Operation.run_reuse_of_firstAt hd hp]
            refine hd.forall_mem_exchange (hp.forall_mem_exchange fun _ => ?_) ht
            cases hasked with
            | reuse _ _ hcontent _ =>
                exact (DiskAction.isAligned_plain_iff (hcontent _ rfl) suffix p).mpr hnone
      · -- Everything else that a token can ask for keeps each partition aligned.
        rcases op.run_cases t with hsame | hchange
        · rw [hsame]
          exact ht
        · generalize (op.run t).state = t' at hchange
          cases hchange with
          | onGroup _ _ => exact ht
          | @onDisk name action _ before after d d' hat hchanges =>
              have hother : ∀ number fs suffix,
                  action ≠ .reuse number (some (.plain fs)) suffix := by
                rintro number fs suffix rfl
                exact hplain ⟨name, number, fs, suffix, rfl⟩
              refine hat.forall_mem_exchange (fun hd => ?_) ht
              -- The induction is on the changes of one disk. What was known of its place is not
              -- needed there.
              clear hat
              induction hchanges with
              | refl => exact hd
              | tail _ hchange ih =>
                  refine hchange.forall_partitions (fun p q hedit => hedit.isAligned hother) ?_ ih
                  rintro role first? last? content suffix rfl first last path number
                  cases hasked with
                  | create _ _ _ _ hcontent _ =>
                      exact DiskAction.isAligned_request hcontent role suffix first last path number

/-- A token that retags a partition leaves it in a group that it is no part of. Such a token
    always succeeds, so the partition can be pointed at in the topology that it leaves. -/
theorem not_isAligned_of_retags {kind : Kind} {token : String} {t : Topology}
    (h : Retags kind token t) :
    ¬ (applyToken kind token t).state.ForallPartitions Partition.IsAligned := by
  rcases h with ⟨name, number, fs, suffix, p, hread, hfound, hsome⟩
  rcases Topology.partition?_eq_some_iff.mp hfound with ⟨_, d, _, _, _, hd, hp⟩
  intro haligned
  unfold Topology.ForallPartitions at haligned
  rw [applyToken_state_of_ok hread, Operation.run_reuse_of_firstAt hd hp] at haligned
  -- It is enough to look at the one partition that the token is for.
  have hdisk := haligned _ (List.mem_append_right _ List.mem_cons_self)
  have hpart := hdisk _ (List.mem_append_right _ List.mem_cons_self)
  have hnone : p.membership = none := by
    cases Operation.asked_of_read hread with
    | reuse _ _ hcontent _ =>
        exact (DiskAction.isAligned_plain_iff (hcontent _ rfl) suffix p).mp hpart
  rw [hnone] at hsome
  exact absurd hsome Bool.false_ne_true

/-! ### Runs -/

/-- A run of tokens on partitions as a probe finds them keeps all of them attached. It keeps them
    aligned all along exactly if no token puts a plain filesystem on a partition that belongs to
    a group by then. The condition is about all prefixes of the run, since a later token can put
    a partition right again that was out of line for a while. -/
theorem isAligned_throughout_iff (t : Topology)
    (ht : t.ForallPartitions Partition.IsUnplanned) (tokens : List (Kind × String)) :
    (t.afterTokens tokens).ForallPartitions Partition.IsAttached ∧
      ((∀ done, done <+: tokens → (t.afterTokens done).ForallPartitions Partition.IsAligned) ↔
        ∀ done kind token, done ++ [(kind, token)] <+: tokens →
          ¬ Retags kind token (t.afterTokens done)) := by
  have hfresh : t.ForallPartitions Partition.IsAligned :=
    fun d hd p hp => (ht d hd p hp).isAligned
  refine ⟨?_, ?_, ?_⟩
  · -- Attachment is kept by every change, so it is kept by everything that a run can reach.
    exact Topology.disks_of_reaches (fun hasked hchange => hchange.isAttached hasked)
      (t.afterTokens_reaches tokens) fun d hd p hp => (hfresh d hd p hp).isAttached
  · -- A token that retags would leave the prefix that ends with it out of line.
    intro haligned done kind token hdone hretags
    refine not_isAligned_of_retags hretags ?_
    rw [← Topology.afterTokens_concat]
    exact haligned _ hdone
  · -- Induction on the tokens already done: the last of them retags nothing.
    intro hretags done
    induction done using List.reverseRecOn with
    | nil => exact fun _ => hfresh
    | append_singleton done token ih =>
        intro hdone
        rw [Topology.afterTokens_concat t done token.1 token.2]
        refine applyToken_isAligned (ih ?_) (hretags done token.1 token.2 hdone)
        exact (List.prefix_append done [token]).trans hdone

/-- A run of two tokens that succeed, the second of which retags: the partition is
    formatted as ext4 and keeps its group. -/
theorem stale_membership_ofThree :
    let t : Topology := ⟨[.ofThree], []⟩
    let t' := t.afterTokens [(.reuse, "sda:1:lvm=vg"), (.reuse, "sda:1:ext4")]
    t.ForallPartitions Partition.IsUnplanned ∧
      (t'.partition? "sda" 1).map (fun p => (p.target, p.membership)) =
        some (some .ext4, some ⟨"vg", none⟩) ∧
      ¬ t'.ForallPartitions Partition.IsAligned := by
  decide +kernel

/-- The runs of the same two tokens in the other order stay aligned, as the
    condition says. -/
theorem isAligned_throughout_ofThree :
    let t : Topology := ⟨[.ofThree], []⟩
    let tokens := [(Kind.reuse, "sda:1:ext4"), (Kind.reuse, "sda:1:lvm=vg")]
    t.ForallPartitions Partition.IsUnplanned ∧
      (∀ done ∈ tokens.inits, (t.afterTokens done).ForallPartitions Partition.IsAligned) ∧
      ∀ done kind token, done ++ [(kind, token)] <+: tokens →
        ¬ Retags kind token (t.afterTokens done) := by
  have hfound : Topology.ForallPartitions Partition.IsUnplanned ⟨[.ofThree], []⟩ := by decide
  have haligned : ∀ done ∈ [(Kind.reuse, "sda:1:ext4"), (Kind.reuse, "sda:1:lvm=vg")].inits,
      (Topology.afterTokens ⟨[.ofThree], []⟩ done).ForallPartitions Partition.IsAligned := by
    decide +kernel
  refine ⟨hfound, haligned, (isAligned_throughout_iff _ hfound _).2.mp fun done hdone => ?_⟩
  exact haligned done ((List.mem_inits done _).mpr hdone)

end DiskPlan
