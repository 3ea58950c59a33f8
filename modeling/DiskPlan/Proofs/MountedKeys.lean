import DiskPlan.Proofs.FieldGrammar
import DiskPlan.Proofs.Leftovers
import DiskPlan.Proofs.PartitionPaths
import DiskPlan.Proofs.PlannedDisks
import DiskPlan.Proofs.ProbedSizes
import DiskPlan.Proofs.VolumePaths

/-!
# Keys and Mount Points

A key is of use only where something is mounted.

That a token with a key gives a mount point is asked for when the token is read, and nothing
asks for it again when it is carried out. Several tokens can name one partition, and each of
them gives it only what it says. So what keeps a key from standing alone is that no token
takes a mount point away, and that a token which gives no mount point gives no key either.

Where a partition with a key is mounted is said by the last token that gave it a mount point.
A partition is followed by its place, which is that of its disk among the disks and its own
on the disk. A new table empties all places of a disk, so a place stands for one partition
only as long as there is one in it. `Topology.MountedBy` therefore asks of all turns after
that token that the partition was there throughout, as the same partition.

## Main definitions

* `Partition.MountsKey`: A partition that has no key without a mount point.
* `Turn`, `Topology.afterTurns`: Single tokens and the making of volume groups.
* `DiskAction.mountAt?`, `Topology.Mounts`: What gives the partition at a place its mount
  point.
* `DiskAction.MountOrigin`, `Topology.MountOrigin`: Where it comes from in one step.
* `Topology.MountedBy`: The last turn that gave it.

## Theorems

* `DiskAction.Change.mountsKey`, `NewVolume.Change.mountsKey`: No change leaves a key alone.
* `DiskAction.mountOrigin_of_run`, `Topology.mountOrigin_of_call`: Every mount point has been
  given, or it was there before.
* `Topology.exists_mountedBy`: Every mount point has been given by a turn that was the last to
  give one.
* `Topology.afterTurns_mountsKey`: Every key has a mount point, which was given last.
-/

namespace DiskPlan

open Relation

/-! ### Keys -/

/-- A partition that has no key without a mount point. A key unlocks what is mounted, so one by
    itself would be of no use. -/
def Partition.MountsKey (p : Partition) : Prop :=
  ∀ key, p.keyId = some key → ∃ mount, p.mount = some mount

theorem Partition.IsUnmounted.mountsKey {p : Partition} (h : p.IsUnmounted) : p.MountsKey :=
  fun _ hkey => absurd (h.2.symm.trans hkey) (by simp only [reduceCtorEq, not_false_eq_true])

/-- Suffix fields of a token give no key without a mount point: the token would not be read. -/
theorem Suffix.Asked.exists_mount {s : Suffix} (h : s.Asked) {key : String}
    (hkey : s.keyId = some key) : ∃ mount, s.mount = some mount := by
  rcases h with ⟨found, hfound⟩
  rcases Fields.mountedSuffix_eq_ok_iff.mp hfound with ⟨hsaid, hmounts⟩
  rcases hmounts key ((hsaid.keyId key).mp hkey) with ⟨value, hlast, hne⟩
  exact ⟨_, (hsaid.mount _).mpr ⟨value, hlast, hne, rfl⟩⟩

namespace DiskAction

variable {action : DiskAction} {d d' : Disk} {p q : Partition}

/-- An edit leaves no key alone. Only a token that reuses a partition says anything of keys, and
    then it says where to mount as well. -/
theorem Edit.mountsKey (h : action.Edit p q) (hp : p.MountsKey) : q.MountsKey := by
  cases h with
  | mark _ _ => exact hp
  | range _ _ _ _ _ _ => exact hp
  | reuse _ content suffix _ =>
      rcases withContent_mount content p with ⟨hmount, hkeyId⟩
      rcases withSuffix_mount suffix (withContent content p) with ⟨hmount', hkeyId'⟩
      intro key hkey
      rw [hmount', hmount]
      cases hgiven : suffix.mount with
      | some mount => exact ⟨mount, rfl⟩
      | none =>
          -- Without a mount point nothing is said of the key either.
          rw [hkeyId' hgiven, hkeyId] at hkey
          exact hp key hkey

/-- A change that some token asks for leaves no key alone, be it an edit or a new partition. -/
theorem Change.mountsKey {kind : Kind} {name : String}
    (hasked : (Operation.onDisk name action).Asked kind) (h : action.Change d d')
    (hd : ∀ p ∈ d.partitions, p.MountsKey) : ∀ p ∈ d'.partitions, p.MountsKey := by
  refine h.forall_partitions (fun p q hedit => hedit.mountsKey) ?_ hd
  rintro role first? last? content suffix rfl first last path number key hkey
  cases hasked with
  | create _ _ _ _ _ hsuffix => exact hsuffix.exists_mount hkey

end DiskAction

/-- A logical volume is placed without a key. -/
theorem NewVolume.Change.mountsKey {v : NewVolume} {g g' : VolumeGroup} (h : v.Change g g')
    (hg : ∀ p ∈ g.partitions, p.MountsKey) : ∀ p ∈ g'.partitions, p.MountsKey := by
  cases h with
  | place _ hplace =>
      rcases VolumeGroup.place_eq_ok hplace with ⟨_, _, _, rfl⟩
      refine List.forall_mem_append.mpr ⟨hg, List.forall_mem_singleton.mpr fun key hkey => ?_⟩
      exact absurd hkey (by simp only [request, Request.build, reduceCtorEq, not_false_eq_true])

/-! ### One action -/

namespace DiskAction

variable {action : DiskAction} {d d' : Disk} {j : Nat} {p q : Partition} {mount : Path}

/-- The mount point that an action gives the partition at a place on its disk: one that is there,
    or one that it creates behind the others. -/
def mountAt? (d : Disk) (j : Nat) : DiskAction → Option Path
  | reuse number _ suffix =>
    if d.partitions.findIdx? (Disk.isNumbered number) = some j then suffix.mount else none
  | create _ _ _ _ suffix => if d.partitions.length = j then suffix.mount else none
  | relabel _ | delete _ | move _ _ _ => none

/-- The partition at a place is the same as on another disk, and it has this mount point. What
    identifies it is what no token for an existing partition changes. -/
def KeepsMount (d : Disk) (j : Nat) (q : Partition) (mount : Path) : Prop :=
  ∃ p, d.partitions[j]? = some p ∧ p.identity = q.identity ∧ p.mount = some mount

/-- Where the mount point of a partition comes from that an action leaves: the action has been
    carried out to its end and gives it, or it gives none and the mount point was there before. -/
inductive MountOrigin (action : DiskAction) (d : Disk) (j : Nat) (q : Partition) (mount : Path) :
    Prop
  | given (hok : (action.run d).answer = .ok ()) (hgiven : action.mountAt? d j = some mount)
  | kept (hnone : (action.run d).answer = .ok () → action.mountAt? d j = none)
      (hkeeps : KeepsMount d j q mount)

/-- Deletions and moves mount nothing, whether they get to their end or not. So what they leave
    was mounted before, even if they stop halfway. -/
theorem mountOrigin_of_mountless (hedit : action.isEdit) (hkind : action.kind ≠ .reuse)
    (hq : (action.run d).state.partitions[j]? = some q) (hmount : q.mount = some mount) :
    MountOrigin action d j q mount := by
  have hnone : action.mountAt? d j = none := by
    cases action with
    | relabel _ | delete _ | move _ _ _ => rfl
    | reuse _ _ _ => exact absurd rfl hkind
    | create _ _ _ _ _ => exact absurd rfl hedit.2
  -- Change by change, neither which partition it is nor where it is mounted is touched.
  have hsame : (action.run d).state.partitions.map (fun p => (p.identity, p.mount)) =
      d.partitions.map fun p => (p.identity, p.mount) := by
    have hchanges := action.run_changes d
    clear hq
    generalize (action.run d).state = d' at hchanges ⊢
    induction hchanges with
    | refl => rfl
    | tail _ hchange ih =>
        rcases hchange.exchange_of_isEdit hedit with ⟨before, p, p', after, hsplit, hedited, rfl⟩
        have hmount : p'.mount = p.mount := by
          cases hedited with
          | mark _ _ => rfl
          | range _ _ _ _ _ _ => rfl
          | reuse _ _ _ _ => exact absurd rfl hkind
        rw [← ih, hsplit, List.map_append, List.map_append, List.map_cons, List.map_cons,
          hedited.identity, hmount]
  have hplace := congrArg (·[j]?) hsame
  simp only [List.getElem?_map, hq, Option.map_some] at hplace
  rcases Option.map_eq_some_iff.mp hplace.symm with ⟨p, hp, heq⟩
  rcases Prod.mk.inj heq with ⟨hidentity, hmount'⟩
  exact .kept (fun _ => hnone) ⟨p, hp, hidentity, hmount'.trans hmount⟩

theorem mountOrigin_of_reuse {number : Nat} {content : Option Content} {suffix : Suffix}
    (hq : ((reuse number content suffix).run d).state.partitions[j]? = some q)
    (hmount : q.mount = some mount) :
    MountOrigin (reuse number content suffix) d j q mount := by
  rcases d.change_cases number (withSuffix suffix ∘ withContent content) with
    ⟨before, p, after, hat, hchange⟩ | ⟨_, e, hchange⟩
  · have hgives : (reuse number content suffix).mountAt? d j =
        if before.length = j then suffix.mount else none := by
      simp only [mountAt?, hat.findIdx?_eq, Option.some.injEq]
    rw [run, hchange] at hq
    change (before ++ _ :: after)[j]? = some q at hq
    rw [exchange_eq_set before after p, ← hat.split] at hq
    -- The place is that of the partition that is reused, or another one.
    by_cases hj : before.length = j
    · subst hj
      rw [if_pos rfl] at hgives
      have hp := hat.getElem?_eq
      rw [List.getElem?_set_self (List.getElem?_eq_some_iff.mp hp).1] at hq
      obtain rfl := Option.some.inj hq
      have hmounted : suffix.mount.or p.mount = some mount := by
        rw [← (withContent_mount content p).1, ← (withSuffix_mount suffix _).1]
        exact hmount
      -- Without a mount point in the token the old one stays.
      cases hsuffix : suffix.mount with
      | some mount' =>
          rw [hsuffix] at hmounted
          exact .given (by rw [run, hchange]; rfl) (hgives.trans (hsuffix.trans hmounted))
      | none =>
          rw [hsuffix, Option.none_or] at hmounted
          have hidentity := (Edit.reuse number content suffix p).identity
          exact .kept (fun _ => hgives.trans hsuffix) ⟨p, hp, hidentity.symm, hmounted⟩
    · -- The partitions at other places stay as they are.
      rw [List.getElem?_set_ne hj] at hq
      exact .kept (fun _ => hgives.trans (if_neg hj)) ⟨q, hq, rfl, hmount⟩
  · rw [run, hchange] at hq
    refine .kept (fun hok => ?_) ⟨q, hq, rfl, hmount⟩
    rw [run, hchange] at hok
    exact absurd hok (by simp only [Outcome.fail, reduceCtorEq, not_false_eq_true])

/-- A new partition is told of when it is there. On a disk with sectors that can be written
    nothing can fail any more by then, so a partition with the mount point of a token is only
    there if the token was carried out. -/
theorem mountOrigin_of_create {role : Role} {first? last? : Position} {content : Content}
    {suffix : Suffix} (hsectors : Decimal.isWritable d.sectors = true)
    (hq : ((create role first? last? content suffix).run d).state.partitions[j]? = some q)
    (hmount : q.mount = some mount) :
    MountOrigin (create role first? last? content suffix) d j q mount := by
  rcases run_create_cases role first? last? content suffix d with
    ⟨first, last, new, hrange, hplace⟩ | ⟨⟨f, hfails⟩, hstays⟩
  · rcases run_create_of_placed hrange hplace with ⟨hstate, hanswer⟩
    rw [Operation.isWritable_partitionAdded hsectors hplace, if_pos rfl] at hanswer
    rw [hstate] at hq
    -- The new partition is the last one, and all others are where they were.
    by_cases hj : d.partitions.length = j
    · subst hj
      rw [List.getElem?_concat_length] at hq
      obtain rfl := Option.some.inj hq
      rcases Disk.place_eq_ok hplace with ⟨_, path, _, rfl⟩
      exact .given hanswer ((if_pos rfl).trans hmount)
    · have hlt := (List.getElem?_eq_some_iff.mp hq).1
      rw [List.length_append, List.length_singleton] at hlt
      rw [List.getElem?_append_left (by omega)] at hq
      exact .kept (fun _ => if_neg hj) ⟨q, hq, rfl, hmount⟩
  · rw [hstays] at hq
    refine .kept (fun hok => ?_) ⟨q, hq, rfl, hmount⟩
    exact absurd (hfails.symm.trans hok) (by simp only [reduceCtorEq, not_false_eq_true])

theorem mountOrigin_of_run (hsectors : Decimal.isWritable d.sectors = true)
    (hq : (action.run d).state.partitions[j]? = some q)
    (hmount : q.mount = some mount) : MountOrigin action d j q mount := by
  cases action with
  | relabel _ => exact absurd hq (by simp [run, Disk.relabel])
  | delete _ => exact mountOrigin_of_mountless (by simp [isEdit, kind]) (by simp [kind]) hq hmount
  | move _ _ _ =>
      exact mountOrigin_of_mountless (by simp [isEdit, kind]) (by simp [kind]) hq hmount
  | reuse _ _ _ => exact mountOrigin_of_reuse hq hmount
  | create _ _ _ _ _ => exact mountOrigin_of_create hsectors hq hmount

end DiskAction

/-! ### Turns -/

/-- One turn of a session: a single token, or the making of volume groups. A call with more
    tokens is as many turns, up to the first that fails. -/
inductive Turn where
  | token (kind : Kind) (text : String)
  | groups
  deriving DecidableEq, Repr

/-- The call that a turn is. -/
def Turn.call : Turn → Call
  | token kind text => .apply kind [text]
  | groups => .initializeGroups

namespace Topology

variable {t : Topology} {turns : List Turn} {turn : Turn} {i j : Nat} {p q : Partition}
  {mount : Path}

/-- The topology after turns, whatever becomes of each of them. A turn that fails is followed by
    the next one all the same. -/
def afterTurns (t : Topology) (turns : List Turn) : Topology :=
  t.after (turns.map Turn.call)

/-- The partition at a place: that of its disk among the disks, and its own on the disk. Places
    do not change during a session, while paths and numbers of two disks may agree. -/
def partitionAt? (t : Topology) (i j : Nat) : Option Partition :=
  t.disks[i]?.bind fun d => d.partitions[j]?

/-- A turn gives the partition at a place its mount point: a token that is carried out. -/
inductive Mounts (t : Topology) (i j : Nat) (mount : Path) : Turn → Prop
  | token {kind : Kind} {text name : String} {action : DiskAction} {d : Disk}
      (hparse : Operation.parse kind text = .ok (.onDisk name action))
      (hok : (applyToken kind text t).answer = .ok ()) (hplace : t.place? name = some i)
      (hdisk : t.disks[i]? = some d) (hmount : action.mountAt? d j = some mount) :
      Mounts t i j mount (.token kind text)

theorem afterTurns_concat (t : Topology) (turns : List Turn) (turn : Turn) :
    t.afterTurns (turns ++ [turn]) = (turn.call.run (t.afterTurns turns)).state := by
  unfold afterTurns after
  rw [List.map_append, List.foldl_append, List.map_singleton, List.foldl_cons, List.foldl_nil]

theorem state_call_token (kind : Kind) (text : String) (t : Topology) :
    ((Turn.token kind text).call.run t).state = (applyToken kind text t).state := by
  change ((applyToken kind text t).andThen _).state = _
  rw [Outcome.andThen_state]
  cases (applyToken kind text t).answer <;> rfl

/-- A token for a disk that is found gives a mount point on that disk only, and there the one
    that its action gives. The disk that is found is the first of its name. -/
theorem mounts_token_iff {kind : Kind} {text name : String} {action : DiskAction}
    {before after : List Disk} {d : Disk}
    (hparse : Operation.parse kind text = .ok (.onDisk name action))
    (hat : FirstAt (fun d => d.isNamed name) t.disks before d after) :
    t.Mounts i j mount (.token kind text) ↔ before.length = i ∧
      (action.run d).answer = .ok () ∧ action.mountAt? d j = some mount := by
  have hplace : t.place? name = some before.length := hat.findIdx?_eq
  rw [← (applyToken_onDisk_of_firstAt hparse hat).1]
  constructor
  · intro h
    cases h with
    | token hparse' hok hplace' hdisk hmount =>
        obtain ⟨rfl, rfl⟩ := Operation.onDisk.inj (Except.ok.inj (hparse.symm.trans hparse'))
        obtain rfl := Option.some.inj (hplace.symm.trans hplace')
        obtain rfl := Option.some.inj (hat.getElem?_eq.symm.trans hdisk)
        exact ⟨rfl, hok, hmount⟩
  · rintro ⟨rfl, hok, hmount⟩
    exact .token hparse hok hplace hat.getElem?_eq hmount

/-- Where the mount point of a partition comes from that a turn leaves: from the turn, or the
    turn gives none and the same partition had it before. -/
inductive MountOrigin (t : Topology) (turn : Turn) (i j : Nat) (q : Partition) (mount : Path) :
    Prop
  | given (h : t.Mounts i j mount turn)
  | kept {p : Partition} (hnone : ∀ mount', ¬ t.Mounts i j mount' turn)
      (hp : t.partitionAt? i j = some p) (hidentity : p.identity = q.identity)
      (hmount : p.mount = some mount)

/-- A turn that leaves the disk in a place alone and gives none of its partitions a mount point
    keeps those that they have. -/
theorem mountOrigin_of_disk_eq {t' : Topology} (hdisk : t'.disks[i]? = t.disks[i]?)
    (hnone : ∀ mount', ¬ t.Mounts i j mount' turn) (hq : t'.partitionAt? i j = some q)
    (hmount : q.mount = some mount) : MountOrigin t turn i j q mount := by
  unfold partitionAt? at hq
  rw [hdisk] at hq
  exact .kept hnone hq rfl hmount

theorem mountOrigin_of_firstAt {kind : Kind} {text name : String} {action : DiskAction}
    {before after : List Disk} {d : Disk}
    (hparse : Operation.parse kind text = .ok (.onDisk name action))
    (hat : FirstAt (fun d => d.isNamed name) t.disks before d after)
    (hsectors : Decimal.isWritable d.sectors = true)
    (hq : (applyToken kind text t).state.partitionAt? i j = some q)
    (hmount : q.mount = some mount) : MountOrigin t (.token kind text) i j q mount := by
  have hiff := fun mount' => @mounts_token_iff t i j mount' _ _ _ _ _ _ _ hparse hat
  have hstate := (applyToken_onDisk_of_firstAt hparse hat).2
  rw [exchange_eq_set before after d, ← hat.split] at hstate
  rw [hstate] at hq
  -- The partition is on the disk that the token is for, or on another one.
  by_cases hi : before.length = i
  · subst hi
    have hdisk := hat.getElem?_eq
    unfold partitionAt? at hq
    rw [List.getElem?_set_self (List.getElem?_eq_some_iff.mp hdisk).1, Option.bind_some] at hq
    cases DiskAction.mountOrigin_of_run hsectors hq hmount with
    | given hok hgiven => exact .given ((hiff mount).mpr ⟨rfl, hok, hgiven⟩)
    | kept hnone hkeeps =>
        rcases hkeeps with ⟨p, hp, hidentity, hmount'⟩
        refine .kept (fun mount' h => ?_) ?_ hidentity hmount'
        · rcases (hiff mount').mp h with ⟨_, hok, hgiven⟩
          exact absurd ((hnone hok).symm.trans hgiven) (Option.some_ne_none mount').symm
        · rw [partitionAt?, hdisk, Option.bind_some, hp]
  · -- On the other disks nothing happens.
    refine mountOrigin_of_disk_eq (List.getElem?_set_ne hi) (fun mount' h => ?_) hq hmount
    exact hi ((hiff mount').mp h).1

theorem mountOrigin_of_call (hsectors : ∀ d ∈ t.disks, Decimal.isWritable d.sectors = true)
    (hq : (turn.call.run t).state.partitionAt? i j = some q) (hmount : q.mount = some mount) :
    MountOrigin t turn i j q mount := by
  cases turn with
  | groups =>
      have hdisks : (Turn.groups.call.run t).state.disks = t.disks := t.initializeGroups_disks
      refine mountOrigin_of_disk_eq (by rw [hdisks]) (fun mount' h => ?_) hq hmount
      cases h
  | token kind text =>
      rw [state_call_token] at hq
      -- The token is refused, it is for a group, its disk is missing, or it is carried out.
      cases hread : (Operation.read kind text).operation with
      | error f =>
          rw [applyToken_state_of_error hread] at hq
          refine mountOrigin_of_disk_eq rfl (fun mount' h => ?_) hq hmount
          cases h with
          | token hparse _ _ _ _ =>
              have hsame := hread.symm.trans (mapError_eq_ok_iff.mp hparse)
              exact absurd hsame (by simp only [reduceCtorEq, not_false_eq_true])
      | ok op =>
          have hparse : Operation.parse kind text = .ok op := mapError_eq_ok_iff.mpr hread
          cases op with
          | onGroup name volume =>
              rw [applyToken_state_of_ok hread] at hq
              have hdisks := Operation.disks_run_onGroup name volume t
              refine mountOrigin_of_disk_eq (by rw [hdisks]) (fun mount' h => ?_) hq hmount
              cases h with
              | token hparse' _ _ _ _ =>
                  have hsame := Except.ok.inj (hparse.symm.trans hparse')
                  exact absurd hsame (by simp only [reduceCtorEq, not_false_eq_true])
          | onDisk name action =>
              cases hfound : t.disk? name with
              | none =>
                  rcases Operation.run_onDisk_of_none hfound action with ⟨hstate, f, hfail⟩
                  rw [applyToken_state_of_ok hread, hstate] at hq
                  refine mountOrigin_of_disk_eq rfl (fun mount' h => ?_) hq hmount
                  cases h with
                  | token _ hok _ _ _ =>
                      rw [applyToken_answer_of_ok hread, hfail] at hok
                      exact absurd hok (by simp only [reduceCtorEq, not_false_eq_true])
              | some d =>
                  rcases find?_eq_some_iff_firstAt.mp hfound with ⟨before, after, hat⟩
                  exact mountOrigin_of_firstAt hparse hat (hsectors d hat.mem) hq hmount

/-! ### Sessions -/

/-- The last turn that gave the partition at a place a mount point gave it this one. From then on
    the partition was there, as the same one and with this mount point. -/
structure MountedBy (t : Topology) (turns : List Turn) (i j : Nat) (p : Partition) (mount : Path)
    (k : Nat) : Prop where
  gives : ∃ turn, turns[k]? = some turn ∧ (t.afterTurns (turns.take k)).Mounts i j mount turn
  last : ∀ l turn, k < l → turns[l]? = some turn →
    ∀ mount', ¬ (t.afterTurns (turns.take l)).Mounts i j mount' turn
  stays : ∀ l, k < l → l ≤ turns.length →
    ∃ q, (t.afterTurns (turns.take l)).partitionAt? i j = some q ∧ q.identity = p.identity ∧
      q.mount = some mount

/-- A turn that gives a mount point is the last one as yet. -/
theorem mountedBy_concat (h : (t.afterTurns turns).Mounts i j mount turn)
    (hp : (t.afterTurns (turns ++ [turn])).partitionAt? i j = some p)
    (hmount : p.mount = some mount) : t.MountedBy (turns ++ [turn]) i j p mount turns.length := by
  constructor
  · refine ⟨turn, List.getElem?_concat_length, ?_⟩
    rwa [List.take_left]
  · intro l turn' hl hturn
    have hlt := (List.getElem?_eq_some_iff.mp hturn).1
    rw [List.length_append, List.length_singleton] at hlt
    omega
  · intro l hl hle
    rw [List.length_append, List.length_singleton] at hle
    obtain rfl : l = turns.length + 1 := by omega
    rw [List.take_of_length_le (by rw [List.length_append, List.length_singleton])]
    exact ⟨p, hp, rfl, hmount⟩

/-- It stays the last one if the next turn gives none and keeps the partition. A turn that gives
    one is the last one instead. -/
theorem MountedBy.concat {k : Nat} (h : t.MountedBy turns i j p mount k)
    (hnone : ∀ mount', ¬ (t.afterTurns turns).Mounts i j mount' turn)
    (hq : (t.afterTurns (turns ++ [turn])).partitionAt? i j = some q)
    (hidentity : p.identity = q.identity) (hmount : q.mount = some mount) :
    t.MountedBy (turns ++ [turn]) i j q mount k := by
  -- The turns up to an earlier one do not see the turn that is added.
  have htake : ∀ l ≤ turns.length, (turns ++ [turn]).take l = turns.take l :=
    fun l hl => List.take_append_of_le_length hl
  constructor
  · rcases h.gives with ⟨turn', hturn, hgives⟩
    have hk := (List.getElem?_eq_some_iff.mp hturn).1
    rw [htake k (Nat.le_of_lt hk), List.getElem?_append_left hk]
    exact ⟨turn', hturn, hgives⟩
  · -- The turn is one of the earlier ones or the one that is added.
    intro l turn' hl hturn
    rcases Nat.lt_trichotomy l turns.length with hlt | rfl | hgt
    · rw [List.getElem?_append_left hlt] at hturn
      rw [htake l (Nat.le_of_lt hlt)]
      exact h.last l turn' hl hturn
    · rw [List.getElem?_concat_length] at hturn
      obtain rfl := Option.some.inj hturn
      rwa [List.take_left]
    · have hlt := (List.getElem?_eq_some_iff.mp hturn).1
      rw [List.length_append, List.length_singleton] at hlt
      omega
  · intro l hl hle
    by_cases hlast : l ≤ turns.length
    · rw [htake l hlast]
      rcases h.stays l hl hlast with ⟨p', hp', hidentity', hmount'⟩
      exact ⟨p', hp', hidentity'.trans hidentity, hmount'⟩
    · rw [List.take_of_length_le (by rw [List.length_append, List.length_singleton]; omega)]
      exact ⟨q, hq, rfl, hmount⟩

/-- Nothing in a session changes how large a disk is, so the sectors of its disks can be written
    throughout. -/
theorem isWritable_sectors_afterTurns (h : ∀ d ∈ t.disks, Decimal.isWritable d.sectors = true)
    (turns : List Turn) :
    ∀ d ∈ (t.afterTurns turns).disks, Decimal.isWritable d.sectors = true := by
  refine disks_of_reaches (fun _ hchange hd => ?_) (t.after_reaches (turns.map Turn.call)) h
  have hsame := congrArg (fun device => device.2.1) hchange.device
  exact (congrArg Decimal.isWritable hsame).trans hd

/-- A partition that was not mounted anywhere at first has its mount point from the last turn
    that gave it one. -/
theorem exists_mountedBy (ht : ∀ d ∈ t.disks, ∀ p ∈ d.partitions, p.IsUnmounted)
    (hsectors : ∀ d ∈ t.disks, Decimal.isWritable d.sectors = true)
    (hp : (t.afterTurns turns).partitionAt? i j = some p) (hmount : p.mount = some mount) :
    ∃ k, t.MountedBy turns i j p mount k := by
  -- From the last turn backwards, since it is the last one that counts.
  induction turns using List.reverseRecOn generalizing p with
  | nil =>
      rcases Option.bind_eq_some_iff.mp hp with ⟨d, hd, hp⟩
      have hnone := (ht d (List.mem_of_getElem? hd) p (List.mem_of_getElem? hp)).1
      exact absurd (hnone.symm.trans hmount) (by simp only [reduceCtorEq, not_false_eq_true])
  | append_singleton turns turn ih =>
      -- What the last turn has not given was there before it, so an earlier turn gave it.
      have hcall := hp
      rw [afterTurns_concat] at hcall
      cases mountOrigin_of_call (isWritable_sectors_afterTurns hsectors turns) hcall hmount with
      | given hgives => exact ⟨turns.length, mountedBy_concat hgives hp hmount⟩
      | kept hnone hp' hidentity hmount' =>
          rcases ih hp' hmount' with ⟨k, hk⟩
          exact ⟨k, hk.concat hnone hp hidentity hmount⟩

/-- After any turns on disks that a probe has found, whether they succeed or not, no partition
    and no logical volume has a key without a mount point. A partition with a key is mounted
    where the last token said that was carried out and gave it a mount point. -/
theorem afterTurns_mountsKey {t : Topology} (hdisks : ∀ d ∈ t.disks, d.IsProbed)
    (hgroups : t.groups = []) (turns : List Turn) :
    (∀ d ∈ (t.afterTurns turns).disks, ∀ p ∈ d.partitions, p.MountsKey) ∧
      (∀ g ∈ (t.afterTurns turns).groups, ∀ p ∈ g.partitions, p.MountsKey) ∧
      ∀ i j p, (t.afterTurns turns).partitionAt? i j = some p → p.keyId.isSome = true →
        ∃ mount k, p.mount = some mount ∧ t.MountedBy turns i j p mount k := by
  have hreaches := t.after_reaches (turns.map Turn.call)
  -- No change leaves a key alone, and at first there are no keys.
  have hpartitions : ∀ d ∈ (t.afterTurns turns).disks, ∀ p ∈ d.partitions, p.MountsKey :=
    disks_of_reaches (fun hasked hchange => hchange.mountsKey hasked) hreaches
      fun d hd p hp => ((hdisks d hd).isUnmounted p hp).mountsKey
  refine ⟨hpartitions, ?_, fun i j p hp hkey => ?_⟩
  · refine forall_groups_of_reaches (fun _ _ _ hp => absurd hp List.not_mem_nil)
      (fun hchange => hchange.mountsKey) hreaches ?_
    rw [hgroups]
    exact fun _ hg => absurd hg List.not_mem_nil
  · rcases Option.bind_eq_some_iff.mp hp with ⟨d, hd, hpd⟩
    rcases Option.isSome_iff_exists.mp hkey with ⟨key, hkey⟩
    rcases hpartitions d (List.mem_of_getElem? hd) p (List.mem_of_getElem? hpd) key hkey with
      ⟨mount, hmount⟩
    rcases exists_mountedBy (fun d hd => (hdisks d hd).isUnmounted)
      (fun d hd => (hdisks d hd).isWritable_sectors) hp hmount with ⟨k, hk⟩
    exact ⟨mount, k, hmount, hk⟩

/-- A partition that is given a key and a mount point, and then another mount point under the
    same key. A key alone is refused, and leaves both as they are. -/
theorem afterTurns_mountsKey_ofGap :
    let t : Topology := ⟨Disk.ofGap, []⟩
    let turns : List Turn := [.token .reuse "sda:1:reuse:keyid=k:mount=/a",
      .token .reuse "sda:1:ext4:mount=/b", .token .reuse "sda:1:reuse:keyid=l", .groups]
    (∀ d ∈ t.disks, d.IsProbed) ∧ t.groups = [] ∧
      ((t.afterTurns turns).partitionAt? 0 0).map (fun p => (p.keyId, p.mount)) =
        some (some "k", some (.parse "/b")) ∧
      ∃ p k, (t.afterTurns turns).partitionAt? 0 0 = some p ∧
        t.MountedBy turns 0 0 p (.parse "/b") k := by
  intro t turns
  have hdisks : ∀ d ∈ t.disks, d.IsProbed := by
    refine List.forall_mem_cons.mpr ⟨?_, List.forall_mem_singleton.mpr ?_⟩
    · exact @Disk.IsProbed.ofLayout _ _ "sda" _ _ Layout.load_ofGap (by decide +kernel)
    · exact @Disk.IsProbed.ofLayout _ _ "nvme0n1" _ _ Layout.load_ofGap (by decide +kernel)
  have hfound : ((t.afterTurns turns).partitionAt? 0 0).map (fun p => (p.keyId, p.mount)) =
      some (some "k", some (.parse "/b")) := by
    decide +kernel
  rcases Option.map_eq_some_iff.mp hfound with ⟨p, hp, hparts⟩
  rcases Prod.mk.inj hparts with ⟨hkey, hmount⟩
  rcases (afterTurns_mountsKey hdisks rfl turns).2.2 0 0 p hp (by rw [hkey]; rfl) with
    ⟨mount, k, hmounted, hk⟩
  obtain rfl := Option.some.inj (hmounted.symm.trans hmount)
  exact ⟨hdisks, rfl, hfound, p, k, hp, hk⟩

end Topology

end DiskPlan
