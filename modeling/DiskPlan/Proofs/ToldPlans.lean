import DiskPlan.Proofs.BoundedDevices
import DiskPlan.Proofs.ProbeAgreement
import Mathlib.Algebra.BigOperators.Ring.List
import Mathlib.Algebra.Order.BigOperators.Group.List
import Mathlib.Algebra.Order.Ring.Int

/-!
# Plans That Can Be Told

A plan of short numbers is made, or refused with a problem.

A plan can fail in ways that are no problems: a number that is too long to be read or
written, a division by zero. None of them is met if the numbers in the layout and in the
tokens have at most a thousand digits and nothing is too long to be counted. For then all
numbers of the topology stay below a bound that goes up by one with each token, and there
are not enough tokens to take it far. The sizes of the volume groups are the largest
numbers: each is a sum over partitions of products of two numbers, so it may have four
times as many digits and a few more. That is still within the limit on numerals.

All that is told of the plan can be written then, whether it succeeds or not: the problem
that it ends with, the log, the operations in words, and the plan as JSON.

## Main definitions

* `DiskLayout.IsModest`, `Requests.IsModest`: Layouts and requests of short numbers.
* `Topology.IsBounded`: Devices of bounded numbers, and not too many of them.
* `Requests.IsTold`: A plan of which everything can be told.

## Theorems

* `applyToken_tells`: A token of short numbers can be told, and takes the bound up by one.
* `Topology.isBounded_of_mem_missingGroups`: The sizes of volume groups are bounded.
* `registerDisks_tells`, `Requests.stages_tells`: The stages of a plan can be told.
* `Topology.IsBounded.isWritable_toJson`: Devices of bounded numbers are written as JSON.
* `configure_tells`: A plan of short numbers can be told.
* `configure_isTold`: It is made, or refused with a problem.
-/

namespace DiskPlan

open Outcome

/-! ### Topologies -/

/-- A topology of devices of bounded numbers, with few disks. -/
structure Topology.IsBounded (bound : Nat) (t : Topology) : Prop where
  length_lt : t.disks.length < bound
  disks : ∀ d ∈ t.disks, d.IsBounded bound
  groups : ∀ g ∈ t.groups, g.IsBounded bound

namespace Topology

variable {bound bound' : Nat} {t : Topology}

theorem IsBounded.mono (h : t.IsBounded bound) (hbound : bound ≤ bound') : t.IsBounded bound' where
  length_lt := Nat.lt_of_lt_of_le h.length_lt hbound
  disks := fun d hd => (h.disks d hd).mono hbound
  groups := fun g hg => (h.groups g hg).mono hbound

/-- A device that is not there is told by its name. -/
theorem isTold_ofLookup {p : LookupProblem} (h : p.numbers = []) :
    (Failure.ofLookup p).IsTold :=
  Failure.isTold_ofProblem fun n hn => by
    rw [show (Problem.lookup p).numbers = [] from h] at hn
    exact absurd hn List.not_mem_nil

theorem tells_onDisk (h : t.IsBounded bound) (name : String) {change : Disk → Outcome Disk Unit}
    (hchange : ∀ d, d.IsBounded bound → Tells (Disk.IsBounded (bound + 1)) (change d)) :
    Tells (IsBounded (bound + 1)) (t.onDisk name change) := by
  have hlarger := h.mono (Nat.le_succ bound)
  unfold onDisk
  split
  · exact tells_fail hlarger (isTold_ofLookup rfl)
  · rename_i d hd
    refine (hchange d (h.disks d (List.mem_of_find?_eq_some hd))).lift fun d' hd' => ?_
    refine ⟨?_, fun x hx => ?_, hlarger.groups⟩
    · rw [length_updateFirst]
      exact hlarger.length_lt
    · rcases mem_updateFirst hx with hx | ⟨_, _, _, rfl⟩
      · exact hlarger.disks x hx
      · exact hd'

theorem tells_onGroup (h : t.IsBounded bound) (name : String)
    {change : VolumeGroup → Outcome VolumeGroup Unit}
    (hchange : ∀ g, g.IsBounded bound → Tells (VolumeGroup.IsBounded (bound + 1)) (change g)) :
    Tells (IsBounded (bound + 1)) (t.onGroup name change) := by
  have hlarger := h.mono (Nat.le_succ bound)
  unfold onGroup
  split
  · exact tells_fail hlarger (isTold_ofLookup rfl)
  · rename_i g hg
    refine (hchange g (h.groups g (List.mem_of_find?_eq_some hg))).lift fun g' hg' => ?_
    refine ⟨hlarger.length_lt, hlarger.disks, fun x hx => ?_⟩
    rcases mem_updateFirst hx with hx | ⟨_, _, _, rfl⟩
    · exact hlarger.groups x hx
    · exact hg'

end Topology

/-! ### Tokens -/

section Tokens

variable {bound : Nat} {t : Topology}

theorem Operation.tells_run {op : Operation} (hnumbers : AreWritable op.numbers)
    (h : t.IsBounded bound) (hbound : bound < Decimal.vastLimit) :
    Tells (Topology.IsBounded (bound + 1)) (op.run t) := by
  cases op with
  | onDisk name action =>
      exact t.tells_onDisk h name fun d hd => DiskAction.tells_run hnumbers hd hbound
  | onGroup name volume =>
      exact t.tells_onGroup h name fun g hg => volume.tells_run hg (Nat.le_of_lt hbound)

/-- A token of short numbers can be told, and takes the bound up by one at most. -/
theorem applyToken_tells (kind : Kind) {token : String} (htoken : Text.IsModest token)
    (h : t.IsBounded bound) (hbound : bound < Decimal.vastLimit) :
    Tells (Topology.IsBounded (bound + 1)) (applyToken kind token t) := by
  have hread := Operation.failsWith_read_of_isModest kind htoken
  refine Tells.within (Tells.logging (Tells.andThen (tells_ofExcept h hread) ?_ ?_) ?_) _
  · -- The operation is logged in words before it is carried out.
    intro t op ht hop
    refine (Operation.tells_run (Operation.isWritable_of_read hop) ht hbound).logging ?_
    refine List.forall_mem_singleton.mpr (Event.isWritable_of_spelled ?_)
    exact List.forall_mem_cons.mpr ⟨rfl, List.forall_mem_singleton.mpr rfl⟩
  · exact fun _ ht => ht.mono (Nat.le_succ bound)
  · exact List.forall_mem_map.mpr fun name _ =>
      Event.isWritable_of_spelled (List.forall_mem_singleton.mpr rfl)

theorem applyTokens_tells (kind : Kind) {tokens : List String}
    (htokens : ∀ token ∈ tokens, Text.IsModest token) (h : t.IsBounded bound)
    (hbound : bound + tokens.length ≤ Decimal.vastLimit) :
    Tells (Topology.IsBounded (bound + tokens.length)) (applyTokens kind tokens t) := by
  induction tokens generalizing t bound with
  | nil => exact tells_done h ()
  | cons token rest ih =>
      rw [List.forall_mem_cons] at htokens
      rw [List.length_cons] at hbound ⊢
      rw [applyTokens]
      refine Tells.andThen (applyToken_tells kind htokens.1 h (by omega)) (fun t _ ht _ => ?_)
        fun t ht => ht.mono (by omega)
      -- What this token adds to the bound is taken from the tokens that are left.
      rw [Nat.add_comm rest.length 1, ← Nat.add_assoc]
      exact ih htokens.2 ht (by omega)

end Tokens

/-! ### Volume groups -/

namespace Topology

variable {bound : Nat} {t : Topology}

/-- A physical volume has no more sectors than the product of two bounded numbers. -/
theorem sectors_of_mem_members (h : t.IsBounded bound) {m : Member} (hm : m ∈ t.members) :
    0 ≤ m.sectors ∧ m.sectors ≤ bound * bound := by
  rcases mem_disks_of_mem_members hm with ⟨hdisk, hpartition⟩
  have hbounded := h.disks _ hdisk
  have hsize := hbounded.sectorSize_ge
  have hsize_lt := hbounded.sectorSize_lt
  have hfirst := (hbounded.partitions _ hpartition).first_nonneg
  have hlt := (hbounded.partitions _ hpartition).lt
  have hlast := (hbounded.partitions _ hpartition).last_lt
  have hsectors : 0 ≤ m.partition.sectors ∧ m.partition.sectors ≤ bound := by
    unfold Partition.sectors
    omega
  have hbytes : 0 ≤ m.partition.sectors * m.disk.sectorSize ∧
      m.partition.sectors * m.disk.sectorSize ≤ bound * bound :=
    ⟨Int.mul_nonneg hsectors.1 (by omega),
      Int.mul_le_mul hsectors.2 (Int.le_of_lt hsize_lt) (by omega) (Int.natCast_nonneg _)⟩
  unfold Member.sectors
  rw [Int.fdiv_eq_ediv_of_nonneg _ (by decide)]
  exact ⟨Int.ediv_nonneg hbytes.1 (by decide), (Int.ediv_le_self _ hbytes.1).trans hbytes.2⟩

/-- There are no more physical volumes than partitions. -/
theorem length_members_le (h : t.IsBounded bound) : t.members.length ≤ bound * bound := by
  have hdisk : ∀ d ∈ t.disks, (membersOf d).length ≤ bound := by
    intro d hd
    refine (List.length_filterMap_le _ _).trans ((List.length_filter_le _ _).trans ?_)
    exact Nat.le_of_lt (h.disks d hd).length_lt
  unfold members
  rw [List.length_flatMap]
  calc (t.disks.map fun d => (membersOf d).length).sum
      ≤ (t.disks.map fun d => (membersOf d).length).length • bound :=
        List.sum_le_card_nsmul _ _ (List.forall_mem_map.mpr hdisk)
    _ = t.disks.length * bound := by rw [List.length_map, nsmul_eq_mul, Nat.cast_id]
    _ ≤ bound * bound := Nat.mul_le_mul_right _ (Nat.le_of_lt h.length_lt)

/-- The size of a volume group is a sum of such products. -/
theorem isBounded_of_mem_missingGroups (h : t.IsBounded bound)
    (hpow : bound ^ 4 < Decimal.vastLimit) : ∀ g ∈ t.missingGroups, g.IsBounded bound := by
  intro g hg
  rcases List.mem_map.mp hg with ⟨pending, hpending, rfl⟩
  rcases List.mem_map.mp (List.mem_filter.mp hpending).1 with ⟨name, _, rfl⟩
  have hsub : ∀ m ∈ t.membersOfGroup name, m ∈ t.members :=
    fun m hm => (List.mem_filter.mp hm).1
  have hlength : (t.membersOfGroup name).length ≤ bound * bound :=
    (List.length_filter_le _ _).trans (length_members_le h)
  have hsize : ((t.membersOfGroup name).map Member.sectors).sum ≤
      ((bound * bound * (bound * bound) : Nat) : Int) := by
    calc ((t.membersOfGroup name).map Member.sectors).sum
        ≤ ((t.membersOfGroup name).map Member.sectors).length • ((bound * bound : Nat) : Int) :=
          List.sum_le_card_nsmul _ _ (List.forall_mem_map.mpr fun m hm => by
            rw [Nat.cast_mul]
            exact (sectors_of_mem_members h (hsub m hm)).2)
      _ = (((t.membersOfGroup name).length * (bound * bound) : Nat) : Int) := by
          rw [List.length_map, nsmul_eq_mul, ← Nat.cast_mul]
      _ ≤ ((bound * bound * (bound * bound) : Nat) : Int) :=
          Int.ofNat_le.mpr (Nat.mul_le_mul_right _ hlength)
  -- As many members as the square of the bound, each with as many sectors.
  have hvast : bound * bound * (bound * bound) < Decimal.vastLimit := by
    rw [← Nat.pow_two, Nat.mul_pow, ← Nat.pow_add]
    exact hpow
  refine ⟨?_, Int.lt_of_le_of_lt hsize (Int.ofNat_lt.mpr hvast), rfl,
    Nat.lt_of_le_of_lt (Nat.zero_le _) h.length_lt, fun _ hp => absurd hp List.not_mem_nil⟩
  exact List.sum_nonneg (List.forall_mem_map.mpr fun m hm =>
    (sectors_of_mem_members h (hsub m hm)).1)

theorem addGroups_tells {gs : List VolumeGroup} (hgs : ∀ g ∈ gs, g.IsBounded bound)
    (h : t.IsBounded bound) : Tells (IsBounded bound) (addGroups gs t) := by
  induction gs generalizing t with
  | nil => exact tells_done h ()
  | cons g rest ih =>
      rw [List.forall_mem_cons] at hgs
      have hnonneg := hgs.1.sectors_nonneg
      have hlt := hgs.1.sectors_lt
      have hsectors : Decimal.isWritable g.sectors = true :=
        Decimal.isWritable_of_lt_vastLimit (by omega)
      unfold addGroups
      dsimp only
      rw [if_pos hsectors]
      have hadded : IsBounded bound { t with groups := t.groups ++ [g] } :=
        ⟨h.length_lt, h.disks, List.forall_mem_append.mpr
          ⟨h.groups, List.forall_mem_singleton.mpr hgs.1⟩⟩
      refine (ih hgs.2 hadded).logging (List.forall_mem_singleton.mpr ?_)
      exact Event.isWritable_of_spelled (List.forall_mem_cons.mpr ⟨rfl, List.forall_mem_cons.mpr
        ⟨Event.isWritable_texts _, List.forall_mem_singleton.mpr hsectors⟩⟩)

theorem initializeGroups_tells (h : t.IsBounded bound) (hpow : bound ^ 4 < Decimal.vastLimit) :
    Tells (IsBounded bound) t.initializeGroups :=
  addGroups_tells (isBounded_of_mem_missingGroups h hpow) h

end Topology

/-! ### JSON -/

section Written

variable {bound limit : Nat}

theorem Partition.IsBounded.isWritable_toJson {p : Partition} (h : p.IsBounded bound limit)
    (hbound : bound ≤ Decimal.vastLimit) (hlimit : limit ≤ Decimal.vastLimit) :
    p.toJson.isWritable = true := by
  have hfirst := h.first_nonneg
  have hlt := h.lt
  have hlast := h.last_lt
  exact Partition.isWritable_toJson_iff.mpr ⟨h.isWritable_number hbound,
    Decimal.isWritable_of_lt_vastLimit (by omega), Decimal.isWritable_of_lt_vastLimit (by omega)⟩

/-- The bytes of a disk are a product of two of its numbers. -/
theorem Disk.IsBounded.isWritable_toJson {d : Disk} (h : d.IsBounded bound)
    (hpow : bound ^ 4 < Decimal.vastLimit) : d.toJson.isWritable = true := by
  have hbound := Decimal.le_vastLimit_of_pow_lt hpow
  have hsectors := h.sectors_pos
  have hsectors_lt := h.sectors_lt
  have hsize := h.sectorSize_ge
  have hsize_lt := h.sectorSize_lt
  have hproduct : 0 ≤ d.bytes ∧ d.bytes ≤ ((bound * bound : Nat) : Int) := by
    unfold Disk.bytes
    rw [Nat.cast_mul]
    exact ⟨Int.mul_nonneg (by omega) (by omega),
      Int.mul_le_mul (by omega) (by omega) (by omega) (by omega)⟩
  have hsquare : bound * bound ≤ bound ^ 4 := by
    rw [← Nat.pow_two]
    exact Nat.pow_le_pow_right (by omega) (by decide)
  exact Disk.isWritable_toJson_iff.mpr ⟨h.isWritable_sectors hbound,
    Decimal.isWritable_of_lt_vastLimit (by omega), Decimal.isWritable_of_lt_vastLimit (by omega),
    fun p hp => (h.partitions p hp).isWritable_toJson hbound hbound⟩

theorem VolumeGroup.IsBounded.isWritable_toJson {g : VolumeGroup} (h : g.IsBounded bound)
    (hbound : bound ≤ Decimal.vastLimit) : g.toJson.isWritable = true := by
  have hsectors := h.sectors_nonneg
  have hsectors_lt := h.sectors_lt
  have hsize := h.sectorSize
  have hbytes : g.bytes = 512 * g.sectors := by
    unfold VolumeGroup.bytes
    rw [hsize, Int.mul_comm]
  have hencryption : (Json.list (g.encryption.map Encryption.toJson)).isWritable = true :=
    Json.areItemsWritable_iff.mpr
      (List.forall_mem_map.mpr fun e _ => (e.isSpelled_toJson 0).isWritable)
  have hpartitions : (Json.list (g.partitions.map Partition.toJson)).isWritable = true :=
    Json.areItemsWritable_iff.mpr (List.forall_mem_map.mpr fun p hp =>
      (h.partitions p hp).isWritable_toJson hbound (Nat.le_refl _))
  refine Json.isWritable_object ?_
  unfold Json.AreWritten
  simp only [List.forall_mem_cons]
  exact ⟨rfl, rfl, Decimal.isWritable_of_lt_vastLimit (by omega),
    Decimal.isWritable_of_lt_vastLimit (by omega), Decimal.isWritable_of_lt_vastLimit (by omega),
    Event.isWritable_texts g.physicalVolumes, hencryption, hpartitions,
    fun _ hf => absurd hf List.not_mem_nil⟩

/-- Devices of bounded numbers are written as JSON. -/
theorem Topology.IsBounded.isWritable_toJson {t : Topology} (h : t.IsBounded bound)
    (hpow : bound ^ 4 < Decimal.vastLimit) : t.toJson.isWritable = true := by
  have hbound := Decimal.le_vastLimit_of_pow_lt hpow
  refine Json.isWritable_object (List.forall_mem_cons.mpr ⟨?_, List.forall_mem_singleton.mpr ?_⟩)
  · exact Json.areItemsWritable_iff.mpr
      (List.forall_mem_map.mpr fun d hd => (h.disks d hd).isWritable_toJson hpow)
  · exact Json.areItemsWritable_iff.mpr
      (List.forall_mem_map.mpr fun g hg => (h.groups g hg).isWritable_toJson hbound)

end Written

/-! ### Plans -/

/-- A disk in a layout with numbers of at most a thousand digits, and not too many
    partitions to be counted. -/
structure DiskLayout.IsModest (layout : DiskLayout) : Prop where
  numbers : ∀ n ∈ layout.numbers, n.natAbs < Decimal.modestLimit
  length_lt : layout.partitions.length < Decimal.modestLimit

/-- Requests with numbers of at most a thousand digits, and not too many to be counted. -/
structure Requests.IsModest (r : Requests) : Prop where
  disks : r.disks.length < Decimal.modestLimit
  length_lt : ∀ kind, (r.tokens kind).length < Decimal.modestLimit
  tokens : ∀ kind, ∀ token ∈ r.tokens kind, Text.IsModest token

theorem PartitionLayout.isBounded_built {p : PartitionLayout} (hsound : p.IsSound)
    {bound limit : Nat} (hnumber : p.number < bound) (hlast : p.last < limit) (path : String) :
    (p.built path).IsBounded bound limit where
  number_nonneg := Int.le_of_lt hsound.number
  number_lt := hnumber
  first_nonneg := hsound.first
  lt := hsound.lt
  last_lt := hlast

/-- A disk in a layout of short numbers is bounded by them. -/
theorem DiskLayout.isBounded_built {layout : DiskLayout} (hsound : layout.IsSound)
    (h : layout.IsModest) (path : String) :
    (layout.built path).IsBounded Decimal.modestLimit := by
  have hlt : ∀ n ∈ layout.numbers, n < Decimal.modestLimit := fun n hn => by
    have hnumber := h.numbers n hn
    omega
  unfold numbers at hlt
  rw [List.forall_mem_append, List.forall_mem_cons, List.forall_mem_singleton] at hlt
  rcases hlt with ⟨⟨hsectors, hsectorSize⟩, hpartitions⟩
  refine ⟨hsound.sectors, hsectors, hsound.sectorSize, hsectorSize, ?_,
    List.forall_mem_map.mpr fun p hp => ?_⟩
  · change (layout.partitions.map _).length < _
    rw [List.length_map]
    exact h.length_lt
  · have hnumbers := List.forall_mem_flatMap.mp hpartitions p hp
    simp only [List.forall_mem_cons] at hnumbers
    exact PartitionLayout.isBounded_built (hsound.partitions p hp) hnumbers.1 hnumbers.2.2.1 path

/-- Whether a layout has a disk can be told. -/
theorem Probe.tells_lookup_static (disks : List Disk) (name : String) :
    Tells (fun _ => True) ((static disks).lookup name) := by
  unfold static
  dsimp only
  split
  · exact tells_done trivial _
  · exact (tells_done trivial _).logging (List.forall_mem_singleton.mpr
      (Event.isWritable_of_spelled (List.forall_mem_singleton.mpr rfl)))

section Plans

variable {bound : Nat} {t : Topology} {r : Requests}

/-- Looking disks up in a layout adds one disk at most for each name. -/
theorem registerDisks_tells {disks : List Disk} (hdisks : ∀ d ∈ disks, d.IsBounded bound)
    {names : List String} (h : t.IsBounded bound)
    (hlength : t.disks.length + names.length < bound) :
    Tells (Topology.IsBounded bound) (registerDisks (.static disks) names t) := by
  induction names generalizing t with
  | nil => exact tells_done h ()
  | cons name rest ih =>
      rw [List.length_cons] at hlength
      -- The names that are left have to be counted along with the disks that are there.
      have hroom : t.disks.length + 1 + rest.length < bound := by omega
      have hlookup : Tells (fun t : Topology => t.IsBounded bound ∧
            t.disks.length + 1 + rest.length < bound)
          (((Probe.static disks).lookup name).lift fun _ => t) :=
        (Probe.tells_lookup_static disks name).lift fun _ _ => ⟨h, hroom⟩
      rw [registerDisks]
      refine Tells.andThen hlookup ?_ fun _ ht => ht.1
      rintro t found ⟨ht, hroom⟩ hfound
      cases found with
      | none => exact tells_fail ht (Topology.isTold_ofLookup rfl)
      | some d =>
          have hadded : ({ t with disks := t.disks ++ [d] } : Topology).IsBounded bound := by
            refine ⟨?_, List.forall_mem_append.mpr ⟨ht.disks, List.forall_mem_singleton.mpr
              (hdisks d (mem_of_lookup_static hfound))⟩, ht.groups⟩
            rw [List.length_append, List.length_singleton]
            omega
          have hrest := ih hadded (by
            rw [List.length_append, List.length_singleton]
            exact hroom)
          exact hrest.logging (List.forall_mem_singleton.mpr
            (Event.isWritable_of_spelled (List.forall_mem_singleton.mpr rfl)))

namespace Requests

/-- A stage takes the bound up by one for each of its tokens. -/
theorem stage_tells (hr : r.IsModest) (kind : Kind) (h : t.IsBounded bound)
    (hbound : bound + Decimal.modestLimit ≤ Decimal.vastLimit) :
    Tells (Topology.IsBounded (bound + Decimal.modestLimit)) (r.stage kind t) := by
  have hlength := hr.length_lt kind
  unfold stage
  split
  · exact tells_done (h.mono (Nat.le_add_right _ _)) ()
  · have htokens := (applyTokens_tells kind (hr.tokens kind) h (by omega)).mono
      fun t (ht : t.IsBounded _) => ht.mono (Nat.add_le_add_left (Nat.le_of_lt hlength) bound)
    refine htokens.bracket (List.forall_mem_singleton.mpr ?_)
    exact Decimal.isWritable_of_lt_modestLimit (by omega)

theorem stages_tells (hr : r.IsModest) (kinds : List Kind) (h : t.IsBounded bound)
    (hbound : bound + kinds.length * Decimal.modestLimit ≤ Decimal.vastLimit) :
    Tells (Topology.IsBounded (bound + kinds.length * Decimal.modestLimit)) (r.stages kinds t) := by
  induction kinds generalizing t bound with
  | nil => exact tells_done (h.mono (Nat.le_add_right _ _)) ()
  | cons kind rest ih =>
      rw [List.length_cons, Nat.succ_mul] at hbound ⊢
      rw [Nat.add_comm (rest.length * _), ← Nat.add_assoc] at hbound ⊢
      rw [stages]
      refine Tells.andThen (stage_tells hr kind h (by omega)) (fun t _ ht _ => ih ht hbound)
        fun t ht => ht.mono (Nat.le_add_right _ _)

end Requests

/-- A plan of short numbers over disks of short numbers can be told. -/
theorem configure_tells {disks : List Disk}
    (hdisks : ∀ d ∈ disks, d.IsBounded Decimal.modestLimit) (hr : r.IsModest) :
    Tells (Topology.IsBounded (7 * Decimal.modestLimit)) (configure (.static disks) r) := by
  have hpow := Decimal.pow_modestLimit_lt
  have hvast := Decimal.le_vastLimit_of_pow_lt hpow
  have hlength := hr.disks
  have hempty : Topology.empty.IsBounded Decimal.modestLimit :=
    ⟨Nat.lt_of_le_of_lt (Nat.zero_le _) hlength, fun _ hd => absurd hd List.not_mem_nil,
      fun _ hg => absurd hg List.not_mem_nil⟩
  have hregistered : Tells (Topology.IsBounded Decimal.modestLimit)
      ((registerDisks (.static disks) r.disks .empty).bracket r.registration) := by
    refine (registerDisks_tells hdisks hempty ?_).bracket
      (List.forall_mem_singleton.mpr (Event.isWritable_texts _))
    rw [show Topology.empty.disks.length = 0 from rfl, Nat.zero_add]
    exact hlength
  have hlarger : ∀ {small large : Nat}, small ≤ large → ∀ t : Topology,
      t.IsBounded small → t.IsBounded large := fun hle _ ht => ht.mono hle
  have hkinds : diskKinds.length * Decimal.modestLimit = 5 * Decimal.modestLimit := by
    rw [show diskKinds.length = 5 from rfl]
  unfold configure
  -- Five kinds of tokens come before the groups and one behind them, and each is paid for by
  -- one more of the limit.
  refine Tells.andThen hregistered (fun t _ ht _ => ?_) (hlarger (by omega))
  have hstages : Tells (Topology.IsBounded (6 * Decimal.modestLimit)) (r.stages diskKinds t) :=
    (Requests.stages_tells hr diskKinds ht (by omega)).mono (hlarger (by omega))
  refine Tells.andThen hstages (fun t _ ht _ => ?_) (hlarger (by omega))
  -- Making groups takes the bound no further, but it has to be far from the vast limit.
  have hgroups : Tells (Topology.IsBounded (6 * Decimal.modestLimit))
      (t.initializeGroups.bracket groupStage) := by
    have hsmaller := Nat.pow_le_pow_left
      (show 6 * Decimal.modestLimit ≤ 7 * Decimal.modestLimit by omega) 4
    exact (Topology.initializeGroups_tells ht (Nat.lt_of_le_of_lt hsmaller hpow)).bracket
      fun _ hc => absurd hc List.not_mem_nil
  refine Tells.andThen hgroups (fun t _ ht _ => ?_) (hlarger (by omega))
  have hvolumes : Tells (Topology.IsBounded (7 * Decimal.modestLimit)) (r.stage .logical t) :=
    (Requests.stage_tells hr .logical ht (by omega)).mono (hlarger (by omega))
  refine Tells.andThen hvolumes (fun t _ ht _ => ?_) fun _ ht => ht
  have hcount := ht.length_lt
  refine (tells_done ht ()).logging
    (List.forall_mem_singleton.mpr (Event.isWritable_of_spelled ?_))
  exact List.forall_mem_cons.mpr ⟨Decimal.isWritable_of_lt_vastLimit (by omega),
    List.forall_mem_singleton.mpr (Event.isWritable_texts _)⟩

end Plans

/-- A plan of which everything can be told: it is made or refused with a problem, and every
    number in the message of the problem, in the log, in the operations that are read, in
    the plan as JSON and in the next name of a volume can be written. -/
structure Requests.IsTold (r : Requests) (plan : Outcome Topology Unit) : Prop where
  answer : plan.answer = .ok () ∨ ∃ report, plan.answer = .error (.problem report) ∧
    ∀ n ∈ report.problem.numbers, Decimal.isWritable n = true
  log : ∀ e ∈ plan.log, e.isWritable = true
  operations : ∀ kind, ∀ token ∈ r.tokens kind, ∀ op,
    (Operation.read kind token).operation = .ok op → AreWritable op.numbers
  state : plan.state.toJson.isWritable = true
  names : ∀ g ∈ plan.state.groups, Decimal.isWritable g.nextNumber = true

/-- A plan of numbers of at most a thousand digits, over any layout of such numbers that is
    loaded, is made or refused with a problem, and everything can be told of it. -/
theorem configure_isTold {path contents : String} {layouts : List DiskLayout} {probe : Probe}
    {r : Requests} (hparse : Layout.parse contents = .ok layouts)
    (hload : (Layout.load path contents).answer = .ok probe)
    (hlayouts : ∀ layout ∈ layouts, layout.IsModest) (hr : r.IsModest) :
    r.IsTold (configure probe r) := by
  obtain rfl := Except.ok.inj (hload.symm.trans (Layout.load_of_parse path hparse))
  have hdisks : ∀ d ∈ Layout.built layouts, d.IsBounded Decimal.modestLimit := by
    intro d hd
    rcases Layout.mem_built_iff.mp hd with ⟨layout, hlayout, path, _, rfl⟩
    exact DiskLayout.isBounded_built (Layout.isSound_of_parse hparse layout hlayout)
      (hlayouts layout hlayout) path
  have htold := configure_tells hdisks hr
  refine ⟨?_, htold.log, fun _ _ _ _ hread => Operation.isWritable_of_read hread,
    htold.state.isWritable_toJson Decimal.pow_modestLimit_lt, fun g hg => ?_⟩
  · cases hanswer : (configure (.static (Layout.built layouts)) r).answer with
    | ok => exact Or.inl rfl
    | error f =>
        rcases htold.answer f hanswer with ⟨report, rfl, hnumbers⟩
        exact Or.inr ⟨report, rfl, hnumbers⟩
  · have hlength := (htold.state.groups g hg).length_lt
    have hlimit := Decimal.le_vastLimit_of_pow_lt Decimal.pow_modestLimit_lt
    unfold VolumeGroup.nextNumber
    exact Decimal.isWritable_of_lt_vastLimit (by omega)

/-- A plan of short numbers, over a layout with large sectors. -/
theorem configure_isTold_ofDigits :
    let plan := configure (.static (Layout.built [.ofDigits])) Requests.ofDigits
    Layout.parse Layout.ofDigits = .ok [.ofDigits] ∧
      (Layout.load "layout.json" Layout.ofDigits).answer =
        .ok (.static (Layout.built [.ofDigits])) ∧
      (∀ layout ∈ [DiskLayout.ofDigits], layout.IsModest) ∧ Requests.ofDigits.IsModest ∧
      plan.answer = .ok () ∧ Requests.ofDigits.IsTold plan := by
  intro plan
  have hlimit := Decimal.lt_modestLimit
  have hparse : Layout.parse Layout.ofDigits = .ok [.ofDigits] := by decide +kernel
  have hload := Layout.load_of_parse "layout.json" hparse
  have hnumbers : ∀ n ∈ DiskLayout.ofDigits.numbers, n.natAbs ≤ 100000 := by decide
  have hlayouts : ∀ layout ∈ [DiskLayout.ofDigits], layout.IsModest :=
    List.forall_mem_singleton.mpr
      ⟨fun n hn => Nat.lt_of_le_of_lt (hnumbers n hn) hlimit, Nat.lt_trans (by decide) hlimit⟩
  have hshort : ∀ kind, (Requests.ofDigits.tokens kind).length ≤ 100000 ∧
      ∀ token ∈ Requests.ofDigits.tokens kind, token.toList.length ≤ 1000 := by
    intro kind
    cases kind <;> decide
  have hmodest : Requests.ofDigits.IsModest :=
    ⟨Nat.lt_trans (by decide) hlimit, fun kind => Nat.lt_of_le_of_lt (hshort kind).1 hlimit,
      fun kind token h => Text.isModest_of_length_le ((hshort kind).2 token h)⟩
  exact ⟨hparse, hload, hlayouts, hmodest, by decide +kernel,
    configure_isTold hparse hload hlayouts hmodest⟩

end DiskPlan
