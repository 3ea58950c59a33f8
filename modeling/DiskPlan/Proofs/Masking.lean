import DiskPlan.Operation.Effect
import DiskPlan.PlanTable
import DiskPlan.Proofs.Outcome
import DiskPlan.Topology.Export
import Mathlib.Data.List.Basic

/-!
# Masking Passphrases

A passphrase is carried and never looked at.

Masking puts the same word in the place of every passphrase, in a topology and in
what is asked of it. Masking first and then working gives what working first and then
masking gives, with the same log and the same answer: `Operation.run_masked` and
`Topology.initializeGroups_masked` say so for all that can be done to a topology. So
two topologies that are masked to the same one, under operations that are masked to
the same one, stay so, and nothing that is logged tells them apart. What is shown of a
topology is shown of the masked one as well.

The lemmas follow the definitions one by one. Each says that a function of the masked
value is the masked value of the function.

## Main definitions

* `Outcome.image`: An outcome seen through a function of its states.
* `Encryption.masked`, ..., `Topology.masked`: A value with its passphrases masked.
* `Operation.masked`: An operation with its passphrases masked.

## Theorems

* `Operation.run_masked`: An operation does not look at passphrases.
* `Topology.initializeGroups_masked`: Nor does the making of volume groups.
* `Operation.describe_masked`: An operation in words has no passphrase.
* `Topology.toJson_masked`, `Topology.rows_masked`: Nor has what is shown of a plan.
-/

namespace DiskPlan

/-! ### Images of outcomes -/

namespace Outcome

variable {σ τ σ' τ' α β α' β' : Type}

/-- An outcome with its states and its answers seen through functions. Its log stays as it is, so
    two outcomes with one image log the same. -/
def image (view : σ → τ) (read : α → β) (o : Outcome σ α) : Outcome τ β :=
  ⟨view o.state, o.log, o.answer.map read⟩

/-- A chain is seen link by link, if the next link on what is seen is what is seen of the next
    link. -/
theorem image_andThen {view : σ → τ} {read : α → α'} {read' : β → β'} {o : Outcome σ α}
    {next : σ → α → Outcome σ β} {next' : τ → α' → Outcome τ β'}
    (h : ∀ s a, next' (view s) (read a) = (next s a).image view read') :
    (o.image view read).andThen next' = (o.andThen next).image view read' := by
  rcases o with ⟨s, log, answer⟩
  cases answer with
  | error f => rfl
  | ok a =>
      -- The answer is a value, so both chains go on to the next link.
      change Outcome.mk (next' (view s) (read a)).state (log ++ (next' (view s) (read a)).log)
        (next' (view s) (read a)).answer = _
      rw [h]
      rfl

theorem image_lift {view : σ → τ} {view' : σ' → τ'} {read : α → β} {put : σ → σ'}
    {put' : τ → τ'} (h : ∀ s, put' (view s) = view' (put s)) (o : Outcome σ α) :
    (o.image view read).lift put' = (o.lift put).image view' read := by
  unfold image lift
  rw [h]

theorem image_ofExcept (view : σ → τ) (read : α → β) (s : σ) (answer : Except Failure α) :
    (ofExcept s answer).image view read = ofExcept (view s) (answer.map read) := rfl

theorem image_ofExcept_id (view : σ → τ) (s : σ) (answer : Except Failure α) :
    (ofExcept s answer).image view id = ofExcept (view s) answer := by
  cases answer <;> rfl

/-- Telling an event does not look at the state. -/
theorem image_telling (view : σ → τ) (read : α → β) (s : σ) (e : Event) (a : α) :
    (telling s e a).image view read = telling (view s) e (read a) := by
  unfold telling
  split <;> rfl

end Outcome

/-! ### Masked values -/

/-- The word in the place of a passphrase. That there is a passphrase stays known, since a plan
    tells which volumes are encrypted. -/
def mask : String := "***"

/-- An encryption with its passphrase masked, if it has one. -/
def Encryption.masked (e : Encryption) : Encryption :=
  { e with passphrase := e.passphrase.map fun _ => mask }

/-- A membership with its passphrase masked. -/
def Membership.masked (m : Membership) : Membership :=
  { m with encryption := m.encryption.map Encryption.masked }

/-- A partition with its passphrase masked. -/
def Partition.masked (p : Partition) : Partition :=
  { p with membership := p.membership.map Membership.masked }

/-- A request with its passphrase masked. -/
def Request.masked (r : Request) : Request :=
  { r with membership := r.membership.map Membership.masked }

/-- A disk with the passphrases of its partitions masked. -/
def Disk.masked (d : Disk) : Disk :=
  { d with partitions := d.partitions.map Partition.masked }

/-- A volume group with its passphrases masked. -/
def VolumeGroup.masked (g : VolumeGroup) : VolumeGroup :=
  { g with
    encryption := g.encryption.map Encryption.masked
    partitions := g.partitions.map Partition.masked }

/-- A topology with all of its passphrases masked. -/
def Topology.masked (t : Topology) : Topology :=
  ⟨t.disks.map Disk.masked, t.groups.map VolumeGroup.masked⟩

/-- A physical volume with its passphrase masked. -/
def Member.masked (m : Member) : Member :=
  ⟨m.group, m.disk.masked, m.partition.masked⟩

/-- Contents with their passphrase masked. -/
def Content.masked : Content → Content
  | plain fs => plain fs
  | physicalVolume m => physicalVolume m.masked

/-- An action with its passphrase masked. -/
def DiskAction.masked : DiskAction → DiskAction
  | reuse number content suffix => reuse number (content.map Content.masked) suffix
  | create role first last content suffix => create role first last content.masked suffix
  | action => action

/-- An operation with its passphrase masked. -/
def Operation.masked : Operation → Operation
  | onDisk disk action => onDisk disk action.masked
  | onGroup group volume => onGroup group volume

/-! ### Disks -/

/-- The partitions with a property that has nothing to do with passphrases are the same ones,
    seen masked. -/
theorem filter_masked {q : Partition → Bool} (hq : ∀ p : Partition, q p.masked = q p)
    (ps : List Partition) :
    (ps.map Partition.masked).filter q = (ps.filter q).map Partition.masked := by
  rw [List.filter_map]
  congr 2
  exact funext hq

theorem find?_masked {q : Partition → Bool} (hq : ∀ p : Partition, q p.masked = q p)
    (ps : List Partition) :
    (ps.map Partition.masked).find? q = (ps.find? q).map Partition.masked := by
  rw [List.find?_map]
  congr 2
  exact funext hq

namespace Disk

theorem active_masked (d : Disk) : d.masked.active = d.active.map Partition.masked :=
  filter_masked (fun _ => rfl) d.partitions

theorem activeBesides_masked (d : Disk) (number : Int) :
    d.masked.activeBesides number = (d.activeBesides number).map Partition.masked := by
  unfold activeBesides
  change ((d.partitions.map Partition.masked).eraseP _).filter _ = _
  rw [List.eraseP_map]
  exact filter_masked (fun _ => rfl) _

/-- A partition is found by its number, which masking keeps. -/
theorem requirePartition_masked (d : Disk) (number : Int) :
    d.masked.requirePartition number = (d.requirePartition number).map Partition.masked := by
  unfold requirePartition
  have hfound : d.masked.partition? number = (d.partition? number).map Partition.masked :=
    find?_masked (fun _ => rfl) d.partitions
  rw [hfound]
  cases d.partition? number <;> rfl

theorem checkOverlap_masked (path : String) (others : List Partition) (first last : Int) :
    checkOverlap path (others.map Partition.masked) first last =
      checkOverlap path others first last := by
  unfold checkOverlap
  rw [find?_masked (fun _ => rfl)]
  cases others.find? fun p => p.Overlaps first last <;> rfl

/-- A change of a partition that is made in the same way with the passphrase masked. The change
    may be another function on masked partitions, as it is where a passphrase is given. -/
theorem updatePartition_masked {f f' : Partition → Partition}
    (h : ∀ p : Partition, f' p.masked = (f p).masked) (d : Disk) (number : Int) :
    d.masked.updatePartition number f' = (d.updatePartition number f).masked := by
  unfold updatePartition masked
  dsimp only
  rw [updateFirst_map (p := fun p => p.number == number) (fun _ => rfl) h]

theorem change_masked {f f' : Partition → Partition}
    (h : ∀ p : Partition, f' p.masked = (f p).masked) (d : Disk) (number : Int) :
    d.masked.change number f' = (d.change number f).image masked id := by
  unfold change
  rw [requirePartition_masked]
  -- The number is of no partition on either disk, or of the same one on both.
  cases d.requirePartition number with
  | error e => rfl
  | ok p =>
      change Outcome.done (d.masked.updatePartition number f') () = _
      rw [updatePartition_masked h]
      rfl

theorem movedRange_masked (d : Disk) (number first : Int) :
    d.masked.movedRange number first = d.movedRange number first := by
  unfold movedRange
  rw [requirePartition_masked, activeBesides_masked]
  cases d.requirePartition number with
  | error f => rfl
  | ok p =>
      -- The length that is kept is the same, so the bounds are.
      change (d.checkBounds _ _ >>= fun _ => checkOverlap d.path (List.map _ _) _ _ >>= _) = _
      rw [checkOverlap_masked]
      rfl

theorem checkResize_masked (d : Disk) (number last : Int) :
    d.masked.checkResize number last = d.checkResize number last := by
  unfold checkResize
  rw [requirePartition_masked, activeBesides_masked]
  cases d.requirePartition number with
  | error f => rfl
  | ok p =>
      change (d.checkBounds _ _ >>= fun _ => checkOverlap d.path (List.map _ _) _ _) = _
      rw [checkOverlap_masked]
      rfl

theorem move_masked (d : Disk) (number first : Int) :
    d.masked.move number first = (d.move number first).image masked id := by
  unfold move
  rw [movedRange_masked]
  cases d.movedRange number first with
  | error f => rfl
  | ok range =>
      dsimp only
      -- The event is told of the path, which is the same.
      rw [show d.masked.path = d.path from rfl, ← Outcome.image_telling masked id d]
      refine Outcome.image_andThen fun d' _ => ?_
      rw [updatePartition_masked (f := fun p => { p with first := range.1, last := range.2 })
        fun _ => rfl]
      rfl

theorem resize_masked (d : Disk) (number last : Int) :
    d.masked.resize number last = (d.resize number last).image masked id := by
  unfold resize
  rw [checkResize_masked]
  cases d.checkResize number last with
  | error f => rfl
  | ok _ =>
      dsimp only
      rw [show d.masked.path = d.path from rfl, ← Outcome.image_telling masked id d]
      refine Outcome.image_andThen fun d' _ => ?_
      rw [updatePartition_masked (f := fun p => { p with last := last }) fun _ => rfl]
      rfl

theorem nextNumber_masked (d : Disk) : d.masked.nextNumber = d.nextNumber := by
  unfold nextNumber masked
  rw [List.map_map]
  rfl

theorem checkRole_masked (d : Disk) (table : TableKind) (role : Role) :
    d.masked.checkRole table role = d.checkRole table role := by
  have hprimaries : d.masked.primaries = d.primaries := by
    unfold primaries
    rw [active_masked, List.countP_map]
    rfl
  cases role with
  | logical => rfl
  | primary =>
      unfold checkRole
      rw [hprimaries]
      rfl

theorem place_masked (d : Disk) (r : Request) :
    d.masked.place r.masked = (d.place r).map Partition.masked := by
  have htable : d.masked.table = d.table := rfl
  unfold place
  rw [htable]
  cases d.table with
  | none => rfl
  | some table =>
      dsimp only
      rw [checkRole_masked, active_masked, checkOverlap_masked, nextNumber_masked]
      -- All checks are the same by now, and the partition is made of what they leave.
      simp only [map_bind]
      rfl

theorem add_masked (d : Disk) (r : Request) :
    d.masked.add r.masked = (d.add r).image masked Partition.masked := by
  unfold add
  rw [place_masked]
  cases d.place r with
  | error f => rfl
  | ok p =>
      dsimp only [Except.map]
      rw [Outcome.image_telling]
      unfold masked
      rw [List.map_append]
      rfl

end Disk

namespace DiskAction

theorem deleteAll_masked (numbers : List Nat) (d : Disk) :
    -- Over the numbers, for whatever was deleted before them.
    deleteAll d.masked numbers = (deleteAll d numbers).image Disk.masked id := by
  induction numbers generalizing d with
  | nil => rfl
  | cons number rest ih =>
      rw [deleteAll, deleteAll, Disk.change_masked (f := fun p => { p with removed := true })
        fun _ => rfl]
      refine Outcome.image_andThen fun d' _ => ?_
      rw [ih]
      rfl

theorem moveTo_masked (number : Nat) (first : Option Position) (d : Disk) :
    moveTo d.masked number first = (moveTo d number first).image Disk.masked id := by
  cases first with
  | none => rfl
  | some position =>
      rw [moveTo, show d.masked.resolve? position = d.resolve? position from rfl,
        ← Outcome.image_ofExcept_id]
      exact Outcome.image_andThen fun d' first => d'.move_masked number first

theorem resizeTo_masked (number : Nat) (last : Option Position) (d : Disk) :
    resizeTo d.masked number last = (resizeTo d number last).image Disk.masked id := by
  cases last with
  | none => rfl
  | some position =>
      rw [resizeTo, show d.masked.resolve? position = d.resolve? position from rfl,
        ← Outcome.image_ofExcept_id]
      exact Outcome.image_andThen fun d' last => d'.resize_masked number last

/-- The contents may bring a passphrase with them, which is masked on the one side. -/
theorem withContent_masked (content : Option Content) (p : Partition) :
    withContent (content.map Content.masked) p.masked = (withContent content p).masked := by
  rcases content with _ | (fs | m) <;> rfl

theorem withSuffix_masked (suffix : Suffix) (p : Partition) :
    withSuffix suffix p.masked = (withSuffix suffix p).masked := by
  rcases suffix with ⟨mount, flags, keyId⟩
  cases mount <;> cases flags <;> cases keyId <;> rfl

theorem request_masked (role : Role) (content : Content) (suffix : Suffix) (first last : Int) :
    request role content.masked suffix first last =
      (request role content suffix first last).masked := by
  cases content <;> rfl

/-- An action does not look at passphrases: with all of them masked it does the same, answers the
    same and logs the same. -/
theorem run_masked (action : DiskAction) (d : Disk) :
    action.masked.run d.masked = (action.run d).image Disk.masked id := by
  cases action with
  | relabel table =>
      have hcount : d.masked.partitions.length = d.partitions.length := List.length_map _
      simp only [masked, run, Disk.relabel, hcount]
      rfl
  | delete numbers => exact deleteAll_masked numbers d
  | move number first last =>
      -- A move is two chains, for the start and for the end.
      have hmoved : ((Outcome.ofExcept d.masked (d.masked.requirePartition number)).andThen
          fun d _ => moveTo d number first) =
            ((Outcome.ofExcept d (d.requirePartition number)).andThen fun d _ =>
              moveTo d number first).image Disk.masked id := by
        rw [Disk.requirePartition_masked, ← Outcome.image_ofExcept]
        exact Outcome.image_andThen fun d' _ => moveTo_masked number first d'
      simp only [masked, run, hmoved]
      exact Outcome.image_andThen fun d' _ => resizeTo_masked number last d'
  | reuse number content suffix =>
      -- The partition is found by its number, and what it is given is masked with it.
      refine Disk.change_masked (fun p => ?_) d number
      simp only [Function.comp_apply, withContent_masked, withSuffix_masked]
  | create role first last content suffix =>
      have hrange : range d.masked first last = range d first last := rfl
      simp only [masked, run, hrange, ← Outcome.image_ofExcept_id]
      refine Outcome.image_andThen fun d' sectors => ?_
      rw [request_masked, Disk.add_masked]
      exact Outcome.image_andThen fun _ _ => rfl

end DiskAction

/-! ### Volume groups -/

namespace VolumeGroup

theorem nextNumber_masked (g : VolumeGroup) : g.masked.nextNumber = g.nextNumber := by
  unfold nextNumber masked
  rw [List.length_map]

theorem chosenName_masked (g : VolumeGroup) (name : Option String) :
    g.masked.chosenName name = g.chosenName name := by
  unfold chosenName
  rw [nextNumber_masked]

theorem checkName_masked (g : VolumeGroup) (name : String) :
    g.masked.checkName name = g.checkName name := by
  have hfound : g.masked.volume? name = (g.volume? name).map Partition.masked :=
    find?_masked (fun _ => rfl) g.partitions
  unfold checkName
  rw [hfound, Option.isSome_map]
  rfl

theorem checkOverlap_masked (g : VolumeGroup) (first last : Int) :
    g.masked.checkOverlap first last = g.checkOverlap first last := by
  unfold checkOverlap
  rw [show g.masked.partitions = g.partitions.map Partition.masked from rfl,
    find?_masked fun _ => rfl]
  cases g.partitions.find? fun p => p.Overlaps first last <;> rfl

theorem place_masked (g : VolumeGroup) (r : Request) :
    g.masked.place r.masked = (g.place r).map Partition.masked := by
  unfold place
  rw [show r.masked.name = r.name from rfl, chosenName_masked]
  simp only [checkName_masked, checkOverlap_masked, nextNumber_masked, map_bind]
  rfl

theorem add_masked (g : VolumeGroup) (r : Request) :
    g.masked.add r.masked = (g.add r).image masked Partition.masked := by
  unfold add
  rw [place_masked, show r.masked.name = r.name from rfl, chosenName_masked]
  cases g.place r with
  | error f => rfl
  | ok p =>
      dsimp only [Except.map]
      rw [Outcome.image_telling]
      unfold masked
      rw [List.map_append]
      rfl

end VolumeGroup

/-- Nor does the placing of a volume, which has no passphrase of its own. Its place depends on
    the sectors of the last one before it. -/
theorem NewVolume.run_masked (v : NewVolume) (g : VolumeGroup) :
    v.run g.masked = (v.run g).image VolumeGroup.masked id := by
  have hfirst : ∀ g : VolumeGroup, firstSector g.masked = firstSector g := by
    intro g
    unfold firstSector VolumeGroup.lastSector? VolumeGroup.masked
    rw [List.getLast?_map, Option.map_map]
    rfl
  have hadd : ∀ (g : VolumeGroup) (first last : Int), g.masked.add (v.request first last) =
      (g.add (v.request first last)).image VolumeGroup.masked Partition.masked :=
    fun g first last => g.add_masked (v.request first last)
  have hresolve : g.masked.resolve? v.size = g.resolve? v.size := rfl
  unfold run
  rw [hresolve, ← Outcome.image_ofExcept_id]
  refine Outcome.image_andThen fun g' size => ?_
  rw [id, hfirst, hadd]
  refine congrArg (Outcome.logging v.mounted) (Outcome.image_andThen ?_)
  exact fun _ _ => rfl

/-! ### Topologies -/

namespace Topology

theorem disk?_masked (t : Topology) (name : String) :
    t.masked.disk? name = (t.disk? name).map Disk.masked := by
  unfold disk? masked
  rw [List.find?_map]
  rfl

theorem group?_masked (t : Topology) (name : String) :
    t.masked.group? name = (t.group? name).map VolumeGroup.masked := by
  unfold group? masked
  rw [List.find?_map]
  rfl

/-- Putting a disk back in its place and masking all disks can be done in either order. -/
theorem exchange_disk_masked (t : Topology) (name : String) (d : Disk) :
    { t.masked with
        disks := updateFirst (fun d => d.isNamed name) (fun _ => d.masked) t.masked.disks } =
      masked
        { t with disks := updateFirst (fun d => d.isNamed name) (fun _ => d) t.disks } := by
  have hdisks :
      updateFirst (fun d => d.isNamed name) (fun _ => d.masked) (t.disks.map Disk.masked) =
        (updateFirst (fun d => d.isNamed name) (fun _ => d) t.disks).map Disk.masked := by
    refine updateFirst_map ?_ ?_ t.disks
    · exact fun _ => rfl
    · exact fun _ => rfl
  exact congrArg (fun disks => (⟨disks, t.masked.groups⟩ : Topology)) hdisks

theorem exchange_group_masked (t : Topology) (name : String) (g : VolumeGroup) :
    { t.masked with
        groups := updateFirst (fun g => g.name == name) (fun _ => g.masked) t.masked.groups } =
      masked
        { t with groups := updateFirst (fun g => g.name == name) (fun _ => g) t.groups } := by
  have hgroups :
      updateFirst (fun g => g.name == name) (fun _ => g.masked) (t.groups.map VolumeGroup.masked) =
        (updateFirst (fun g => g.name == name) (fun _ => g) t.groups).map VolumeGroup.masked := by
    refine updateFirst_map ?_ ?_ t.groups
    · exact fun _ => rfl
    · exact fun _ => rfl
  exact congrArg (fun groups => (⟨t.masked.disks, groups⟩ : Topology)) hgroups

end Topology

/-- An operation does not look at passphrases, and neither does the search for its disk or group. -/
theorem Operation.run_masked (op : Operation) (t : Topology) :
    op.masked.run t.masked = (op.run t).image Topology.masked id := by
  cases op with
  | onDisk name action =>
      simp only [masked, run, Topology.onDisk, Topology.disk?_masked]
      -- Without a disk of that name both fail alike.
      cases t.disk? name with
      | none => rfl
      | some d =>
          dsimp only [Option.map]
          rw [action.run_masked]
          refine Outcome.image_lift (fun d' => ?_) (action.run d)
          exact Topology.exchange_disk_masked t name d'
  | onGroup name volume =>
      simp only [masked, run, Topology.onGroup, Topology.group?_masked]
      cases t.group? name with
      | none => rfl
      | some g =>
          dsimp only [Option.map]
          rw [volume.run_masked]
          refine Outcome.image_lift (fun g' => ?_) (volume.run g)
          exact Topology.exchange_group_masked t name g'

namespace Topology

theorem membersOf_masked (d : Disk) :
    membersOf d.masked = (membersOf d).map Member.masked := by
  unfold membersOf
  rw [Disk.active_masked, List.filterMap_map, List.map_filterMap]
  -- Only partitions that are in a group are members of one.
  refine List.filterMap_congr fun p _ => ?_
  have hphysical : p.masked.isPhysicalVolume = p.isPhysicalVolume := by
    unfold Partition.isPhysicalVolume Partition.masked
    rw [Option.isSome_map]
  rw [Function.comp_apply, hphysical]
  cases p.isPhysicalVolume with
  | false => rfl
  | true =>
      rw [if_pos rfl, if_pos rfl, Option.map_map]
      change (p.membership.map Membership.masked).map _ = _
      rw [Option.map_map]
      rfl

theorem members_masked (t : Topology) : t.masked.members = t.members.map Member.masked := by
  unfold members masked
  rw [List.flatMap_map, List.map_flatMap]
  exact List.flatMap_congr fun d _ => membersOf_masked d

theorem pendingNames_masked (t : Topology) : t.masked.pendingNames = t.pendingNames := by
  unfold pendingNames
  rw [members_masked, List.map_map]
  rfl

theorem membersOfGroup_masked (t : Topology) (name : String) :
    t.masked.membersOfGroup name = (t.membersOfGroup name).map Member.masked := by
  unfold membersOfGroup
  rw [members_masked, List.filter_map]
  rfl

/-- Of its members a group takes names, sizes and encryptions, and the last of these are masked. -/
theorem ofMembers_masked (name : String) (members : List Member) :
    VolumeGroup.ofMembers name (members.map Member.masked) =
      (VolumeGroup.ofMembers name members).masked := by
  have hencryption : ∀ m : Member, m.masked.encryption? = m.encryption?.map Encryption.masked := by
    intro m
    unfold Member.encryption? Member.masked Partition.masked
    cases m.partition.membership <;> rfl
  have hdevice : ∀ m : Member, m.masked.device = m.device := by
    intro m
    unfold Member.device
    rw [hencryption]
    cases m.encryption? <;> rfl
  unfold VolumeGroup.ofMembers VolumeGroup.masked
  dsimp only
  rw [List.map_map, List.map_map, List.filterMap_map, List.map_filterMap]
  congr 1
  · exact List.map_congr_left fun m _ => hdevice m
  · exact List.filterMap_congr fun m _ => hencryption m

theorem missingGroups_masked (t : Topology) :
    t.masked.missingGroups = t.missingGroups.map VolumeGroup.masked := by
  have hpending : t.masked.pendingGroups =
      t.pendingGroups.map fun g => (g.1, g.2.map Member.masked) := by
    unfold pendingGroups
    rw [pendingNames_masked, List.map_map]
    exact List.map_congr_left fun name _ => congrArg (Prod.mk name) (membersOfGroup_masked t name)
  -- Which groups are known depends on their names.
  have hknown : ∀ name, (t.masked.group? name).isNone = (t.group? name).isNone := by
    intro name
    rw [group?_masked, Option.isNone_map]
  unfold missingGroups
  rw [hpending, List.filter_map, List.map_map, List.map_map]
  simp only [Function.comp_def, hknown, ofMembers_masked]

theorem addGroups_masked (gs : List VolumeGroup) (t : Topology) :
    addGroups (gs.map VolumeGroup.masked) t.masked = (addGroups gs t).image masked id := by
  -- Over the groups, for whatever was added before them.
  induction gs generalizing t with
  | nil => rfl
  | cons g rest ih =>
      have hgroups : { t.masked with groups := t.masked.groups ++ [g.masked] } =
          masked { t with groups := t.groups ++ [g] } := by
        unfold masked
        rw [List.map_append]
        rfl
      rw [List.map_cons, addGroups, addGroups, hgroups, ih,
        show g.masked.sectors = g.sectors from rfl]
      cases Decimal.isWritable g.sectors <;> rfl

/-- Nor does the making of volume groups look at passphrases, which are carried along with the
    members that have them. -/
theorem initializeGroups_masked (t : Topology) :
    t.masked.initializeGroups = t.initializeGroups.image masked id := by
  unfold initializeGroups
  rw [missingGroups_masked, addGroups_masked]

end Topology

/-! ### What is shown -/

/-- An encryption in words is told without its passphrase, whichever that is: the field is marked
    as one that is not to be shown. -/
theorem Encryption.describe_masked (e : Encryption) : e.masked.describe = e.describe := by
  have hshown : ∀ e : Encryption, e.describe = describeFields "LvmEncryption" [
      .shown "physical_volume" (Text.inQuotes e.physicalVolume),
      .shown "keydata" (describeOptional Text.inQuotes e.keyFile)] :=
    fun e => describeFields_hidden "LvmEncryption" "password"
      (describeOptional Text.inQuotes e.passphrase)
      [.shown "physical_volume" (Text.inQuotes e.physicalVolume)]
      [.shown "keydata" (describeOptional Text.inQuotes e.keyFile)]
  rw [hshown, hshown]
  rfl

theorem Content.describe_masked (c : Content) : c.masked.describe = c.describe := by
  rcases c with fs | ⟨group, _ | e⟩
  · rfl
  · rfl
  · have hencryption : describeOptional Encryption.describe (some e.masked) =
        describeOptional Encryption.describe (some e) := e.describe_masked
    unfold masked describe Membership.masked
    dsimp only [Option.map]
    rw [hencryption]

/-- What is to be done to a disk has no passphrase in words. Only contents can have one, and
    these are told without it. -/
theorem DiskAction.describe_masked (action : DiskAction) :
    action.masked.describe = action.describe := by
  cases action with
  | reuse number content suffix =>
      cases content with
      | none => rfl
      | some c =>
          have hcontent : describeOptional Content.describe (some c.masked) =
              describeOptional Content.describe (some c) := c.describe_masked
          unfold masked describe
          dsimp only [Option.map]
          rw [hcontent]
  | create role first last content suffix =>
      unfold masked describe
      dsimp only
      rw [content.describe_masked]
  | _ => rfl

/-- An operation in words has no passphrase, so logging an operation reveals none. -/
theorem Operation.describe_masked (op : Operation) : op.masked.describe = op.describe := by
  cases op with
  | onGroup group volume => rfl
  | onDisk disk action =>
      unfold masked describe
      dsimp only
      rw [action.describe_masked]

example :
    (Operation.onDisk "sda" (.reuse 1
      (some (.physicalVolume ⟨"root", some ⟨"crypt", some "secret", none⟩⟩))
      ⟨some (.parse "/srv"), some [.boot], none⟩)).describe =
    "ReuseOperation(disk='sda', partition=1, filesystem=LvmFs(volume_group='root', " ++
      "encryption=LvmEncryption(physical_volume='crypt', keydata=None)), " ++
      "suffix=SuffixFields(mount=PosixPath('/srv'), " ++
      "flags=frozenset(\x7b<PartitionFlag.BOOT: 'boot'>\x7d), key_id=None))" := by
  decide +kernel

/-- Whether there is a passphrase is written, and masking keeps that. -/
theorem Encryption.toJson_masked (e : Encryption) : e.masked.toJson = e.toJson := by
  unfold toJson masked
  rw [Option.isSome_map]

theorem Membership.toJson_masked (m : Membership) : m.masked.toJson = m.toJson := by
  rcases m with ⟨group, _ | e⟩
  · rfl
  · unfold toJson masked
    dsimp only [Option.map]
    rw [e.toJson_masked]

theorem Partition.toJson_masked (p : Partition) : p.masked.toJson = p.toJson := by
  have hmembership : p.masked.membership.map Membership.toJson =
      p.membership.map Membership.toJson := by
    unfold masked
    rw [Option.map_map, show Membership.toJson ∘ Membership.masked = Membership.toJson from
      funext Membership.toJson_masked]
  unfold toJson
  rw [hmembership]
  rfl

theorem Partition.toJson_comp_masked : Partition.toJson ∘ Partition.masked = Partition.toJson :=
  funext Partition.toJson_masked

theorem Disk.toJson_masked (d : Disk) : d.masked.toJson = d.toJson := by
  unfold toJson masked
  dsimp only
  rw [List.map_map, Partition.toJson_comp_masked]
  rfl

theorem VolumeGroup.toJson_masked (g : VolumeGroup) : g.masked.toJson = g.toJson := by
  have hencryption : Encryption.toJson ∘ Encryption.masked = Encryption.toJson :=
    funext Encryption.toJson_masked
  unfold toJson masked
  dsimp only
  rw [List.map_map, List.map_map, Partition.toJson_comp_masked, hencryption]
  rfl

/-- A plan as JSON has no passphrase, whatever disks and groups there are. -/
theorem Topology.toJson_masked (t : Topology) : t.masked.toJson = t.toJson := by
  have hdisk : Disk.toJson ∘ Disk.masked = Disk.toJson := funext Disk.toJson_masked
  have hgroup : VolumeGroup.toJson ∘ VolumeGroup.masked = VolumeGroup.toJson :=
    funext VolumeGroup.toJson_masked
  unfold toJson masked
  dsimp only
  rw [List.map_map, List.map_map, hdisk, hgroup]

/-- Nor has the table of a plan, which tells nothing of encryption. -/
theorem Topology.rows_masked (t : Topology) : t.masked.rows = t.rows := by
  have hdisk : ∀ d : Disk, d.masked.rows = d.rows := by
    intro d
    unfold Disk.rows Disk.masked
    dsimp only
    rw [List.map_map]
    rfl
  have hgroup : ∀ g : VolumeGroup, g.masked.rows = g.rows := by
    intro g
    unfold VolumeGroup.rows VolumeGroup.masked
    dsimp only
    rw [List.map_map]
    rfl
  unfold rows masked
  dsimp only
  rw [List.flatMap_map, List.flatMap_map, List.flatMap_congr fun d _ => hdisk d,
    List.flatMap_congr fun g _ => hgroup g]

end DiskPlan
