import DiskPlan.Proofs.Refusal
import DiskPlan.Proofs.Stages
import DiskPlan.Proofs.Volumes
import Mathlib.Data.List.Chain
import Mathlib.Data.List.Nodup

/-!
# Stacked Volumes

The volumes of a group stand one on the other, from its first sector on.

A volume is placed behind the last volume of the list, not behind the greatest sector
that is taken. That these two are the same is an invariant: every volume ends before
the sector at which the next one is to start. It is also the reason why the check for
an overlap, which every volume has to pass, never refuses one. The numbers and the
names are part of the same invariant, since a volume that gets no name is named after
its number.

Nothing but a token for the group itself changes a group, so the invariant holds
after every session, whatever else is done in it and whichever of its calls fail.

## Main definitions

* `VolumeGroup.IsStacked`: The volumes of a group as they are to be.

## Theorems

* `VolumeGroup.IsStacked.place`: A volume that is placed comes on top.
* `VolumeGroup.IsStacked.checkOverlap`: There is no volume in its place.
* `failsWith_applyToken_of_isStacked`: No token is refused for an overlap.
* `after_isStacked`: The volumes of a group after every session.
-/

namespace DiskPlan

open Failure

/-- The volumes of a group as they are to be: numbered from one, the first of them at
    the first sector of the group, and each of the others right behind the one before
    it. -/
structure VolumeGroup.IsStacked (g : VolumeGroup) : Prop where
  numbers : g.partitions.map Partition.number =
    (List.range g.partitions.length).map fun i : Nat => (i : Int) + 1
  start : ∀ p ∈ g.partitions.head?, p.first = 0
  contiguous : g.partitions.IsChain fun p q => q.first = p.last + 1
  ordered : ∀ p ∈ g.partitions, p.first < p.last
  below : ∀ p ∈ g.partitions, p.last < NewVolume.firstSector g
  bound : ∀ last ∈ g.lastSector?, last ≤ g.sectors
  named : ∀ p ∈ g.partitions, ∃ name, name ≠ "" ∧ p.name = some (.ofString name) ∧
    p.path = "/dev/mapper/" ++ g.name ++ "-" ++ name
  distinct : (g.partitions.map Partition.name).Nodup

namespace VolumeGroup

variable {g : VolumeGroup}

/-- A group without volumes is stacked. Whatever is said of its volumes is said of none. -/
theorem isStacked_nil (h : g.partitions = []) : g.IsStacked := by
  have hnone : ∀ p, p ∉ g.partitions := by
    intro p
    rw [h]
    exact List.not_mem_nil
  refine ⟨by simp only [h, List.map_nil, List.length_nil, List.range_zero], ?_,
    by rw [h]; exact .nil, fun p hp => absurd hp (hnone p),
    fun p hp => absurd hp (hnone p), ?_, fun p hp => absurd hp (hnone p), by rw [h]; exact .nil⟩
  · intro p hp
    exact absurd (List.mem_of_mem_head? hp) (hnone p)
  · intro last hlast
    rw [lastSector?, h] at hlast
    exact absurd hlast (Option.not_mem_none last)

/-- A volume that gets no name of its own is named after its number, and a name that is given is
    not empty, so no volume is without a name. -/
theorem chosenName_ne_empty (g : VolumeGroup) (name : Option String) : g.chosenName name ≠ "" := by
  unfold chosenName
  split
  · rename_i name' hname
    simpa using (Option.filter_eq_some_iff.mp hname).2
  · -- The name begins with letters, whatever the number is.
    intro hempty
    have hlength := congrArg String.length hempty
    rw [String.length_append] at hlength
    exact absurd hlength (by simp)

/-- A name that is free is that of no volume. -/
theorem volume?_eq_none_iff {name : String} :
    g.volume? name = none ↔ some (.ofString name) ∉ g.partitions.map Partition.name := by
  unfold volume?
  rw [List.find?_eq_none, List.mem_map]
  constructor
  · rintro h ⟨p, hp, hname⟩
    exact absurd (beq_iff_eq.mpr hname) (h p hp)
  · intro h p hp hname
    exact h ⟨p, hp, beq_iff_eq.mp hname⟩

/-- The next volume starts behind the last one, or at the first sector. -/
theorem firstSector_of_getLast? {last : Partition} (h : g.partitions.getLast? = some last) :
    NewVolume.firstSector g = last.last + 1 := by
  rw [NewVolume.firstSector, lastSector?, h]
  rfl

/-- The first volume starts at the first sector. -/
theorem firstSector_of_nil (h : g.partitions = []) : NewVolume.firstSector g = 0 := by
  rw [NewVolume.firstSector, lastSector?, h]
  rfl

/-- The next volume does not begin before the group. If there is a volume, the next one begins
    behind it, and the first of them is at sector zero. -/
theorem IsStacked.firstSector_nonneg (h : g.IsStacked) : 0 ≤ NewVolume.firstSector g := by
  cases hpartitions : g.partitions with
  | nil =>
      unfold NewVolume.firstSector lastSector?
      rw [hpartitions]
      exact Int.le_refl 0
  | cons p rest =>
      have hmem : p ∈ g.partitions := by
        rw [hpartitions]
        exact List.mem_cons_self
      have hstart := h.start p (by rw [hpartitions]; rfl)
      have hordered := h.ordered p hmem
      have hbelow := h.below p hmem
      omega

/-- A volume that is placed behind the last one comes on top of the others. -/
theorem IsStacked.place {volume : NewVolume} {size : Int} {p : Partition} (h : g.IsStacked)
    (hplace : g.place (volume.request (NewVolume.firstSector g)
      (NewVolume.firstSector g + size)) = .ok p) :
    ({ g with partitions := g.partitions ++ [p] } : VolumeGroup).IsStacked := by
  rcases place_eq_ok hplace with ⟨⟨hlt, hbound⟩, hfree, _, hp⟩
  have hfirst : p.first = NewVolume.firstSector g := by rw [hp]; rfl
  have hlast : p.last = NewVolume.firstSector g + size := by rw [hp]; rfl
  have hnumber : p.number = (g.partitions.length : Int) + 1 := by rw [hp]; rfl
  have hname : p.name = some (.ofString (g.chosenName (some volume.name))) := by rw [hp]; rfl
  have hpath : p.path =
      "/dev/mapper/" ++ g.name ++ "-" ++ g.chosenName (some volume.name) := by rw [hp]; rfl
  have hordered : p.first < p.last := by
    rw [hfirst, hlast]
    exact hlt
  -- The place of the next volume after this one is what the rest of the volumes are measured by.
  have hnext : NewVolume.firstSector { g with partitions := g.partitions ++ [p] } = p.last + 1 :=
    firstSector_of_getLast? List.getLast?_concat
  refine ⟨?numbers, ?start, ?contiguous, ?ordered, ?below, ?bound, ?named, ?distinct⟩
  case numbers =>
    rw [List.map_append, h.numbers, List.length_append, List.length_singleton, List.range_succ,
      List.map_append, List.map_singleton, List.map_singleton, hnumber]
  -- A volume that is placed in an empty group is the first one.
  case start =>
    intro q hq
    cases hvolumes : g.partitions with
    | nil =>
        rw [hvolumes, List.nil_append, List.head?_cons, Option.mem_some_iff] at hq
        rw [← hq, hfirst, firstSector_of_nil hvolumes]
    | cons q' rest =>
        refine h.start q ?_
        rw [hvolumes] at hq ⊢
        exact hq
  -- A volume starts right behind the last one because that is where it is asked to start.
  case contiguous =>
    refine List.isChain_append.mpr ⟨h.contiguous, .singleton p, fun q hq q' hq' => ?_⟩
    rw [List.head?_cons, Option.mem_some_iff] at hq'
    rw [← hq', hfirst, firstSector_of_getLast? hq]
  case ordered =>
    exact List.forall_mem_append.mpr ⟨h.ordered, List.forall_mem_singleton.mpr hordered⟩
  case below =>
    -- What ended before the new volume starts ends before the new volume ends.
    rw [hnext]
    refine List.forall_mem_append.mpr ⟨fun q hq => ?_, List.forall_mem_singleton.mpr (by omega)⟩
    have hbelow := h.below q hq
    omega
  case bound =>
    intro last hmem
    rw [lastSector?, List.getLast?_concat, Option.map_some, Option.mem_some_iff] at hmem
    rw [← hmem, hlast]
    exact hbound
  case named =>
    exact List.forall_mem_append.mpr ⟨h.named, List.forall_mem_singleton.mpr
      ⟨_, g.chosenName_ne_empty _, hname, hpath⟩⟩
  -- The name was checked against those of all volumes, and the check is the one on names that are
  -- given as well as on those made of the number.
  case distinct =>
    rw [List.map_append, List.map_singleton, List.nodup_append]
    refine ⟨h.distinct, List.nodup_singleton _, fun name hmem name' hname' hsame => ?_⟩
    rw [hsame, List.mem_singleton.mp hname', hname] at hmem
    exact volume?_eq_none_iff.mp hfree hmem

/-- Behind the last volume there is none, so no overlap is found there. The check asks for a
    volume that begins before the new one ends and ends behind its start, and no volume does. -/
theorem IsStacked.checkOverlap (h : g.IsStacked) (last : Int) :
    g.checkOverlap (NewVolume.firstSector g) last = .ok () := by
  unfold VolumeGroup.checkOverlap
  have hnone : (g.partitions.find? fun p => p.Overlaps (NewVolume.firstSector g) last) = none := by
    refine List.find?_eq_none.mpr fun p hp => ?_
    have hbelow := h.below p hp
    rw [decide_eq_true_eq]
    rintro ⟨hfirst, _⟩
    omega
  rw [hnone]

end VolumeGroup

/-- A volume that is placed keeps its group stacked. -/
theorem NewVolume.Change.isStacked {v : NewVolume} {g g' : VolumeGroup} (h : v.Change g g')
    (hg : g.IsStacked) : g'.IsStacked := by
  cases h with
  | place _ hplace => exact hg.place hplace

/-! ### Refusals -/

/-- A failure that is not the overlap of two partitions. -/
def Failure.IsNoOverlap (f : Failure) : Prop :=
  f.name ≠ "SectorOverlaps"

/-- A problem of a disk that is no overlap can also fail to be told, and that is no overlap
    either. -/
theorem Failure.isNoOverlap_ofDisk {p : DiskProblem} (h : p.name ≠ "SectorOverlaps") :
    (ofDisk p).IsNoOverlap :=
  name_ofDisk_ne h (by decide)

/-- What can go wrong while a token is read is not an overlap. -/
theorem Failure.IsOfReading.isNoOverlap {f : Failure} (h : f.IsOfReading) : f.IsNoOverlap := by
  unfold IsNoOverlap
  cases h with
  | badSyntax p => cases p <;> simp [Failure.name, Problem.name, SyntaxProblem.name]
  | numeral limit => simp [Failure.name]

/-- A volume can be refused for its size, its place or its name, but not for an overlap. These
    are all the checks there are, in the order in which they are made. -/
theorem NewVolume.failsWith_run_of_isStacked (v : NewVolume) {g : VolumeGroup}
    (hg : g.IsStacked) : FailsWith IsNoOverlap (v.run g).answer := by
  have hresolve : FailsWith IsNoOverlap (g.resolve? v.size) := by
    unfold VolumeGroup.resolve? Position.resolve?
    split
    · exact failsWith_error (show Failure.zeroDivisor.name ≠ _ by decide)
    · exact failsWith_ok _
  have hbounds : ∀ first last, FailsWith IsNoOverlap (g.checkBounds first last) := by
    intro first last
    unfold VolumeGroup.checkBounds
    split
    · exact failsWith_error (isNoOverlap_ofDisk (by simp [DiskProblem.name]))
    · split
      · exact failsWith_error (isNoOverlap_ofDisk (by simp [DiskProblem.name]))
      · exact failsWith_ok _
  have hname : ∀ name, FailsWith IsNoOverlap (g.checkName name) := by
    intro name
    unfold VolumeGroup.checkName
    split
    · exact failsWith_error (isNoOverlap_ofDisk (by simp [DiskProblem.name]))
    · exact failsWith_ok _
  refine Outcome.andThen_failsWith hresolve fun size _ => ?_
  refine Outcome.andThen_failsWith ?_ fun _ _ => failsWith_ok ()
  have hplace : FailsWith IsNoOverlap (g.place (v.request (firstSector g)
      (firstSector g + size))) := by
    refine (hbounds _ _).bind fun _ _ => (hname _).bind fun _ _ => FailsWith.bind ?_ fun _ _ =>
      failsWith_ok _
    -- The range is the one from the next free sector on.
    rw [show (v.request (firstSector g) (firstSector g + size)).first = firstSector g from rfl,
      hg.checkOverlap]
    exact failsWith_ok ()
  unfold VolumeGroup.add
  split
  · rename_i f hf
    exact failsWith_error (hplace f hf)
  · exact Outcome.telling_failsWith (show (Failure.numeral .writing).name ≠ _ by decide)

/-- The group and the name of a logical volume are the first two fields of its token. -/
theorem Operation.fields_of_readLogical {fields : List String} {op : Operation}
    (h : (readLogical fields).operation = .ok op) :
    ∃ group volume rest, fields = group :: volume.name :: rest ∧ op = .onGroup group volume := by
  unfold readLogical at h
  split at h
  · split at h
    · exact absurd h (by simp [Reading.wrongCount, Reading.flagless])
    · split at h
      · exact absurd h (by simp [Reading.flagless])
      · rcases bind_eq_ok_iff.mp h with ⟨_, _, h⟩
        rcases bind_eq_ok_iff.mp h with ⟨_, _, h⟩
        exact ⟨_, _, _, rfl, (Except.ok.inj h).symm⟩
  · exact absurd h (by simp [Reading.wrongCount, Reading.flagless])

/-- No token for a group of stacked volumes is refused for an overlap. -/
theorem failsWith_applyToken_of_isStacked {t : Topology} {name : String} {g : VolumeGroup}
    (hg : t.group? name = some g) (hstacked : g.IsStacked) {token : String}
    (hname : (Text.fields ':' token).head? = some name) :
    FailsWith IsNoOverlap (applyToken .logical token t).answer := by
  -- A failure keeps its name when the token is recorded.
  have hwithin : ∀ f : Failure, f.IsNoOverlap →
      (f.within ⟨Kind.logical.name, token⟩).IsNoOverlap := by
    intro f hf
    unfold IsNoOverlap
    rw [name_within]
    exact hf
  cases hread : (Operation.read .logical token).operation with
  | error f =>
      rw [applyToken_answer_of_error hread]
      exact failsWith_error (hwithin f (Operation.failsWith_read _ _ f hread).isNoOverlap)
  | ok op =>
      rcases Operation.fields_of_readLogical hread with ⟨group, volume, _, hfields, rfl⟩
      -- The token names the group first, so it is for this one.
      obtain rfl : group = name := by
        rw [hfields, List.head?_cons, Option.some.injEq] at hname
        exact hname
      rcases find?_eq_some_iff_firstAt.mp hg with ⟨before, after, hat⟩
      rw [applyToken_answer_eq hread, (Operation.run_onGroup_of_firstAt hat volume).2]
      exact failsWith_mapError ((volume.failsWith_run_of_isStacked hstacked).mono hwithin)

/-! ### Sessions -/

/-- A group that is made of its members keeps its volumes stacked in every session,
    and itself as it was made. No token that is for it is ever refused for an
    overlap. -/
theorem after_isStacked {t : Topology} {name : String} {g : VolumeGroup}
    (hnew : t.group? name = none) (hg : t.initializeGroups.state.group? name = some g)
    (calls : List Call) :
    ∃ g', (t.initializeGroups.state.after calls).group? name = some g' ∧
      g'.IsStacked ∧ g'.withoutVolumes = g ∧
        ∀ token f, (Text.fields ':' token).head? = some name →
          (applyToken .logical token (t.initializeGroups.state.after calls)).answer = .error f →
            f.name ≠ "SectorOverlaps" := by
  have hempty := partitions_of_initializeGroups hnew hg
  -- A group that was just made has no volumes yet, so it is stacked, and it is already what is
  -- left when the volumes are taken away.
  have hsame : g.withoutVolumes = g := by
    unfold VolumeGroup.withoutVolumes
    rw [← hempty]
  rcases Topology.group?_of_reaches (P := fun g' => g'.IsStacked ∧ g'.withoutVolumes = g)
      (fun hchange h => ⟨hchange.isStacked h.1, by cases hchange; exact h.2⟩)
      (t.initializeGroups.state.after_reaches calls)
      ⟨g, hg, VolumeGroup.isStacked_nil hempty, hsame⟩ with ⟨g', hg', hstacked, hmade⟩
  refine ⟨g', hg', hstacked, hmade, fun token f hname hf => ?_⟩
  exact failsWith_applyToken_of_isStacked hg' hstacked hname f hf

/-- A group of 1000 sectors in a session in which a name is taken, a volume gets a name
    of its own, another kind of token is applied and volume groups are made again. One
    more token is refused, since the name that it asks for was given away. -/
theorem after_isStacked_ofThree :
    let t : Topology := (⟨[.ofThree], []⟩ : Topology).afterTokens [(.reuse, "sda:1:lvm=vg")]
    let calls := [.apply .logical ["vg:root:50%:ext4:mount=/", "vg:root:10%:ext4"],
      .apply .delete ["sda:2"], .apply .logical ["vg::20%:xfs"], .initializeGroups]
    t.group? "vg" = none ∧
      t.initializeGroups.state.group? "vg" = some ⟨"vg", 1000, 512, ["/dev/sda"], [], []⟩ ∧
      (Text.fields ':' "vg:lv2:10%:xfs").head? = some "vg" ∧
      ((applyToken .logical "vg:lv2:10%:xfs" (t.initializeGroups.state.after calls)).answer =
        .error (.ofDisk (.duplicateLogicalVolume "vg" "lv2"))) ∧
      (Failure.ofDisk (.duplicateLogicalVolume "vg" "lv2")).name ≠ "SectorOverlaps" ∧
      ∃ g', (t.initializeGroups.state.after calls).group? "vg" = some g' ∧ g'.IsStacked ∧
        g'.partitions.map (fun p => (p.path, p.number, p.first, p.last)) =
          [("/dev/mapper/vg-root", 1, 0, 500), ("/dev/mapper/vg-lv2", 2, 501, 701)] := by
  intro t calls
  have hnew : t.group? "vg" = none := by decide +kernel
  have hg : t.initializeGroups.state.group? "vg" =
      some ⟨"vg", 1000, 512, ["/dev/sda"], [], []⟩ := by decide +kernel
  have hname : (Text.fields ':' "vg:lv2:10%:xfs").head? = some "vg" := by decide +kernel
  have hrefused : (applyToken .logical "vg:lv2:10%:xfs"
      (t.initializeGroups.state.after calls)).answer =
        .error (.ofDisk (.duplicateLogicalVolume "vg" "lv2")) := by decide +kernel
  have hvolumes : ((t.initializeGroups.state.after calls).group? "vg").map
      (fun g => g.partitions.map (fun p => (p.path, p.number, p.first, p.last))) =
        some [("/dev/mapper/vg-root", 1, 0, 500), ("/dev/mapper/vg-lv2", 2, 501, 701)] := by
    decide +kernel
  rcases after_isStacked hnew hg calls with ⟨g', hg', hstacked, _, hoverlap⟩
  rw [hg', Option.map_some, Option.some.injEq] at hvolumes
  exact ⟨hnew, hg, hname, hrefused, hoverlap _ _ hname hrefused, g', hg', hstacked, hvolumes⟩

end DiskPlan
