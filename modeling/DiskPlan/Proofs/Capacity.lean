import DiskPlan.Proofs.Resolution
import DiskPlan.Proofs.Stacking

/-!
# Capacity of a Volume Group

When a list of volumes has room in a group.

Volumes that are asked for as shares of a group, no more than all of it, never ask for
more sectors than the group has: a share is rounded down. They need not all be placed
even so. A volume takes one sector more than it asks for, and the end of a volume may
be the size of the group, so the first volume has its extra sector for free and each
of the others needs one that nobody asked for. The sizes and those extra sectors
together decide, and hardly anything else does: a name that is free stays free until it is
used, and an overlap never occurs. There is only the log, which cannot tell of a volume
whose last sector is beyond the limit on numerals. A group that is as large as that could
not be told of itself, so this takes one whose making has failed.

## Main definitions

* `VolumeGroup.sizeOf`: The sectors that a position stands for in a group.
* `VolumeGroup.CanEndAt`: A sector that a volume of a group can end at.
* `VolumeGroup.Awaits`: A group in which some volumes are to be placed.
* `VolumeGroup.topped`: The group with one volume more.
* `AsksFor`: What a token asks for.

## Theorems

* `VolumeGroup.Awaits.run`: A volume is placed exactly if it can end where it is to end.
* `applyTokens_eq_ok_iff`: A list of volumes is placed exactly if all of it has room.
* `hundred_mul_sum_le`: Shares never ask for more than there is.
* `applyTokens_shares`: When shares of a group are placed.
* `overfull_halves_ofThree`: Two halves of a group are not.
-/

namespace DiskPlan

namespace VolumeGroup

variable {g : VolumeGroup}

/-- The sectors that a position stands for in a group. Nothing of a group is reserved, and there
    is no division that could fail as long as its sectors have a size. -/
def sizeOf (g : VolumeGroup) (p : Position) : Int :=
  p.resolve g.sectors g.sectorSize 0

theorem resolve?_eq (hsize : g.sectorSize ≠ 0) (p : Position) :
    g.resolve? p = .ok (g.sizeOf p) :=
  Position.resolve?_eq hsize g.sectors 0 p

theorem chosenName_of_ne_empty {name : String} (h : name ≠ "") :
    g.chosenName (some name) = name := by
  have hkept : (some name).filter (· != "") = some name := by
    rw [Option.filter_some, if_pos (bne_iff_ne.mpr h)]
  unfold chosenName
  rw [hkept]

end VolumeGroup

theorem Label.ofString_injective : Function.Injective Label.ofString := by
  intro s s' h
  have htext := congrArg Label.text? h
  rw [text?_ofString, text?_ofString] at htext
  exact Option.some.inj htext

/-! ### One volume -/

/-- The partition that a volume becomes: it begins behind the last volume of the group, and its
    last sector is as many sectors further on as were asked for. -/
def NewVolume.placed (v : NewVolume) (g : VolumeGroup) : Partition :=
  (v.request (firstSector g) (firstSector g + g.sizeOf v.size)).build (g.volumePath v.name)
    g.nextNumber

/-- A group with a volume on top of the others. -/
def VolumeGroup.topped (g : VolumeGroup) (v : NewVolume) : VolumeGroup :=
  { g with partitions := g.partitions ++ [v.placed g] }

/-- A sector that a volume of a group can end at: it is in the group, and it can be written for
    the log to tell of the volume. The second part only matters to groups of more than 4300
    digits of sectors. -/
def VolumeGroup.CanEndAt (g : VolumeGroup) (last : Int) : Prop :=
  last ≤ g.sectors ∧ Decimal.isWritable last = true

/-- A volume may end earlier. -/
theorem VolumeGroup.CanEndAt.mono {g : VolumeGroup} {first last : Int} (h : g.CanEndAt last)
    (hnonneg : 0 ≤ first) (hle : first ≤ last) : g.CanEndAt first :=
  ⟨Int.le_trans hle h.1,
    Decimal.isWritable_of_le_of_le Decimal.isWritable_zero h.2 hnonneg hle⟩

/-- If the size of a group can be written, it does not matter that a volume is told of: a sector
    of the group is not longer than its size. -/
theorem VolumeGroup.canEndAt_iff {g : VolumeGroup} {last : Int}
    (hsectors : Decimal.isWritable g.sectors = true) (hnonneg : 0 ≤ last) :
    g.CanEndAt last ↔ last ≤ g.sectors :=
  and_iff_left_of_imp fun hle =>
    Decimal.isWritable_of_le_of_le Decimal.isWritable_zero hsectors hnonneg hle

/-- A group in which some volumes are to be placed: each of them takes up room and has a name,
    which no other has. Under these conditions the only reason to refuse one of them is the lack
    of room. -/
structure VolumeGroup.Awaits (g : VolumeGroup) (volumes : List NewVolume) : Prop where
  stacked : g.IsStacked
  sectorSize : g.sectorSize ≠ 0
  distinct : (volumes.map NewVolume.name).Nodup
  named : ∀ v ∈ volumes, v.name ≠ ""
  free : ∀ v ∈ volumes, g.volume? v.name = none
  sized : ∀ v ∈ volumes, 0 < g.sizeOf v.size

variable {g : VolumeGroup} {v : NewVolume} {volumes : List NewVolume}

/-- A volume whose end is in the group passes all checks. Its name is free and its range begins
    behind all others, so bounds are all there is to ask about. -/
theorem VolumeGroup.Awaits.place (h : g.Awaits (v :: volumes))
    (hfits : NewVolume.firstSector g + g.sizeOf v.size ≤ g.sectors) :
    g.place (v.request (NewVolume.firstSector g)
      (NewVolume.firstSector g + g.sizeOf v.size)) = .ok (v.placed g) := by
  have hsize := h.sized v List.mem_cons_self
  have hbounds : g.checkBounds (NewVolume.firstSector g)
      (NewVolume.firstSector g + g.sizeOf v.size) = .ok () := by
    unfold checkBounds
    rw [if_neg (by omega), if_neg (by omega)]
  have hname : g.checkName v.name = .ok () := by
    unfold checkName
    rw [h.free v List.mem_cons_self]
    rfl
  unfold VolumeGroup.place
  refine bind_eq_ok_iff.mpr ⟨(), hbounds, ?_⟩
  -- The name that is looked up is the one that was given, since it is not empty.
  dsimp only [NewVolume.request]
  rw [chosenName_of_ne_empty (h.named v List.mem_cons_self)]
  refine bind_eq_ok_iff.mpr ⟨(), hname, ?_⟩
  exact bind_eq_ok_iff.mpr ⟨(), h.stacked.checkOverlap _, rfl⟩

/-- The first of the volumes is placed exactly if it can end where it is to end. Whether it fits
    settles if it is placed, and whether its end can be written settles if this is a success. -/
theorem VolumeGroup.Awaits.run (h : g.Awaits (v :: volumes)) :
    ((v.run g).answer = .ok () ↔ g.CanEndAt (NewVolume.firstSector g + g.sizeOf v.size)) ∧
      ((v.run g).answer = .ok () → (v.run g).state = g.topped v) := by
  have hresolve := resolve?_eq h.sectorSize v.size
  by_cases hfits : NewVolume.firstSector g + g.sizeOf v.size ≤ g.sectors
  · rcases NewVolume.run_of_placed hresolve (h.place hfits) with ⟨hstate, hanswer⟩
    refine ⟨?_, fun _ => hstate⟩
    have hfirst := h.stacked.firstSector_nonneg
    have hsize := h.sized v List.mem_cons_self
    -- It is placed, so what is left is that it can be told of.
    have htold : (v.addedEvent g (v.placed g)).isWritable = true ↔
        g.CanEndAt (NewVolume.firstSector g + g.sizeOf v.size) := by
      refine Event.isWritable_volumeAdded_iff.trans ⟨fun h => ⟨hfits, h.2⟩, fun h => ⟨?_, h.2⟩⟩
      exact (h.mono hfirst (show NewVolume.firstSector g ≤ _ by omega)).2
    rw [hanswer, ← htold]
    split
    · rename_i hwritten
      exact iff_of_true rfl hwritten
    · rename_i huntold
      exact iff_of_false (by simp only [reduceCtorEq, not_false_eq_true]) huntold
  · -- A volume that succeeds has been placed, and one that is placed ends within the group.
    have hrefused : (v.run g).answer ≠ .ok () := by
      intro hok
      have hchange := NewVolume.change_of_ok hok
      generalize (v.run g).state = g' at hchange
      cases hchange with
      | place hsize hplace =>
          obtain rfl := Except.ok.inj (hresolve.symm.trans hsize)
          exact hfits (place_eq_ok hplace).1.2
    exact ⟨iff_of_false hrefused fun h => hfits h.1, fun hok => absurd hok hrefused⟩

/-- The group with the first of the volumes awaits the others. Only the free names need an
    argument, as there is one name more that is taken. -/
theorem VolumeGroup.Awaits.topped (h : g.Awaits (v :: volumes))
    (hfits : NewVolume.firstSector g + g.sizeOf v.size ≤ g.sectors) :
    (g.topped v).Awaits volumes := by
  have hdistinct := h.distinct
  rw [List.map_cons, List.nodup_cons] at hdistinct
  refine ⟨h.stacked.place (h.place hfits), h.sectorSize, hdistinct.2,
    fun w hw => h.named w (List.mem_cons_of_mem _ hw), fun w hw => ?_,
    fun w hw => h.sized w (List.mem_cons_of_mem _ hw)⟩
  -- A name that is free stays free when another one is used.
  have hother : w.name ≠ v.name := by
    intro hsame
    exact hdistinct.1 (hsame ▸ List.mem_map_of_mem hw)
  have hfree := volume?_eq_none_iff.mp (h.free w (List.mem_cons_of_mem _ hw))
  refine volume?_eq_none_iff.mpr fun hmem => ?_
  unfold VolumeGroup.topped at hmem
  rw [List.map_append, List.mem_append, List.map_singleton, List.mem_singleton] at hmem
  rcases hmem with hmem | hmem
  · exact hfree hmem
  · exact hother (Label.ofString_injective (Option.some.inj hmem))

/-- The volume takes a sector more than it asked for: its last sector is as far from the first as
    the size that was asked for. This is the sector that halves of a group lack. -/
theorem VolumeGroup.firstSector_topped (g : VolumeGroup) (v : NewVolume) :
    NewVolume.firstSector (g.topped v) = NewVolume.firstSector g + g.sizeOf v.size + 1 := by
  have hlast : (g.topped v).partitions.getLast? = some (v.placed g) := List.getLast?_concat
  rw [firstSector_of_getLast? hlast]
  rfl

theorem VolumeGroup.sectors_placed (g : VolumeGroup) (v : NewVolume) :
    (v.placed g).sectors = g.sizeOf v.size + 1 := by
  change NewVolume.firstSector g + g.sizeOf v.size - NewVolume.firstSector g + 1 = _
  omega

/-! ### Many volumes -/

/-- What a token asks for in a group. Volumes are spoken of by what is read from their tokens, so
    the grammar of tokens plays no part in what follows. -/
def AsksFor (name token : String) (v : NewVolume) : Prop :=
  (Operation.read .logical token).operation = .ok (.onGroup name v)

/-- A token for the first of the volumes places it, or fails. The group is found by its name
    before and after, so the next token works on the group with the volume in it. -/
theorem applyToken_of_awaits {t : Topology} {name token : String} (hasks : AsksFor name token v)
    (hfound : t.group? name = some g) (h : g.Awaits (v :: volumes)) :
    ((applyToken .logical token t).answer = .ok () ↔
        g.CanEndAt (NewVolume.firstSector g + g.sizeOf v.size)) ∧
      ((applyToken .logical token t).answer = .ok () →
        (applyToken .logical token t).state.group? name = some (g.topped v)) := by
  have hiff : (applyToken .logical token t).answer = .ok () ↔ (v.run g).answer = .ok () := by
    rcases find?_eq_some_iff_firstAt.mp hfound with ⟨before, after, hat⟩
    rw [applyToken_answer_of_ok hasks, (Operation.run_onGroup_of_firstAt hat v).2]
  refine ⟨hiff.trans h.run.1, fun hok => ?_⟩
  rw [applyToken_state_of_ok hasks, Topology.group?_run_onGroup hfound, if_pos rfl,
    h.run.2 (hiff.mp hok)]

/-- Sizes of one sector or more add up to as many sectors as there are sizes or more. -/
theorem length_le_sum {sizes : List Int} (h : ∀ size ∈ sizes, 0 < size) :
    (sizes.length : Int) ≤ sizes.sum := by
  induction sizes with
  | nil => exact Int.le_refl 0
  | cons size rest ih =>
      rw [List.forall_mem_cons] at h
      have hrest := ih h.2
      rw [List.length_cons, List.sum_cons]
      push_cast
      omega

/-- Sizes have room behind a sector, with one sector more for each of them but the last, exactly
    if the first has room and the others have room behind it. This is the step of the induction
    on volumes: the room for all of them is traded for the room for one and the room for the
    rest. -/
theorem VolumeGroup.canEndAt_cons_iff (g : VolumeGroup) {first size : Int} {sizes : List Int}
    (hfirst : 0 ≤ first) (hsize : 0 < size) (h : ∀ size ∈ sizes, 0 < size) :
    (g.CanEndAt (first + size) ∧
        (sizes = [] ∨ g.CanEndAt (first + size + 1 + sizes.sum + (sizes.length - 1)))) ↔
      g.CanEndAt (first + (size :: sizes).sum + ((size :: sizes).length - 1)) := by
  have hlength := length_le_sum h
  rw [List.sum_cons, List.length_cons]
  cases sizes with
  -- With one size only, the end is that of the first volume.
  | nil =>
      have hend : first + (size + List.sum []) +
          (((List.length ([] : List Int) + 1 : Nat) : Int) - 1) = first + size := by
        simp
      rw [hend]
      simp only [true_or, and_true]
  | cons size' rest =>
      have hend : first + (size + (size' :: rest).sum) +
            ((((size' :: rest).length + 1 : Nat) : Int) - 1) =
          first + size + 1 + (size' :: rest).sum + ((size' :: rest).length - 1) := by
        push_cast
        omega
      rw [hend]
      simp only [reduceCtorEq, false_or]
      -- The end of the last one is behind that of the first.
      refine and_iff_right_of_imp fun hlast => hlast.mono (by omega) ?_
      rw [List.length_cons] at hlength ⊢
      push_cast at hlength ⊢
      omega

/-- Volumes are placed exactly if their sizes, and one sector more for each of them but the last,
    have room behind the last volume of the group. If they are, they come in their order, and
    each takes one sector more than its size. The induction is on the tokens, and the group that
    awaits the rest is the one that the first token has left. -/
theorem applyTokens_eq_ok_iff {t : Topology} {name : String} {tokens : List String}
    (hasks : List.Forall₂ (AsksFor name) tokens volumes) (hfound : t.group? name = some g)
    (h : g.Awaits volumes) :
    ((applyTokens .logical tokens t).answer = .ok () ↔
      volumes = [] ∨ g.CanEndAt (NewVolume.firstSector g
        + (volumes.map fun v => g.sizeOf v.size).sum + (volumes.length - 1))) ∧
    ((applyTokens .logical tokens t).answer = .ok () →
      ∃ g', (applyTokens .logical tokens t).state.group? name = some g' ∧
        g'.partitions.map (fun p => (p.name, p.sectors)) =
          g.partitions.map (fun p => (p.name, p.sectors)) ++
            volumes.map fun v => (some (.ofString v.name), g.sizeOf v.size + 1)) := by
  induction hasks generalizing t g with
  | nil =>
      refine ⟨⟨fun _ => Or.inl rfl, fun _ => rfl⟩, fun _ => ⟨g, hfound, ?_⟩⟩
      rw [List.map_nil, List.append_nil]
  | @cons token v tokens volumes hasks _ ih =>
      have hsizes : ∀ size ∈ volumes.map fun v => g.sizeOf v.size, 0 < size := by
        intro size hmem
        rcases List.mem_map.mp hmem with ⟨w, hw, rfl⟩
        exact h.sized w (List.mem_cons_of_mem _ hw)
      have hroom := g.canEndAt_cons_iff h.stacked.firstSector_nonneg
        (h.sized v List.mem_cons_self) hsizes
      rw [List.map_eq_nil_iff, List.length_cons, List.length_map] at hroom
      rcases applyToken_of_awaits hasks hfound h with ⟨hfirst, hstate⟩
      rw [applyTokens, Outcome.andThen_unit_eq_ok_iff]
      refine ⟨?_, fun hall => ?_⟩
      · -- The condition is split as the run is: the first volume, and the others in the group with
        -- it.
        rw [List.map_cons, List.length_cons, ← hroom, hfirst]
        simp only [reduceCtorEq, false_or]
        refine and_congr_right fun hend => ?_
        rw [(ih (hstate (hfirst.mpr hend)) (h.topped hend.1)).1, VolumeGroup.firstSector_topped]
        rfl
      · -- All tokens succeed, so the first does and the others are placed behind its volume.
        rcases hall with ⟨hok, hrest⟩
        rw [Outcome.andThen_state_of_ok hok]
        rcases (ih (hstate hok) (h.topped (hfirst.mp hok).1)).2 hrest with ⟨g', hg', hvolumes⟩
        refine ⟨g', hg', ?_⟩
        unfold VolumeGroup.topped at hvolumes
        rw [hvolumes, List.map_append, List.append_assoc, List.map_singleton, List.map_cons,
          List.singleton_append, VolumeGroup.sectors_placed]
        rfl

/-! ### Shares -/

/-- A share of a device is rounded down, so it is not more than the share. Nothing and everything
    are positions of their own and are looked at first. -/
theorem hundred_mul_percent_le {sectors sectorSize : Int} (hsectors : 0 ≤ sectors)
    (hsectorSize : 0 < sectorSize) (n : Nat) :
    100 * (Position.percent n).resolve sectors sectorSize 0 ≤ sectors * n := by
  by_cases hzero : n = 0
  · rw [hzero]
    simp [Position.resolve]
  · by_cases hall : n = 100
    · subst hall
      have hlimit : Position.limit sectors 0 = sectors := by
        unfold Position.limit
        omega
      change 100 * Position.limit sectors 0 ≤ _
      rw [hlimit]
      omega
    · have hshare := Position.share_le hsectorSize sectors n
      have hwhole : 0 ≤ sectors * n / 100 :=
        Int.ediv_nonneg (Int.mul_nonneg hsectors (Int.natCast_nonneg n)) (by decide)
      -- Without reserved sectors nothing is moved to a later place.
      have hclamp : (Position.percent n).resolve sectors sectorSize 0 ≤ sectors * n / 100 := by
        rw [Position.resolve_percent hzero hall]
        unfold Position.clamp
        omega
      omega

/-- Shares of a device never add up to more sectors than their sum is a share of. Each of them is
    rounded down by itself, so no argument about carries is needed. -/
theorem hundred_mul_sum_le {sectors sectorSize : Int} (hsectors : 0 ≤ sectors)
    (hsectorSize : 0 < sectorSize) (shares : List Nat) :
    100 * (shares.map fun n => (Position.percent n).resolve sectors sectorSize 0).sum ≤
      sectors * shares.sum := by
  induction shares with
  | nil => simp
  | cons n rest ih =>
      have hfirst := hundred_mul_percent_le hsectors hsectorSize n
      rw [List.map_cons, List.sum_cons, List.sum_cons, Int.mul_add, Int.natCast_add, Int.mul_add]
      exact Int.add_le_add hfirst ih

/-- Volumes that are asked for as shares of a group, each of them of a sector or more
    and all of them of the group at most, never ask for more sectors than it has. They
    are placed exactly if the group has room for one sector more for each of them but
    the last, and if the last sector of all can be written for the log, as it can in a group
    that was made without failure. If they are, they come in their order, and each takes a
    sector more than it asked for. -/
theorem applyTokens_shares {t : Topology} {name : String} (hnew : t.group? name = none)
    (hg : t.initializeGroups.state.group? name = some g) {tokens : List String}
    (hasks : List.Forall₂ (AsksFor name) tokens volumes) {shares : List Nat}
    (hshares : volumes.map NewVolume.size = shares.map .percent) (htotal : shares.sum ≤ 100)
    (hdistinct : (volumes.map NewVolume.name).Nodup) (hnamed : ∀ v ∈ volumes, v.name ≠ "")
    (hsized : ∀ v ∈ volumes, 0 < g.sizeOf v.size) :
    (0 ≤ g.sectors → (volumes.map fun v => g.sizeOf v.size).sum ≤ g.sectors) ∧
    ((applyTokens .logical tokens t.initializeGroups.state).answer = .ok () ↔
      volumes = [] ∨
        g.CanEndAt ((volumes.map fun v => g.sizeOf v.size).sum + (volumes.length - 1))) ∧
    (t.initializeGroups.answer = .ok () →
      ((applyTokens .logical tokens t.initializeGroups.state).answer = .ok () ↔
        volumes = [] ∨
          (volumes.map fun v => g.sizeOf v.size).sum + (volumes.length - 1) ≤ g.sectors)) ∧
    ((applyTokens .logical tokens t.initializeGroups.state).answer = .ok () →
      ∃ g', (applyTokens .logical tokens t.initializeGroups.state).state.group? name = some g' ∧
        g'.partitions.map (fun p => (p.name, p.sectors)) =
          volumes.map fun v => (some (.ofString v.name), g.sizeOf v.size + 1)) := by
  rcases ofMembers_of_initializeGroups hnew hg with ⟨name', members, hmembers⟩
  have hempty : g.partitions = [] := by rw [hmembers]; rfl
  have hsectorSize : g.sectorSize = 512 := by rw [hmembers]; rfl
  have hawaits : g.Awaits volumes := by
    refine ⟨VolumeGroup.isStacked_nil hempty, by rw [hsectorSize]; decide, hdistinct, hnamed,
      fun v _ => ?_, hsized⟩
    rw [VolumeGroup.volume?_eq_none_iff, hempty]
    exact List.not_mem_nil
  have hplaced := applyTokens_eq_ok_iff hasks hg hawaits
  rw [VolumeGroup.firstSector_of_nil hempty, Int.zero_add, hempty, List.map_nil,
    List.nil_append] at hplaced
  refine ⟨fun hsectors => ?_, hplaced.1, fun hmade => ?_, hplaced.2⟩
  · -- The sizes are the shares of the group, and together they are at most a hundred percent.
    have hsizes : (volumes.map fun v => g.sizeOf v.size) =
        shares.map fun n => (Position.percent n).resolve g.sectors g.sectorSize 0 := by
      have hmap := congrArg (List.map g.sizeOf) hshares
      rw [List.map_map, List.map_map] at hmap
      exact hmap
    have hpositive : 0 < g.sectorSize := by rw [hsectorSize]; decide
    have hsum := hundred_mul_sum_le hsectors hpositive shares
    rw [← hsizes] at hsum
    have hhundred : g.sectors * shares.sum ≤ g.sectors * 100 :=
      Int.mul_le_mul_of_nonneg_left (by exact_mod_cast htotal) hsectors
    omega
  · rw [hplaced.1]
    -- The group has been told of, so its size can be written.
    have hwritten := Topology.isWritable_of_addGroups hmade g
      (mem_missingGroups_of_initializeGroups hnew hg)
    refine or_congr_right' fun hvolumes => VolumeGroup.canEndAt_iff hwritten ?_
    have hlength := length_le_sum (List.forall_mem_map.mpr hsized)
    rw [List.length_map] at hlength
    have hpos := List.length_pos_iff.mpr hvolumes
    omega

/-- Three shares of a group of 1000 sectors that leave two sectors over, one for each of
    them but the last. -/
theorem applyTokens_shares_ofThree :
    let t : Topology := (⟨[.ofThree], []⟩ : Topology).afterTokens [(.reuse, "sda:1:lvm=vg")]
    let g : VolumeGroup := ⟨"vg", 1000, 512, ["/dev/sda"], [], []⟩
    let volumes : List NewVolume := [⟨"root", .percent 50, .ext4, some (.parse "/"), none⟩,
      ⟨"home", .percent 30, .xfs, none, none⟩, ⟨"swap", .percent 19, .swap, none, some [.swap]⟩]
    let tokens := ["vg:root:50%:ext4:mount=/", "vg:home:30%:xfs", "vg:swap:19%:swap:flags=swap"]
    t.group? "vg" = none ∧ t.initializeGroups.state.group? "vg" = some g ∧
      List.Forall₂ (AsksFor "vg") tokens volumes ∧
      (volumes.map fun v => g.sizeOf v.size) = [500, 300, 190] ∧
      (applyTokens .logical tokens t.initializeGroups.state).answer = .ok () := by
  intro t g volumes tokens
  have hnew : t.group? "vg" = none := by decide +kernel
  have hg : t.initializeGroups.state.group? "vg" = some g := by decide +kernel
  have hasks : List.Forall₂ (AsksFor "vg") tokens volumes := by
    refine .cons ?_ (.cons ?_ (.cons ?_ .nil))
    all_goals
      unfold AsksFor
      decide +kernel
  have hsizes : (volumes.map fun v => g.sizeOf v.size) = [500, 300, 190] := by decide +kernel
  have hshares : volumes.map NewVolume.size = [50, 30, 19].map .percent := rfl
  have hsized : ∀ v ∈ volumes, 0 < g.sizeOf v.size := by decide +kernel
  refine ⟨hnew, hg, hasks, hsizes, ?_⟩
  refine (applyTokens_shares hnew hg hasks hshares (by decide) (by decide) (by decide)
    hsized).2.2.1 (by decide +kernel) |>.mpr (Or.inr ?_)
  rw [hsizes]
  decide

/-- Two halves of a group of 1000 sectors: each of them is of 500 sectors and under a name
    of its own, and the second is refused since it would end behind the group. -/
theorem overfull_halves_ofThree :
    let t : Topology := (⟨[.ofThree], []⟩ : Topology).afterTokens [(.reuse, "sda:1:lvm=vg")]
    let g : VolumeGroup := ⟨"vg", 1000, 512, ["/dev/sda"], [], []⟩
    let volumes : List NewVolume :=
      [⟨"root", .percent 50, .ext4, none, none⟩, ⟨"home", .percent 50, .ext4, none, none⟩]
    let tokens := ["vg:root:50%:ext4", "vg:home:50%:ext4"]
    t.group? "vg" = none ∧ t.initializeGroups.answer = .ok () ∧
      t.initializeGroups.state.group? "vg" = some g ∧
      List.Forall₂ (AsksFor "vg") tokens volumes ∧
      (volumes.map fun v => g.sizeOf v.size) = [500, 500] ∧
      (applyTokens .logical tokens t.initializeGroups.state).answer =
        .error (.ofDisk (.partitionOutOfBounds "/dev/mapper/vg" 501 1001 1000)) := by
  intro t g volumes tokens
  refine ⟨by decide +kernel, by decide +kernel, by decide +kernel, ?_, by decide +kernel,
    by decide +kernel⟩
  refine .cons ?_ (.cons ?_ .nil)
  all_goals
    unfold AsksFor
    decide +kernel

end DiskPlan
