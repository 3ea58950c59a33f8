import DiskPlan.Proofs.Session
import Mathlib.Algebra.Ring.Int.Defs

/-!
# Logical Volumes

How much room the volumes of a group take.

A volume is asked for with a size, placed right behind the last one, and bounded by
the size of the group. The three places where this happens do not count alike. The
end of a volume is its start plus its size, as if it were the first sector behind
the volume; but it belongs to the volume, and the next one starts behind it. So a
volume takes one sector more than was asked for. The bound lets the end of a volume
be the size of the group, which is one more than its last sector. So the volumes
of a group can take one sector more than it has, and they do exactly if the last of
them ends on that bound.

## Main definitions

* `Topology.placedSize?`: The size that a token asks for, if it gets a volume.
* `placedSizes`: The sizes that a run of tokens asks for and gets.
* `VolumeGroup.IsFilled`: A group filled with volumes of given sizes.

## Theorems

* `group?_applyToken`: What a token does to a group.
* `VolumeGroup.IsFilled.place`: A volume is placed right behind the last one.
* `sectors_of_logicals`: The sectors of the volumes of a group.
* `overfull_ofThree`: A volume of the size of its group does not fit it.
-/

namespace DiskPlan

/-! ### Groups found by name -/

/-- A volume that is placed leaves the name of its group alone. -/
theorem NewVolume.run_name (v : NewVolume) (g : VolumeGroup) : (v.run g).state.name = g.name := by
  rcases v.run_changes g with hchange | hsame
  · generalize (v.run g).state = g' at hchange
    cases hchange with
    | place _ _ => rfl
  · rw [hsame]

/-- A group with one volume more is another one, so a token has placed a volume exactly if it has
    changed the group. -/
theorem VolumeGroup.concat_ne (g : VolumeGroup) (p : Partition) :
    ({ g with partitions := g.partitions ++ [p] } : VolumeGroup) ≠ g := by
  intro h
  have hlength := congrArg (fun g => g.partitions.length) h
  simp at hlength

namespace Topology

variable {t : Topology} {name : String} {g : VolumeGroup}

/-- A group stays the first of its name when volumes are placed, in it or elsewhere. -/
theorem group?_run_onGroup (hg : t.group? name = some g) (name' : String) (volume : NewVolume) :
    ((Operation.onGroup name' volume).run t).state.group? name =
      some (if name' = name then (volume.run g).state else g) := by
  cases hfound : t.group? name' with
  | none =>
      -- The group that is not found is not the one that is.
      have hother : name' ≠ name := by
        rintro rfl
        rw [hg] at hfound
        exact absurd hfound (by simp only [reduceCtorEq, not_false_eq_true])
      rw [(Operation.run_onGroup_of_none hfound volume).1, if_neg hother, hg]
  | some g' =>
      rcases find?_eq_some_iff_firstAt.mp hfound with ⟨before, after, hat⟩
      rw [(Operation.run_onGroup_of_firstAt hat volume).1]
      rw [group?_exchange hat (volume.run_name g')]
      -- The volume is placed in this group or in one of another name.
      by_cases hsame : name' = name
      · subst hsame
        obtain rfl : g = g' := Option.some.inj (hg.symm.trans hfound)
        rw [if_pos rfl, if_pos rfl]
      · rw [if_neg hsame, if_neg hsame, hg]

/-- The size that a token asks for, if a group gets a volume by it. The volume may fail to be
    told of, so it is the group that is looked at and not the answer. -/
def placedSize? (t : Topology) (name token : String) : Option Int :=
  match (Operation.read .logical token).operation with
  | .ok (.onGroup _ volume) =>
    if (applyToken .logical token t).state.group? name = t.group? name then none
    else (t.group? name).bind fun g => (g.resolve? volume.size).toOption
  | _ => none

/-- A token that leaves the group alone asks for no size. -/
theorem placedSize?_of_same {token : String}
    (h : (applyToken .logical token t).state.group? name = t.group? name) :
    t.placedSize? name token = none := by
  unfold placedSize?
  split
  · exact if_pos h
  · rfl

/-- A token leaves a group alone, or it places the volume that it asks for. -/
theorem group?_applyToken (hg : t.group? name = some g) (token : String) :
    ((applyToken .logical token t).state.group? name = some g ∧ t.placedSize? name token = none) ∨
      ∃ volume size p, (Operation.read .logical token).operation = .ok (.onGroup name volume) ∧
        t.placedSize? name token = some size ∧
        g.place (NewVolume.request volume (NewVolume.firstSector g)
          (NewVolume.firstSector g + size)) = .ok p ∧
        (applyToken .logical token t).state.group? name =
          some { g with partitions := g.partitions ++ [p] } := by
  -- Without a change of the group there is no size either.
  have hleft (h : (applyToken .logical token t).state.group? name = some g) :
      (applyToken .logical token t).state.group? name = some g ∧
        t.placedSize? name token = none :=
    ⟨h, placedSize?_of_same (h.trans hg.symm)⟩
  cases hread : (Operation.read .logical token).operation with
  | error f => exact Or.inl (hleft (by rw [applyToken_state_of_error hread, hg]))
  | ok op =>
      have hasked := Operation.asked_of_read hread
      cases hasked with
      | logical group volume =>
          have hafter : (applyToken .logical token t).state.group? name =
              some (if group = name then (volume.run g).state else g) := by
            rw [applyToken_state_of_ok hread, group?_run_onGroup hg]
          by_cases hsame : group = name
          · subst hsame
            rw [if_pos rfl] at hafter
            -- A volume that is placed is there whether or not it can be told of.
            rcases volume.run_cases g with ⟨size, p, hsize, hplace⟩ | ⟨_, hstays⟩
            · rw [(NewVolume.run_of_placed hsize hplace).1] at hafter
              refine Or.inr ⟨volume, size, p, rfl, ?_, hplace, hafter⟩
              unfold placedSize?
              rw [hread]
              dsimp only
              rw [hafter, hg, if_neg (fun h => g.concat_ne p (Option.some.inj h)),
                Option.bind_some, hsize]
              rfl
            · rw [hstays] at hafter
              exact Or.inl (hleft hafter)
          · rw [if_neg hsame] at hafter
            exact Or.inl (hleft hafter)

end Topology

/-! ### Filled groups -/

/-- A group filled with volumes of given sizes, each of which takes one sector more.
    The next volume comes behind the sectors taken, and the last one ends at the size
    of the group at the latest. -/
structure VolumeGroup.IsFilled (g : VolumeGroup) (sizes : List Int) : Prop where
  sectors : g.partitions.map Partition.sectors = sizes.map (· + 1)
  total : (g.partitions.map Partition.sectors).sum = NewVolume.firstSector g
  bound : ∀ last ∈ g.lastSector?, last ≤ g.sectors

variable {g : VolumeGroup} {sizes : List Int}

/-- A group without volumes is filled with none. -/
theorem VolumeGroup.isFilled_nil (h : g.partitions = []) : g.IsFilled [] := by
  have hlast : g.lastSector? = none := by rw [lastSector?, h]; rfl
  refine ⟨by rw [h]; rfl, ?_, fun last h => ?_⟩
  · rw [h, NewVolume.firstSector, hlast]
    rfl
  · rw [hlast] at h
    exact absurd h (Option.not_mem_none last)

/-- A volume that is placed fills its group further. It is measured by the sector behind the last
    volume, which is also the sum of what the volumes take. -/
theorem VolumeGroup.IsFilled.place {volume : NewVolume} {size : Int} {p : Partition}
    (h : g.IsFilled sizes)
    (hplace : g.place (volume.request (NewVolume.firstSector g)
      (NewVolume.firstSector g + size)) = .ok p) :
    ({ g with partitions := g.partitions ++ [p] } : VolumeGroup).IsFilled (sizes ++ [size]) := by
  rcases place_eq_ok hplace with ⟨⟨_, hbound⟩, _, _, hp⟩
  have hfirst : p.first = NewVolume.firstSector g := by rw [hp]; rfl
  have hlast : p.last = NewVolume.firstSector g + size := by rw [hp]; rfl
  -- The end is counted in, though it was meant as the first sector behind.
  have hsectors : p.sectors = size + 1 := by
    unfold Partition.sectors
    omega
  have hend : ({ g with partitions := g.partitions ++ [p] } : VolumeGroup).lastSector? =
      some p.last := by
    rw [lastSector?, List.getLast?_concat]
    rfl
  have hnext : NewVolume.firstSector { g with partitions := g.partitions ++ [p] } = p.last + 1 := by
    rw [NewVolume.firstSector, hend]
  refine ⟨?_, ?_, fun last h => ?_⟩
  · rw [List.map_append, List.map_append, h.sectors, List.map_singleton, hsectors]
    rfl
  · rw [hnext, List.map_append, List.sum_append, h.total, List.map_singleton, List.sum_singleton]
    omega
  · rw [hend, Option.mem_some_iff] at h
    rw [← h, hlast]
    exact hbound

/-- The sizes that a run of tokens asks for in a group and gets volumes of. -/
def placedSizes (name : String) : List String → Topology → List Int
  | [], _ => []
  | token :: rest, t =>
    (t.placedSize? name token).toList ++ placedSizes name rest (applyToken .logical token t).state

/-- A run of tokens fills a group with volumes of the sizes that it gets. -/
theorem afterTokens_isFilled {name : String} (tokens : List String) {t : Topology}
    (hg : t.group? name = some g) (h : g.IsFilled sizes) :
    ∃ g', (t.afterTokens (tokens.map fun token => (.logical, token))).group? name = some g' ∧
      g'.sectors = g.sectors ∧ g'.IsFilled (sizes ++ placedSizes name tokens t) := by
  -- Each token leaves the group as it is or places one volume, and the others go on from there.
  induction tokens generalizing t g sizes with
  | nil =>
      refine ⟨g, hg, rfl, ?_⟩
      rw [placedSizes, List.append_nil]
      exact h
  | cons token rest ih =>
      rw [placedSizes, ← List.append_assoc]
      rcases Topology.group?_applyToken hg token with
        ⟨hg', hnone⟩ | ⟨volume, size, p, _, hsome, hplace, hg'⟩
      · rw [hnone]
        refine ih hg' ?_
        rw [Option.toList_none, List.append_nil]
        exact h
      · rw [hsome]
        have hrest := ih hg' (h.place hplace)
        exact hrest

/-- A group that was not known before is one of those that were missing. -/
theorem mem_missingGroups_of_initializeGroups {t : Topology} {name : String}
    (hnew : t.group? name = none) (hg : t.initializeGroups.state.group? name = some g) :
    g ∈ t.missingGroups := by
  rcases Topology.addGroups_state t.missingGroups t with ⟨added, hadded, hstate, _⟩
  unfold Topology.initializeGroups Topology.group? at hg
  unfold Topology.group? at hnew
  -- The group was not among those that were there, so it is one of those that were added.
  rw [hstate, List.find?_append, hnew, Option.none_or] at hg
  exact hadded.subset (List.mem_of_find?_eq_some hg)

/-- It is made of its members, with a name that some partition gives. -/
theorem ofMembers_of_initializeGroups {t : Topology} {name : String} (hnew : t.group? name = none)
    (hg : t.initializeGroups.state.group? name = some g) :
    ∃ name' members, g = .ofMembers name' members := by
  have hmissing := mem_missingGroups_of_initializeGroups hnew hg
  unfold Topology.missingGroups at hmissing
  rcases List.mem_map.mp hmissing with ⟨⟨name', members⟩, _, rfl⟩
  exact ⟨name', members, rfl⟩

/-- A group that was just made has no volumes. -/
theorem partitions_of_initializeGroups {t : Topology} {name : String} (hnew : t.group? name = none)
    (hg : t.initializeGroups.state.group? name = some g) : g.partitions = [] := by
  rcases ofMembers_of_initializeGroups hnew hg with ⟨_, _, rfl⟩
  rfl

/-- In a group that is made of its members and then filled by a run of tokens, every
    volume takes one sector more than its size. All of them take one more than the
    last sector taken, which is at most the size of the group, so they take more than
    the group has exactly if that sector is its size. -/
theorem sectors_of_logicals {t : Topology} {name : String} (hnew : t.group? name = none)
    (hg : t.initializeGroups.state.group? name = some g) (tokens : List String) :
    ∃ g', (t.initializeGroups.state.afterTokens
          (tokens.map fun token => (.logical, token))).group? name = some g' ∧
      g'.sectors = g.sectors ∧
      g'.partitions.map Partition.sectors =
        (placedSizes name tokens t.initializeGroups.state).map (· + 1) ∧
      ∀ last ∈ g'.lastSector?, (g'.partitions.map Partition.sectors).sum = last + 1 ∧
        last ≤ g.sectors ∧
        (g.sectors < (g'.partitions.map Partition.sectors).sum ↔ last = g.sectors) := by
  have hempty := VolumeGroup.isFilled_nil (partitions_of_initializeGroups hnew hg)
  rcases afterTokens_isFilled tokens hg hempty with ⟨g', hg', hsectors, hfilled⟩
  refine ⟨g', hg', hsectors, hfilled.sectors, fun last hlast => ?_⟩
  have htotal : (g'.partitions.map Partition.sectors).sum = last + 1 := by
    -- There is a last sector, so the next volume starts behind it.
    rw [hfilled.total, NewVolume.firstSector, Option.mem_def.mp hlast]
  have hbound := hfilled.bound last hlast
  rw [hsectors] at hbound
  refine ⟨htotal, hbound, ?_⟩
  rw [htotal]
  omega

/-- A group of 1000 sectors. Of three tokens the second is refused, since its name is
    taken, and the volumes of the two others take one sector more than half and than
    three tenths. -/
theorem sectors_of_logicals_ofThree :
    let t : Topology := (⟨[.ofThree], []⟩ : Topology).afterTokens [(.reuse, "sda:1:lvm=vg")]
    let tokens := ["vg:root:50%:ext4", "vg:root:10%:ext4", "vg:home:30%:xfs"]
    t.group? "vg" = none ∧
      t.initializeGroups.state.group? "vg" = some ⟨"vg", 1000, 512, ["/dev/sda"], [], []⟩ ∧
      ∃ g', (t.initializeGroups.state.afterTokens
            (tokens.map fun token => (.logical, token))).group? "vg" = some g' ∧
        g'.partitions.map Partition.sectors = [501, 301] := by
  intro t tokens
  have hnew : t.group? "vg" = none := by decide +kernel
  have hg : t.initializeGroups.state.group? "vg" =
      some ⟨"vg", 1000, 512, ["/dev/sda"], [], []⟩ := by decide +kernel
  have hsizes : placedSizes "vg" tokens t.initializeGroups.state = [500, 300] := by decide +kernel
  rcases sectors_of_logicals hnew hg tokens with ⟨g', hg', _, hsectors, _⟩
  rw [hsizes] at hsectors
  exact ⟨hnew, hg, g', hg', hsectors⟩

/-- A group of 1000 sectors takes a volume of all of them, which then has 1001. -/
theorem overfull_ofThree :
    let t : Topology := (⟨[.ofThree], []⟩ : Topology).afterTokens [(.reuse, "sda:1:lvm=vg")]
    let t' := t.initializeGroups.state.afterTokens [(.logical, "vg:root:end:ext4")]
    t.initializeGroups.answer = .ok () ∧
      placedSizes "vg" ["vg:root:end:ext4"] t.initializeGroups.state = [1000] ∧
      (t'.group? "vg").map (fun g => (g.sectors, g.partitions.map Partition.sectors)) =
        some (1000, [1001]) := by
  decide +kernel

end DiskPlan
