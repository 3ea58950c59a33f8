import DiskPlan.Proofs.Capacity
import DiskPlan.Proofs.PlannedDisks
import DiskPlan.Proofs.VolumeGroups

/-!
# Paths of Volumes

When two logical volumes have the same path.

The path of a volume is made of two names, that of its group and its own, with a hyphen
between them. Both names are free texts and can have hyphens of their own, so a path
can be cut in more than one place. Within a group nothing comes of it: the names of its
volumes are all different, and so are the paths. Across groups two paths are the same
exactly if the name of one group goes on where the other ends, over a hyphen, and takes
the beginning of the other volume's name with it. Nothing in a plan stands against that.
It needs a group with a hyphen in its name, and without one all paths are different.

That a group knows its volumes by their names, and that there is one group of a name,
holds after every session, and a plan is a session.

## Main definitions

* `Topology.volumePaths`: The paths of all logical volumes.
* `VolumeGroup.Clashes`: Two groups with volumes of the same path.

## Theorems

* `append_separator_eq_iff`: Two ways to cut a list at a separator.
* `Topology.forall_groups_of_reaches`, `Topology.nodup_groups_of_reaches`: The groups
  after every session.
* `VolumeGroup.IsStacked.mem_paths_iff`: The paths in a group.
* `Topology.volumePaths_nodup_iff`: When all paths are different.
* `configure_groups`: The groups of a plan.
* `configure_volumePaths_nodup_iff`, `configure_volumePaths_nodup`: When all paths of a
  plan are different.
-/

namespace DiskPlan

open Relation

/-! ### Names in front of and behind a hyphen -/

/-- A list that is cut at a separator in two ways has them in one place, or there is one
    more between them. -/
theorem append_separator_eq_iff {α : Type} {s : α} {a b c d : List α} :
    a ++ s :: b = c ++ s :: d ↔ (a = c ∧ b = d) ∨
      (∃ between, c = a ++ s :: between ∧ b = between ++ s :: d) ∨
        ∃ between, a = c ++ s :: between ∧ d = between ++ s :: b := by
  constructor
  · intro h
    -- One of the two lists in front is the longer one. What it has more is nothing, or it
    -- begins with the separator at which the other one was cut.
    rcases List.append_eq_append_iff.mp h with ⟨x, hc, hb⟩ | ⟨x, ha, hd⟩
    · cases x with
      | nil => exact Or.inl ⟨by rw [hc, List.append_nil], (List.cons.inj hb).2⟩
      | cons y between =>
          rcases List.cons.inj hb with ⟨rfl, hrest⟩
          exact Or.inr (Or.inl ⟨between, hc, hrest⟩)
    · cases x with
      | nil => exact Or.inl ⟨by rw [ha, List.append_nil], (List.cons.inj hd).2.symm⟩
      | cons y between =>
          rcases List.cons.inj hd with ⟨rfl, hrest⟩
          exact Or.inr (Or.inr ⟨between, ha, hrest⟩)
  · rintro (⟨rfl, rfl⟩ | ⟨between, rfl, rfl⟩ | ⟨between, rfl, rfl⟩)
    · rfl
    · rw [List.append_assoc, List.cons_append]
    · rw [List.append_assoc, List.cons_append]

theorem toList_hyphenated (s s' : String) :
    (s ++ "-" ++ s').toList = s.toList ++ '-' :: s'.toList := by
  rw [String.toList_append, String.toList_append, List.append_assoc]
  rfl

theorem hyphenated_eq_iff {a b c d : String} :
    a ++ "-" ++ b = c ++ "-" ++ d ↔ (a = c ∧ b = d) ∨
      (∃ between, c = a ++ "-" ++ between ∧ b = between ++ "-" ++ d) ∨
        ∃ between, a = c ++ "-" ++ between ∧ d = between ++ "-" ++ b := by
  simp only [← String.toList_inj, toList_hyphenated, append_separator_eq_iff]
  -- Every list of characters is that of some text.
  have hexists : ∀ P : List Char → Prop, (∃ cs, P cs) ↔ ∃ s : String, P s.toList := fun P =>
    ⟨fun ⟨cs, hcs⟩ => ⟨String.ofList cs, by rwa [String.toList_ofList]⟩, fun ⟨s, hs⟩ => ⟨_, hs⟩⟩
  rw [hexists, hexists]

namespace VolumeGroup

variable {g g' : VolumeGroup}

theorem volumePath_eq_iff {volume volume' : String} :
    g.volumePath volume = g'.volumePath volume' ↔ (g.name = g'.name ∧ volume = volume') ∨
      (∃ between, g'.name = g.name ++ "-" ++ between ∧ volume = between ++ "-" ++ volume') ∨
        ∃ between, g.name = g'.name ++ "-" ++ between ∧ volume' = between ++ "-" ++ volume := by
  rw [← hyphenated_eq_iff]
  unfold volumePath mappedPath
  simp only [String.append_assoc, String.append_right_inj]

/-- Two groups have a volume each whose path is the same. The first name in it ends at one
    hyphen in one group, and at a later one in the other. -/
def Clashes (g g' : VolumeGroup) : Prop :=
  ∃ between volume, g'.name = g.name ++ "-" ++ between ∧
    (g.volume? (between ++ "-" ++ volume)).isSome = true ∧ (g'.volume? volume).isSome = true

/-- A clash takes a hyphen in the longer of the two names. -/
theorem Clashes.hyphen_mem (h : g.Clashes g') : '-' ∈ g'.name.toList := by
  rcases h with ⟨between, _, hname, _, _⟩
  rw [hname, toList_hyphenated]
  exact List.mem_append_right _ List.mem_cons_self

theorem Clashes.ne (h : g.Clashes g') : g ≠ g' := by
  rintro rfl
  rcases h with ⟨between, _, hname, _, _⟩
  have hlength := congrArg List.length (congrArg String.toList hname)
  rw [toList_hyphenated, List.length_append, List.length_cons] at hlength
  omega

/-- The paths in a group are those of the names that it knows. -/
theorem IsStacked.mem_paths_iff (h : g.IsStacked) {path : String} :
    path ∈ g.partitions.map Partition.path ↔
      ∃ volume, (g.volume? volume).isSome = true ∧ g.volumePath volume = path := by
  unfold volume?
  simp only [List.find?_isSome, beq_iff_eq, List.mem_map]
  constructor
  · rintro ⟨p, hp, rfl⟩
    rcases h.named p hp with ⟨volume, _, hname, hpath⟩
    exact ⟨volume, ⟨p, hp, hname⟩, hpath.symm⟩
  · rintro ⟨volume, ⟨p, hp, hname⟩, rfl⟩
    rcases h.named p hp with ⟨volume', _, hname', hpath⟩
    have hsame := Label.ofString_injective (Option.some.inj (hname.symm.trans hname'))
    exact ⟨p, hp, hsame ▸ hpath⟩

/-- Volumes of one group have different paths. -/
theorem IsStacked.nodup_paths (h : g.IsStacked) : (g.partitions.map Partition.path).Nodup := by
  refine List.pairwise_map.mpr ((List.pairwise_map.mp h.distinct).imp_of_mem ?_)
  intro p q hp hq hdistinct hsame
  rcases h.named p hp with ⟨volume, _, hname, hpath⟩
  rcases h.named q hq with ⟨volume', _, hname', hpath'⟩
  rw [hpath, hpath', String.append_right_inj] at hsame
  rw [hname, hname', hsame] at hdistinct
  exact hdistinct rfl

end VolumeGroup

/-! ### Groups after a session -/

namespace Topology

/-- What new groups have and every volume that is placed keeps, all groups have after a
    session. -/
theorem forall_groups_of_reaches {P : VolumeGroup → Prop}
    (hnew : ∀ name members, P (.ofMembers name members))
    (hP : ∀ {v : NewVolume} {g g' : VolumeGroup}, v.Change g g' → P g → P g')
    {t t' : Topology} (h : t.Reaches t') (ht : ∀ g ∈ t.groups, P g) : ∀ g ∈ t'.groups, P g := by
  induction h with
  | refl => exact ht
  | tail _ hstep ih =>
      cases hstep with
      | groups hadded =>
          refine List.forall_mem_append.mpr ⟨ih, fun g hg => ?_⟩
          rcases List.mem_map.mp (hadded.subset hg) with ⟨⟨name, members⟩, _, rfl⟩
          exact hnew name members
      | operation hchange =>
          rcases hchange with ⟨op, _, hchange⟩
          cases hchange with
          | onDisk _ _ => exact ih
          | onGroup hat hchange => exact hat.forall_mem_exchange (hP hchange) ih

/-- The names of the groups that are missing are those that partitions name, but for the known
    ones. -/
theorem map_name_missingGroups (t : Topology) :
    t.missingGroups.map VolumeGroup.name =
      t.pendingNames.filter fun name => (t.group? name).isNone := by
  unfold missingGroups pendingGroups
  rw [List.filter_map, List.map_map, List.map_map]
  exact (List.map_congr_left fun _ _ => rfl).trans (List.map_id _)

/-- The names of the groups that are missing are different, and none of them is known. -/
theorem nodup_missingGroups (t : Topology) :
    (t.missingGroups.map VolumeGroup.name).Nodup ∧
      ∀ g ∈ t.missingGroups, t.group? g.name = none := by
  refine ⟨t.map_name_missingGroups ▸ (nodup_eraseDups _).filter _, fun g hg => ?_⟩
  have hname := t.map_name_missingGroups ▸ List.mem_map_of_mem (f := VolumeGroup.name) hg
  exact Option.isNone_iff_eq_none.mp (List.mem_filter.mp hname).2

/-- There is one group of a name after every session. -/
theorem nodup_groups_of_reaches {t t' : Topology} (h : t.Reaches t')
    (ht : (t.groups.map VolumeGroup.name).Nodup) : (t'.groups.map VolumeGroup.name).Nodup := by
  induction h with
  | refl => exact ht
  | @tail between _ _ hstep ih =>
      cases hstep with
      | groups hadded =>
          rcases nodup_missingGroups between with ⟨hmissing, hunknown⟩
          rw [List.map_append, List.nodup_append]
          -- A group is missing only if there is none of its name.
          refine ⟨ih, (hadded.map VolumeGroup.name).sublist.nodup hmissing, ?_⟩
          intro name hknown name' hname' hsame
          rcases List.mem_map.mp hname' with ⟨g, hg, rfl⟩
          rcases List.mem_map.mp hknown with ⟨g', hg', hname⟩
          have hnone := List.find?_eq_none.mp (hunknown g (hadded.subset hg)) g' hg'
          exact hnone (beq_iff_eq.mpr (hname.trans hsame))
      | operation hchange =>
          -- Tokens fill groups and leave their names alone.
          rw [Kind.names_of_changes (.single hchange)]
          exact ih

/-! ### Paths -/

/-- The paths of all logical volumes. -/
def volumePaths (t : Topology) : List String :=
  t.groups.flatMap fun g => g.partitions.map Partition.path

/-- Among groups of stacked volumes all paths are different exactly if no two of the
    groups clash. -/
theorem volumePaths_nodup_iff {t : Topology} (hnames : (t.groups.map VolumeGroup.name).Nodup)
    (hstacked : ∀ g ∈ t.groups, g.IsStacked) :
    t.volumePaths.Nodup ↔ ∀ g ∈ t.groups, ∀ g' ∈ t.groups, ¬ g.Clashes g' := by
  unfold volumePaths
  rw [List.nodup_flatMap]
  constructor
  · rintro ⟨_, hapart⟩ g hg g' hg' hclash
    have hsymm : Std.Symm (Function.onFun List.Disjoint
        fun g : VolumeGroup => g.partitions.map Partition.path) :=
      ⟨fun _ _ h _ ha hb => h hb ha⟩
    have hdisjoint := hapart.forall hg hg' hclash.ne
    -- One path in both groups: the volume of the first has the longer name of the two.
    rcases hclash with ⟨between, volume, hname, hlong, hshort⟩
    refine hdisjoint ((hstacked g hg).mem_paths_iff.mpr ⟨_, hlong, rfl⟩)
      ((hstacked g' hg').mem_paths_iff.mpr ⟨volume, hshort, ?_⟩)
    exact VolumeGroup.volumePath_eq_iff.mpr (Or.inr (Or.inr ⟨between, hname, rfl⟩))
  · intro hclashes
    refine ⟨fun g hg => (hstacked g hg).nodup_paths, ?_⟩
    refine (List.pairwise_map.mp hnames).imp_of_mem fun {g g'} hg hg' hname path hpath hpath' => ?_
    rcases (hstacked g hg).mem_paths_iff.mp hpath with ⟨volume, hvolume, rfl⟩
    rcases (hstacked g' hg').mem_paths_iff.mp hpath' with ⟨volume', hvolume', hsame⟩
    -- Names of groups are different, so the two paths are cut in different places.
    rcases VolumeGroup.volumePath_eq_iff.mp hsame with
      ⟨hsame, _⟩ | ⟨between, hlonger, rfl⟩ | ⟨between, hlonger, rfl⟩
    · exact hname hsame.symm
    · exact hclashes g' hg' g hg ⟨between, volume, hlonger, hvolume', hvolume⟩
    · exact hclashes g hg g' hg' ⟨between, volume', hlonger, hvolume, hvolume'⟩

end Topology

/-! ### Plans -/

/-- A plan is a session on the disks that are registered, as far as it gets. -/
theorem configure_reaches (probe : Probe) (r : Requests) :
    (registerDisks probe r.disks .empty).state.Reaches (configure probe r).state := by
  -- Registration is over, and each stage begins where the one before it ended.
  refine Topology.reaches_andThen .refl fun t _ => ?_
  refine Topology.reaches_andThen (stages_reaches r diskKinds t) fun t _ => ?_
  refine Topology.reaches_andThen t.initializeGroups_reaches fun t _ => ?_
  exact Topology.reaches_andThen (stage_reaches r .logical t) fun _ _ => .refl

/-- The groups of a plan have different names, and the volumes of each are stacked. -/
theorem configure_groups (probe : Probe) (r : Requests) :
    ((configure probe r).state.groups.map VolumeGroup.name).Nodup ∧
      ∀ g ∈ (configure probe r).state.groups, g.IsStacked := by
  have hreaches := configure_reaches probe r
  -- There are no groups yet when the disks are registered.
  have hnone : (registerDisks probe r.disks .empty).state.groups = [] :=
    (registerDisks_state probe (fun _ _ _ => trivial) r.disks .empty fun _ _ => trivial).2
  constructor
  · refine Topology.nodup_groups_of_reaches hreaches ?_
    rw [hnone]
    exact List.nodup_nil
  · refine Topology.forall_groups_of_reaches (fun _ _ => VolumeGroup.isStacked_nil rfl)
      (fun hchange hg => hchange.isStacked hg) hreaches ?_
    rw [hnone]
    exact fun _ hg => absurd hg List.not_mem_nil

/-- All logical volumes of a plan have different paths exactly if no two of its groups
    clash, so that no name of a group goes on over a hyphen where another one ends and
    takes the beginning of a volume's name with it. -/
theorem configure_volumePaths_nodup_iff (probe : Probe) (r : Requests) :
    (configure probe r).state.volumePaths.Nodup ↔
      ∀ g ∈ (configure probe r).state.groups, ∀ g' ∈ (configure probe r).state.groups,
        ¬ g.Clashes g' :=
  Topology.volumePaths_nodup_iff (configure_groups probe r).1 (configure_groups probe r).2

/-- Without hyphens in the names of its groups all paths of a plan are different. -/
theorem configure_volumePaths_nodup {probe : Probe} {r : Requests}
    (h : ∀ g ∈ (configure probe r).state.groups, '-' ∉ g.name.toList) :
    (configure probe r).state.volumePaths.Nodup :=
  (Topology.volumePaths_nodup_iff (configure_groups probe r).1 (configure_groups probe r).2).mpr
    fun _ _ g' hg' hclash => h g' hg' hclash.hyphen_mem

/-- Two partitions for two groups, and a volume in each of them. -/
def Requests.ofHyphens : Requests where
  disks := ["sda"]
  tables := []
  deletes := []
  moves := []
  reuses := ["sda:1:lvm=a", "sda:3:lvm=a-b"]
  creates := []
  logicals := ["a:b-c:50%:ext4", "a-b:c:50%:ext4"]

/-- A plan with two volumes of one path. It fails nowhere. -/
theorem configure_volumePaths_ofHyphens :
    let plan := configure (.static Disk.ofGap) .ofHyphens
    (Layout.load "layout.json" Layout.ofGap).answer = .ok (.static Disk.ofGap) ∧
      plan.answer = .ok () ∧
      plan.state.groups.map (fun g => (g.name, g.partitions.map Partition.path)) =
        [("a", ["/dev/mapper/a-b-c"]), ("a-b", ["/dev/mapper/a-b-c"])] ∧
      ¬ plan.state.volumePaths.Nodup := by
  intro plan
  exact ⟨Layout.load_ofGap, by decide +kernel, by decide +kernel, by decide +kernel⟩

end DiskPlan
