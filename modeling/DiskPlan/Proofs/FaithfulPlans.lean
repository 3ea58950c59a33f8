import DiskPlan.Proofs.GroupInitialization
import DiskPlan.Proofs.Masking
import DiskPlan.Proofs.ResolvedPaths

/-!
# Faithful Plans

What can be told of a plan from its JSON form.

Everything but the passphrases is there, and of a passphrase it is told whether there is one.
So two plans are written alike exactly if they are the same once passphrases are masked. For
this no two values of a field may be written alike: a name that is empty is not one that is
absent, a mount point is known by its normal form, and the words for filesystems, tables,
roles and flags are all different. What is written besides the fields, the size in bytes and
the path of a group, follows from them.

A plan finds its groups by their names, while the JSON form has them in a list. The order of
that list is not an additional piece of information. A plan makes its groups in the order in
which the partitions of its disks first name them, and never changes these names afterwards,
so plans with the same disks and the same groups under each name have their groups in the
same order. A plan that failed while its groups were made has a part of them only, and it is
the first part.

## Main definitions

* `Topology.Resembles`: Topologies that are the same but for their passphrases.
* `Topology.IsInOrder`: A topology with groups in the order in which partitions name them.

## Theorems

* `Encryption.masked_eq_iff`: What masking leaves of an encryption.
* `Partition.toJson_eq_iff`, `Disk.toJson_eq_iff`, `VolumeGroup.toJson_eq_iff`,
  `Topology.toJson_eq_iff`: What is written alike.
* `configure_isInOrder`: The order of the groups of a plan.
* `configure_toJson_eq_iff`: When two plans are written alike.
-/

namespace DiskPlan

/-! ### Values that are written alike -/

/-- Values that are found by their names have different names. The names are all that is written,
    so this is what makes a written value tell which one it was. -/
theorem injective_of_ofName? {α : Type} {name : α → String} {ofName? : String → Option α}
    (h : ∀ a, ofName? (name a) = some a) : Function.Injective name := by
  intro a b hname
  have hfound := h a
  rw [hname, h b] at hfound
  exact (Option.some.inj hfound).symm

theorem Provenance.name_injective : Function.Injective Provenance.name := by
  intro a b h
  cases a <;> cases b <;> first | rfl | exact absurd h (by decide)

theorem Path.text_injective : Function.Injective Path.text := by
  intro p q h
  rw [← parse_text p, h, parse_text]

namespace Json

/-- A label is written as a text if it is one, and as its bytes otherwise. The two forms never
    agree, and each of them can be undone. -/
theorem ofLabel_injective : Function.Injective ofLabel := by
  intro l l' h
  unfold ofLabel at h
  split at h
  · rename_i s hs
    split at h
    · rename_i s' hs'
      rw [← Label.ofString_of_text? hs, ← Label.ofString_of_text? hs', text.inj h]
    · exact absurd h (by simp only [reduceCtorEq, not_false_eq_true])
  · split at h
    · exact absurd h (by simp only [reduceCtorEq, not_false_eq_true])
    · exact label.inj h

theorem ofText?_eq_iff {s s' : Option String} : ofText? s = ofText? s' ↔ s = s' := by
  cases s <;> cases s' <;> simp only [ofText?, reduceCtorEq, text.injEq, Option.some.injEq]

/-- Optional values are written alike exactly if they are none or agree in what is told of them.
    For a value that is none a word is written that no value is written as. -/
theorem getD_null_eq_iff {α β : Type} {f : α → Json} {g : α → β} (hf : ∀ a, f a ≠ .null)
    (h : ∀ a b, f a = f b ↔ g a = g b) {a b : Option α} :
    (a.map f).getD .null = (b.map f).getD .null ↔ a.map g = b.map g := by
  cases a with
  | none =>
      cases b with
      | none => exact iff_of_true rfl rfl
      | some b =>
          refine iff_of_false (Ne.symm (hf b)) ?_
          -- One is null and the other is not.
          simp only [Option.map_none, Option.map_some, reduceCtorEq, not_false_eq_true]
  | some a =>
      cases b with
      | none =>
          refine iff_of_false (hf a) ?_
          simp only [Option.map_none, Option.map_some, reduceCtorEq, not_false_eq_true]
      | some b => simpa only [Option.map_some, Option.getD_some, Option.some.injEq] using h a b

end Json

/-- Lists are alike under one function exactly if they are alike under another one that tells the
    same elements apart. This carries the comparison from partitions to disks and groups. -/
theorem map_eq_map_iff {α β γ : Type} {f : α → β} {g : α → γ} (h : ∀ a b, f a = f b ↔ g a = g b)
    {as bs : List α} : as.map f = bs.map f ↔ as.map g = bs.map g := by
  rw [← List.forall₂_eq_eq_eq, ← List.forall₂_eq_eq_eq, List.forall₂_map_left_iff,
    List.forall₂_map_right_iff, List.forall₂_map_left_iff, List.forall₂_map_right_iff]
  simp only [h]

/-! ### Parts of a plan -/

/-- What masking leaves of an encryption: all but the passphrase, of which it is known whether
    there is one. -/
theorem Encryption.masked_eq_iff {e e' : Encryption} :
    e.masked = e'.masked ↔ e.physicalVolume = e'.physicalVolume ∧
      e.passphrase.isSome = e'.passphrase.isSome ∧ e.keyFile = e'.keyFile := by
  have hpassphrase : ∀ a b : Option String, (a.map fun _ => mask) = (b.map fun _ => mask) ↔
      a.isSome = b.isSome := by
    intro a b
    cases a <;> cases b <;> simp
  unfold masked
  rw [mk.injEq, hpassphrase]

theorem Encryption.toJson_eq_iff {e e' : Encryption} :
    e.toJson = e'.toJson ↔ e.masked = e'.masked := by
  unfold toJson
  simp only [masked_eq_iff, Json.object.injEq, List.cons.injEq, Prod.mk.injEq, true_and, and_true,
    Json.text.injEq, Json.bool.injEq, Json.ofText?_eq_iff]

/-- Of a membership the group is written in full and the encryption masked. -/
theorem Membership.toJson_eq_iff {m m' : Membership} :
    m.toJson = m'.toJson ↔ m.masked = m'.masked := by
  unfold toJson masked
  rw [mk.injEq, ← Json.getD_null_eq_iff (fun e => by simp [Encryption.toJson])
    fun _ _ => Encryption.toJson_eq_iff]
  simp only [Json.object.injEq, List.cons.injEq, Prod.mk.injEq, true_and, and_true,
    Json.text.injEq]

theorem Partition.toJson_eq_iff {p q : Partition} : p.toJson = q.toJson ↔ p.masked = q.masked := by
  constructor
  · -- Read from the text field by field: each field is written by a function that loses nothing.
    intro h
    unfold toJson at h
    simp only [Json.object.injEq, List.cons.injEq, Prod.mk.injEq, true_and, and_true,
      Json.text.injEq, Json.int.injEq, Json.bool.injEq, Json.list.injEq, Json.ofText?_eq_iff] at h
    rcases h with ⟨hpath, hnumber, hname, hfirst, hlast, hrole, hprovenance, hfilesystem, htarget,
      hmount, hkey, hflags, hmembership, hremoved⟩
    have hfilesystems := Option.map_injective (injective_of_ofName? Filesystem.ofName?_name)
    have hlabels : p.name = q.name := by
      rw [Json.getD_null_eq_iff (g := id) Json.ofLabel_ne_null
        fun _ _ => Json.ofLabel_injective.eq_iff, Option.map_id] at hname
      exact hname
    have hflags : p.flags = q.flags :=
      List.map_injective_iff.mpr
        (fun _ _ h => injective_of_ofName? Flag.ofName?_name (Json.text.inj h)) hflags
    have hmemberships := (Json.getD_null_eq_iff (fun m => by simp [Membership.toJson])
      fun _ _ => Membership.toJson_eq_iff).mp hmembership
    unfold masked
    rw [mk.injEq]
    exact ⟨hpath, hnumber, hfirst, hlast, injective_of_ofName? Role.ofName?_name hrole,
      hfilesystems hfilesystem, Provenance.name_injective hprovenance, hfilesystems htarget,
      hlabels, Option.map_injective Path.text_injective hmount, hkey, hflags, hmemberships,
      hremoved⟩
  · intro h
    -- A masked partition is written as the partition is, so what masking leaves is enough.
    rw [← p.toJson_masked, h, q.toJson_masked]

theorem Disk.toJson_eq_iff {d d' : Disk} : d.toJson = d'.toJson ↔ d.masked = d'.masked := by
  constructor
  · intro h
    unfold toJson at h
    simp only [Json.object.injEq, List.cons.injEq, Prod.mk.injEq, true_and, and_true,
      Json.text.injEq, Json.int.injEq, Json.bool.injEq, Json.list.injEq, Json.ofText?_eq_iff] at h
    -- The size in bytes follows from the sectors and says nothing more.
    rcases h with ⟨hpath, hmodel, hsectors, hsectorSize, _, htable, hrelabeled, hpartitions⟩
    unfold masked
    rw [mk.injEq]
    exact ⟨hpath, hsectors, hsectorSize, Json.ofLabel_injective hmodel,
      Option.map_injective (injective_of_ofName? TableKind.ofName?_name) htable,
      (map_eq_map_iff fun _ _ => Partition.toJson_eq_iff).mp hpartitions, hrelabeled⟩
  · intro h
    rw [← d.toJson_masked, h, d'.toJson_masked]

theorem VolumeGroup.toJson_eq_iff {g g' : VolumeGroup} :
    g.toJson = g'.toJson ↔ g.masked = g'.masked := by
  constructor
  · intro h
    unfold toJson at h
    simp only [Json.object.injEq, List.cons.injEq, Prod.mk.injEq, true_and, and_true,
      Json.text.injEq, Json.int.injEq, Json.list.injEq] at h
    -- What is written twice, as the path or the size in bytes, follows from the other fields.
    rcases h with ⟨hname, _, hsectors, hsectorSize, _, hvolumes, hencryption, hpartitions⟩
    unfold masked
    rw [mk.injEq]
    exact ⟨hname, hsectors, hsectorSize, List.map_injective_iff.mpr (fun _ _ => Json.text.inj)
      hvolumes, (map_eq_map_iff fun _ _ => Encryption.toJson_eq_iff).mp hencryption,
      (map_eq_map_iff fun _ _ => Partition.toJson_eq_iff).mp hpartitions⟩
  · intro h
    rw [← g.toJson_masked, h, g'.toJson_masked]

/-- Topologies are written alike exactly if they are the same once passphrases are masked. -/
theorem Topology.toJson_eq_iff {t t' : Topology} : t.toJson = t'.toJson ↔ t.masked = t'.masked := by
  unfold toJson masked
  simp only [Json.object.injEq, List.cons.injEq, Prod.mk.injEq, true_and, and_true,
    Json.list.injEq, mk.injEq, map_eq_map_iff fun _ _ => Disk.toJson_eq_iff,
    map_eq_map_iff fun _ _ => VolumeGroup.toJson_eq_iff]

/-! ### Plans -/

/-- Lists that a list begins with, each of them without duplicates, are the same if they have
    the same members. -/
theorem eq_of_prefix_of_mem_iff {α : Type} {as bs cs : List α} (has : as <+: cs) (hbs : bs <+: cs)
    (hnodup : as.Nodup) (hnodup' : bs.Nodup) (hmem : ∀ a, a ∈ as ↔ a ∈ bs) : as = bs := by
  have hlonger : ∀ {xs ys : List α}, xs <+: ys → ys.Nodup → (∀ a ∈ ys, a ∈ xs) → xs = ys := by
    rintro xs ys ⟨rest, rfl⟩ hys hxs
    cases rest with
    | nil => exact (List.append_nil _).symm
    | cons a rest =>
        -- What comes behind would be a member once more.
        have ha := hxs a (List.mem_append_right _ List.mem_cons_self)
        exact absurd rfl ((List.nodup_append.mp hys).2.2 a ha a List.mem_cons_self)
  rcases List.prefix_or_prefix_of_prefix has hbs with hle | hle
  · exact hlonger hle hnodup' fun a => (hmem a).mpr
  · exact (hlonger hle hnodup fun a => (hmem a).mp).symm

namespace Topology

variable {t t' : Topology}

/-- Topologies that are the same but for their passphrases: they have the same disks, and the
    same group under each name. -/
structure Resembles (t t' : Topology) : Prop where
  disks : t.disks.map Disk.masked = t'.disks.map Disk.masked
  groups : ∀ name, (t.group? name).map VolumeGroup.masked = (t'.group? name).map VolumeGroup.masked

/-- The groups come in the order in which the partitions first name them, as far as they have
    been made. -/
def IsInOrder (t : Topology) : Prop :=
  t.groups.map VolumeGroup.name <+: t.pendingNames

theorem isSome_group?_iff {name : String} :
    (t.group? name).isSome = true ↔ name ∈ t.groups.map VolumeGroup.name := by
  rw [← Option.not_isNone, Bool.not_eq_true', ← Bool.not_eq_true, isNone_group?_iff, not_not]

theorem group?_of_mem (hnodup : (t.groups.map VolumeGroup.name).Nodup) {g : VolumeGroup}
    (hg : g ∈ t.groups) : t.group? g.name = some g := by
  rcases Option.isSome_iff_exists.mp (isSome_group?_iff.mpr (List.mem_map_of_mem hg)) with
    ⟨g', hg'⟩
  have hmem := List.mem_of_find?_eq_some hg'
  have hname : g'.name = g.name :=
    beq_iff_eq.mp (List.find?_some (p := fun h : VolumeGroup => h.name == g.name) hg')
  rw [hg', List.inj_on_of_nodup_map hnodup hmem hg hname]

/-- The names of groups to come depend on the disks alone, so equal disks give two plans the same
    order of groups. -/
theorem pendingNames_congr (h : t'.disks = t.disks) : t'.pendingNames = t.pendingNames := by
  unfold pendingNames members
  rw [h]

/-- Groups that are made are in order if there are no others: what is missing are then all names
    that are waiting, and a call makes the first of them. -/
theorem isInOrder_initializeGroups (h : t.groups = []) : t.initializeGroups.state.IsInOrder := by
  rcases addGroups_state t.missingGroups t with ⟨added, hadded, hstate, _⟩
  have hnames : t.missingGroups.map VolumeGroup.name = t.pendingNames := by
    rw [missingGroups_of_groups_eq_nil h, List.map_map]
    exact List.map_id _
  unfold IsInOrder initializeGroups
  rw [hstate, h, List.nil_append]
  change added.map VolumeGroup.name <+: t.pendingNames
  rw [← hnames]
  exact hadded.map VolumeGroup.name

/-- Logical volumes leave groups in order, since they change neither disks nor names. -/
theorem IsInOrder.stage (h : t.IsInOrder) (r : Requests) :
    (r.stage .logical t).state.IsInOrder := by
  have hchanges := stage_changes r .logical t
  unfold IsInOrder
  rw [Kind.names_of_changes hchanges,
    pendingNames_congr (Kind.disks_of_logical_changes hchanges)]
  exact h

/-- The groups are known by what is found under their names, in their order. -/
theorem map_masked_groups (hnodup : (t.groups.map VolumeGroup.name).Nodup) :
    (t.groups.map VolumeGroup.masked).map some =
      (t.groups.map VolumeGroup.name).map fun name => (t.group? name).map VolumeGroup.masked := by
  rw [List.map_map, List.map_map]
  refine List.map_congr_left fun g hg => ?_
  rw [Function.comp_apply, Function.comp_apply, group?_of_mem hnodup hg]
  rfl

/-- Masking tells as much of groups as their names do, if they come in an order that their disks
    know. Without the order two plans could have the same groups in different places, and would
    be written differently. -/
theorem masked_eq_iff (hnodup : (t.groups.map VolumeGroup.name).Nodup)
    (hnodup' : (t'.groups.map VolumeGroup.name).Nodup)
    (horder : t.IsInOrder) (horder' : t'.IsInOrder) :
    t.masked = t'.masked ↔ t.Resembles t' := by
  constructor
  · intro h
    refine ⟨congrArg Topology.disks h, fun name => ?_⟩
    rw [← group?_masked, h, group?_masked]
  · intro h
    -- Members are known by what masking leaves, so alike disks name the same groups.
    have hpending : t.pendingNames = t'.pendingNames := by
      rw [← t.pendingNames_masked, ← t'.pendingNames_masked]
      exact pendingNames_congr h.disks
    have hnames : t.groups.map VolumeGroup.name = t'.groups.map VolumeGroup.name := by
      refine eq_of_prefix_of_mem_iff horder (hpending.symm ▸ horder') hnodup hnodup' fun name => ?_
      rw [← isSome_group?_iff, ← isSome_group?_iff, ← Option.isSome_map (f := VolumeGroup.masked),
        h.groups, Option.isSome_map]
    have hgroups : t.groups.map VolumeGroup.masked = t'.groups.map VolumeGroup.masked := by
      refine List.map_injective_iff.mpr (fun _ _ => Option.some.inj) ?_
      rw [map_masked_groups hnodup, map_masked_groups hnodup', hnames]
      exact List.map_congr_left fun name _ => h.groups name
    unfold masked
    rw [h.disks, hgroups]

end Topology

/-- The groups of a plan are in order, wherever it ends. -/
theorem configure_isInOrder (probe : Probe) (r : Requests) :
    (configure probe r).state.IsInOrder := by
  -- Before the groups are made there are none, and no groups are in any order.
  have hnone : (prepare probe r).state.IsInOrder := by
    unfold Topology.IsInOrder
    rw [prepare_groups]
    exact List.nil_prefix
  have hmade : (Outcome.bracket groupStage
      (prepare probe r).state.initializeGroups).state.IsInOrder := by
    rw [Outcome.bracket_state]
    exact Topology.isInOrder_initializeGroups (prepare_groups probe r)
  have hfilled := hmade.stage r
  rw [configure_eq]
  refine Outcome.andThen_state_of hnone fun _ _ => Outcome.andThen_state_of hmade fun _ _ => ?_
  exact Outcome.andThen_state_of hfilled fun _ _ => hfilled

/-- Two plans are written alike exactly if they are the same in all their disks, partitions,
    groups and volumes but for their passphrases. So the document leaves out nothing else, and
    two plans that differ otherwise can be told apart by it. -/
theorem configure_toJson_eq_iff (probe probe' : Probe) (r r' : Requests) :
    (configure probe r).state.toJson = (configure probe' r').state.toJson ↔
      (configure probe r).state.Resembles (configure probe' r').state := by
  rw [Topology.toJson_eq_iff]
  exact Topology.masked_eq_iff (configure_groups probe r).1 (configure_groups probe' r').1
    (configure_isInOrder probe r) (configure_isInOrder probe' r')

end DiskPlan
