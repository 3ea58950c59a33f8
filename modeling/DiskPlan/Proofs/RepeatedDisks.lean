import DiskPlan.Proofs.DiskNames

/-!
# Repeated Disks

What becomes of a disk that a plan is asked for more than once.

A plan looks up every name that it is given and puts what is found behind the disks that
it has. It does not look whether one of them is the same disk. So a disk that was asked
for twice is in the plan twice, whether its name was repeated or spelled in two ways. The
paths of a plan are the names it was given, written as paths.

The two copies do not stay the same. A token finds the first disk of a name, and both
copies have the same names, so all that is asked of the disk is done to the first copy.
The others are in the plan as they were found, whatever the tokens are and whichever way
they spell the name.

## Theorems

* `Topology.place?_ne_of_path_eq`, `Topology.actionsAt_of_path_eq`: No name stands for a
  copy that comes later, so nothing is asked of it.
* `Topology.Carries.getElem?_of_path_eq`: Such a copy stays as it was found.
* `configure_paths_nodup_iff`: When a plan has no disk twice, and what it has otherwise.
-/

namespace DiskPlan

namespace Topology

variable {t : Topology} {i j : Nat} {d d' : Disk}

/-- Of two disks with one path no name stands for the later one. -/
theorem place?_ne_of_path_eq (hlt : i < j) (hd : t.disks[i]? = some d)
    (hd' : t.disks[j]? = some d') (hpath : d'.path = d.path) (name : String) :
    t.place? name ≠ some j := by
  intro hplace
  rcases List.findIdx?_eq_some_iff_getElem.mp hplace with ⟨hj, hnamed, hfirst⟩
  rcases List.getElem?_eq_some_iff.mp hd with ⟨_, rfl⟩
  rcases List.getElem?_eq_some_iff.mp hd' with ⟨_, rfl⟩
  -- The earlier one has all names of the later one, and would have been found.
  unfold Disk.isNamed at hnamed hfirst
  rw [hpath] at hnamed
  exact hfirst i hlt hnamed

/-- Of two disks with one path tokens ask nothing of the later one. -/
theorem actionsAt_of_path_eq (hlt : i < j) (hd : t.disks[i]? = some d)
    (hd' : t.disks[j]? = some d') (hpath : d'.path = d.path) (kind : Kind)
    (tokens : List String) : t.actionsAt j kind tokens = [] := by
  have hnone : ∀ op, t.actionAt? j op = none := by
    intro op
    cases op with
    | onDisk name action => exact if_neg (place?_ne_of_path_eq hlt hd hd' hpath name)
    | onGroup _ _ => rfl
  refine List.filterMap_eq_nil_iff.mpr fun token _ => ?_
  exact Option.bind_eq_none_iff.mpr fun op _ => hnone op

/-- Of two disks with one path tokens leave the later one as it was. -/
theorem Carries.getElem?_of_path_eq {t₀ : Topology} {kinds : List Kind}
    {tokens : Kind → List String}
    (h : Carries (fun j => kinds.flatMap fun kind => t.actionsAt j kind (tokens kind)) t₀ t)
    (hlt : i < j) (hd : t.disks[i]? = some d) (hd' : t.disks[j]? = some d')
    (hpath : d'.path = d.path) : t₀.disks[j]? = some d' := by
  have hlength : j < t₀.disks.length := by
    rw [← h.length]
    exact (List.getElem?_eq_some_iff.mp hd').1
  have hnothing : (kinds.flatMap fun kind => t.actionsAt j kind (tokens kind)) = [] :=
    List.flatMap_eq_nil_iff.mpr fun kind _ =>
      actionsAt_of_path_eq hlt hd hd' hpath kind (tokens kind)
  have hruns := h.runs (List.getElem?_eq_getElem hlength) hd'
  rw [hnothing] at hruns
  cases hruns with
  | nil _ => exact List.getElem?_eq_getElem hlength

end Topology

/-- Given disks are found one for each name. They have different paths exactly if the names
    have led to different disks, provided that the given disks have. -/
theorem nodup_paths_iff_of_lookups {disks found : List Disk} {names : List String}
    (hdistinct : (disks.map Disk.path).Nodup)
    (h : List.Forall₂ (fun name d => ((Probe.static disks).lookup name).answer = .ok (some d))
      names found) :
    (found.map Disk.path).Nodup ↔
      (names.map fun name => disks.find? fun d => d.isNamed name).Nodup := by
  have hfound : names.map (fun name => disks.find? fun d => d.isNamed name) = found.map some :=
    map_eq_of_forall₂ (h.imp fun _ _ hlookup => lookup_static_eq_ok_iff.mp hlookup)
  have hmem : ∀ d ∈ found, d ∈ disks :=
    forall_mem_of_forall₂ h fun _ _ _ hlookup => mem_of_lookup_static hlookup
  rw [hfound, List.nodup_map_iff fun _ _ => Option.some.inj]
  -- All that are found are given, and given disks are known by their paths.
  constructor
  · exact List.Nodup.of_map _
  · exact List.Nodup.map_on fun d hd d' hd' hpath =>
      List.inj_on_of_nodup_map hdistinct (hmem d hd) (hmem d' hd') hpath

/-- The disks of a plan that is made of a layout have different paths exactly if its names
    have led to different disks. The paths are the names as they were given, written as
    paths, if all disks of the layout are plain. Of disks with one path all but the first
    are as the layout has them. -/
theorem configure_paths_nodup_iff {path contents : String} {disks : List Disk} {r : Requests}
    (hload : (Layout.load path contents).answer = .ok (.static disks))
    (hdistinct : (disks.map Disk.path).Nodup)
    (hplan : (configure (.static disks) r).answer = .ok ()) :
    (((configure (.static disks) r).state.disks.map Disk.path).Nodup ↔
      (r.disks.map fun name => disks.find? fun d => d.isNamed name).Nodup) ∧
    ((∀ d ∈ disks, d.IsPlain) →
      (configure (.static disks) r).state.disks.map Disk.path = r.disks.map devicePath) ∧
    ∀ (i j : Nat) (d d' : Disk), i < j → (configure (.static disks) r).state.disks[i]? = some d →
      (configure (.static disks) r).state.disks[j]? = some d' → d'.path = d.path →
        d' ∈ disks := by
  rcases configure_carries hplan with ⟨found, hfound, hcarries⟩
  have hpaths : (configure (.static disks) r).state.disks.map Disk.path = found.map Disk.path :=
    hcarries.paths
  rw [hpaths]
  refine ⟨nodup_paths_iff_of_lookups hdistinct hfound, fun hplain => ?_,
    fun i j d d' hlt hd hd' hpath => ?_⟩
  · refine (map_eq_of_forall₂ (hfound.imp fun _ _ hlookup => ?_)).symm
    exact (path_of_lookup_static hload hplain hlookup).symm
  · -- The tokens have found the earlier disk, so nothing has happened to this one.
    have hsame : found[j]? = some d' := hcarries.getElem?_of_path_eq hlt hd hd' hpath
    exact forall_mem_of_forall₂ hfound (fun _ _ _ hlookup => mem_of_lookup_static hlookup) d'
      (List.mem_of_getElem? hsame)

theorem Disk.nodup_paths_ofGap : (ofGap.map path).Nodup := by decide

/-- A plan that is asked for each disk once. -/
theorem configure_paths_nodup_iff_ofGap :
    let plan := configure (.static Disk.ofGap) .ofGap
    (Layout.load "layout.json" Layout.ofGap).answer = .ok (.static Disk.ofGap) ∧
      plan.answer = .ok () ∧ (plan.state.disks.map Disk.path).Nodup ∧
      plan.state.disks.map Disk.path = Requests.ofGap.disks.map devicePath := by
  intro plan
  have hplan : plan.answer = .ok () := by decide +kernel
  have hplain : ∀ d ∈ Disk.ofGap, d.IsPlain := by
    unfold Disk.IsPlain
    decide +kernel
  have hpaths := configure_paths_nodup_iff Layout.load_ofGap Disk.nodup_paths_ofGap hplan
  exact ⟨Layout.load_ofGap, hplan, hpaths.1.mpr (by decide +kernel), hpaths.2.1 hplain⟩

/-- One disk under two spellings of its name, and tokens that use both of them. -/
def Requests.ofSpellings : Requests where
  disks := ["sda", "nvme0n1", "/dev/sda"]
  tables := []
  deletes := ["sda:3"]
  moves := []
  reuses := ["/dev/sda:1:ext4"]
  creates := ["/dev/sda:primary:25%:end:ext4"]
  logicals := []

/-- A plan with two copies of a disk. In one of them a partition is to be removed and there
    is a new one, in the other one neither. -/
theorem configure_paths_ofSpellings :
    let plan := configure (.static Disk.ofGap) .ofSpellings
    (Layout.load "layout.json" Layout.ofGap).answer = .ok (.static Disk.ofGap) ∧
      (Disk.ofGap.map Disk.path).Nodup ∧ plan.answer = .ok () ∧
      plan.state.disks.map (fun d => (d.path, d.partitions.map fun p => (p.path, p.removed))) =
        [("/dev/sda", [("/dev/sda1", false), ("/dev/sda3", true), ("/dev/sda4", false)]),
          ("/dev/nvme0n1", []), ("/dev/sda", [("/dev/sda1", false), ("/dev/sda3", false)])] ∧
      ¬ (plan.state.disks.map Disk.path).Nodup := by
  intro plan
  have hpaths : plan.state.disks.map Disk.path = ["/dev/sda", "/dev/nvme0n1", "/dev/sda"] := by
    decide +kernel
  refine ⟨Layout.load_ofGap, Disk.nodup_paths_ofGap, by decide +kernel, by decide +kernel, ?_⟩
  rw [hpaths]
  decide

end DiskPlan
