import DiskPlan.Proofs.Numbering

/-!
# Names of Disks

Whether disks are found again by the names they were asked for.

A name is used twice. A probe looks a disk up by it, and later every token for the disk
has to find it again, among the disks that were registered. The two do not go by the same
names. Registered disks go by their paths, with or without `/dev/`. So do the disks of a
layout, and whatever is found in one is found again. A running system has more names for
a device: links to it, and what the kernel calls it. The tool follows them all and answers
with the path that it prefers, and the name that was asked for is not kept. So a disk of
a running system is found again exactly if the answer has the path that was asked for.

The one name that could mean two paths begins with `/dev/`: it is a path, and it is also
what stands behind `/dev/` in a longer one. Plain disks have no such longer paths.

## Main definitions

* `Disk.IsPlain`: A disk whose path has `/dev/` in front once.
* `Topology.Finds`: A name by which a disk is found.

## Theorems

* `Disk.isNamed_iff`: A plain disk is known by one path.
* `Topology.finds_iff`: The names by which a disk is found.
* `registerDisks_finds`: Which disks are found again.
-/

namespace DiskPlan

/-! ### Paths and names -/

theorem devicePath_of_append (rest : String) : devicePath ("/dev/" ++ rest) = "/dev/" ++ rest := by
  unfold devicePath
  rw [Text.after?_append, Option.isSome_some, if_pos rfl]

/-- A name has `/dev/` in front already, or gets it. -/
theorem devicePath_cases (name : String) :
    (∃ rest, name = "/dev/" ++ rest ∧ devicePath name = name) ∨
      devicePath name = "/dev/" ++ name := by
  unfold devicePath
  cases hrest : Text.after? "/dev/" name with
  | none => exact Or.inr rfl
  | some rest => exact Or.inl ⟨rest, Text.after?_eq_some_iff.mp hrest, rfl⟩

/-- A path under `/dev/` is its own path, so a path may be asked for wherever a name may. -/
theorem devicePath_devicePath (name : String) :
    devicePath (devicePath name) = devicePath name := by
  rcases devicePath_cases name with ⟨rest, _, hsame⟩ | hlonger
  · rw [hsame, hsame]
  · rw [hlonger, devicePath_of_append]

namespace Disk

/-- A disk whose path has `/dev/` in front once. Of a path with two of them, the one without the
    first is a name as well as a path, and as a name it stands for another path than itself. -/
def IsPlain (d : Disk) : Prop :=
  Text.after? "/dev//dev/" d.path = none

/-- A plain disk has a name exactly if the name stands for its path. The name is compared with
    the path as it is and with `/dev/` in front; for a plain disk the two come to one comparison. -/
theorem isNamed_iff {d : Disk} (hunder : ∃ own, d.path = devicePath own) (hplain : d.IsPlain)
    {name : String} : d.isNamed name = true ↔ d.path = devicePath name := by
  unfold isNamed isPathNamed
  rw [Bool.or_eq_true, beq_iff_eq, beq_iff_eq]
  rcases hunder with ⟨own, hown⟩
  constructor
  · rintro (hname | hname)
    · rw [hname, hown, devicePath_devicePath]
    · rcases devicePath_cases name with ⟨rest, hrest, _⟩ | hlonger
      · -- The name is a path itself, and the path would be a longer one with it.
        have hlong : d.path = "/dev//dev/" ++ rest := by
          rw [← hname, hrest, ← String.append_assoc]
          rfl
        exact absurd (hplain.symm.trans (Text.after?_eq_some_iff.mpr hlong))
          (by simp only [reduceCtorEq, not_false_eq_true])
      · rw [hlonger, hname]
  · intro hpath
    rcases devicePath_cases name with ⟨_, _, hsame⟩ | hlonger
    · exact Or.inl (hsame.symm.trans hpath.symm)
    · exact Or.inr (hlonger.symm.trans hpath.symm)

end Disk

/-! ### Registered disks -/

/-- The disk that is found by a name has the path of a given disk. It need not be the same disk,
    since a disk can be registered twice. -/
def Topology.Finds (t : Topology) (name : String) (d : Disk) : Prop :=
  ∃ d', t.disk? name = some d' ∧ d'.path = d.path

/-- Among plain disks a name finds a disk exactly if it stands for the path of the disk. The
    search stops at the first disk that has the name, and all that have it share one path. -/
theorem Topology.finds_iff {t : Topology} (hunder : ∀ d ∈ t.disks, ∃ own, d.path = devicePath own)
    (hplain : ∀ d ∈ t.disks, d.IsPlain) {d : Disk} (hd : d ∈ t.disks) {name : String} :
    t.Finds name d ↔ d.path = devicePath name := by
  have hnamed : ∀ d' ∈ t.disks, d'.isNamed name = true ↔ d'.path = devicePath name :=
    fun d' hd' => Disk.isNamed_iff (hunder d' hd') (hplain d' hd')
  constructor
  · rintro ⟨d', hfound, hpath⟩
    rcases Disk.isNamed_of_find? hfound with ⟨hd', hname⟩
    exact hpath.symm.trans ((hnamed d' hd').mp hname)
  · intro hpath
    cases hfound : t.disk? name with
    | none => exact absurd ((hnamed d hd).mpr hpath) (List.find?_eq_none.mp hfound d hd)
    | some d' =>
        -- It can be another disk that comes first, but not one with another path.
        rcases Disk.isNamed_of_find? hfound with ⟨hd', hname⟩
        exact ⟨d', hfound, ((hnamed d' hd').mp hname).trans hpath.symm⟩

/-- Every name has led to a disk that is registered. It finds that disk exactly if it stands for
    the path of the disk: what the probe was asked is not kept, only what it answered. -/
theorem registerDisks_finds_iff {probe : Probe} {names : List String}
    (hprobed : ∀ name d, (probe.lookup name).answer = .ok (some d) → d.IsProbed)
    (hok : (registerDisks probe names .empty).answer = .ok ())
    (hplain : ∀ d ∈ (registerDisks probe names .empty).state.disks, d.IsPlain) :
    ∀ name ∈ names, ∃ d, (probe.lookup name).answer = .ok (some d) ∧
      ((registerDisks probe names .empty).state.Finds name d ↔ d.path = devicePath name) := by
  rcases registerDisks_eq_ok hok with ⟨found, hfound, hdisks⟩
  have hdisks : (registerDisks probe names .empty).state.disks = found := hdisks
  have hunder : ∀ d ∈ (registerDisks probe names .empty).state.disks,
      ∃ own, d.path = devicePath own := by
    rw [hdisks]
    exact forall_mem_of_forall₂ hfound fun name _ d hd => (hprobed name d hd).exists_devicePath
  -- Names and registered disks go together, so every name has found one of the disks.
  have hlookups : ∀ name ∈ names, ∃ d ∈ found, (probe.lookup name).answer = .ok (some d) :=
    forall_mem_of_forall₂ hfound.flip fun d hd _ hlookup => ⟨d, hd, hlookup⟩
  intro name hname
  rcases hlookups name hname with ⟨d, hd, hlookup⟩
  exact ⟨d, hlookup, Topology.finds_iff hunder hplain (hdisks ▸ hd)⟩

/-- The probe of a layout goes by the names of a plan, so what it finds has the path that
    was asked for. -/
theorem path_of_lookup_static {path contents : String} {disks : List Disk}
    (hload : (Layout.load path contents).answer = .ok (.static disks))
    (hplain : ∀ d ∈ disks, d.IsPlain) {name : String} {d : Disk}
    (h : ((Probe.static disks).lookup name).answer = .ok (some d)) :
    d.path = devicePath name := by
  -- The disk was found by the name that stands for its path, so it has the name.
  rcases Disk.isNamed_of_find? (lookup_static_eq_ok_iff.mp h) with ⟨hd, hnamed⟩
  exact (Disk.isNamed_iff (exists_devicePath_of_load hload h) (hplain d hd)).mp hnamed

/-- What a system answers with, if its tool succeeds, is what is read from the listing. -/
theorem SystemProbe.lookup_of_run (execute : Invocation → Execution) (s : ProbeSettings)
    {name output errors : String}
    (hrun : execute (invocation s name) = .finished 0 output errors) :
    ((probe execute s).lookup name).answer = listedDisk? output := by
  have hanswer : (run execute (invocation s name)).answer = .ok ⟨0, output, errors⟩ := by
    unfold run
    rw [hrun]
    rfl
  have hsucceeded : (⟨0, output, errors⟩ : CommandResult).succeeded = true := rfl
  unfold probe Outcome.andThen
  -- The tool has finished with 0, so neither of the refusals applies.
  dsimp only
  rw [hanswer]
  dsimp only
  rw [hsucceeded, Bool.not_true, if_neg Bool.false_ne_true]
  cases hlisted : listedDisk? output <;> rfl

/-- Disks of a layout are all found again by the names they were asked for. A disk of a
    running system is found again exactly if the system answered with the path that it was
    asked for. -/
theorem registerDisks_finds (names : List String) :
    (∀ (path contents : String) (disks : List Disk),
      (Layout.load path contents).answer = .ok (.static disks) → (∀ d ∈ disks, d.IsPlain) →
      (registerDisks (.static disks) names .empty).answer = .ok () →
      ∀ name ∈ names, ∃ d, ((Probe.static disks).lookup name).answer = .ok (some d) ∧
        (registerDisks (.static disks) names .empty).state.Finds name d) ∧
    ∀ (execute : Invocation → Execution) (settings : ProbeSettings) (probe : Probe),
      probe = SystemProbe.probe execute settings →
      (registerDisks probe names .empty).answer = .ok () →
      (∀ d ∈ (registerDisks probe names .empty).state.disks, d.IsPlain) →
      ∀ name ∈ names, ∃ d, (probe.lookup name).answer = .ok (some d) ∧
        ((registerDisks probe names .empty).state.Finds name d ↔ d.path = devicePath name) := by
  refine ⟨fun path contents disks hload hplain hok name hname => ?_, ?_⟩
  · -- Only disks of the layout are registered, and those are plain.
    have hregistered : ∀ d ∈ (registerDisks (.static disks) names .empty).state.disks,
        d ∈ disks :=
      (registerDisks_state (.static disks)
        (fun _ _ h => mem_of_lookup_static h) names .empty
        fun _ hd => absurd hd List.not_mem_nil).1
    rcases registerDisks_finds_iff (fun _ _ => .ofLayout hload) hok
      (fun d hd => hplain d (hregistered d hd)) name hname with ⟨d, hlookup, hfinds⟩
    exact ⟨d, hlookup, hfinds.mpr (path_of_lookup_static hload hplain hlookup)⟩
  · rintro execute settings probe rfl hok hplain
    exact registerDisks_finds_iff (fun _ _ => .ofSystem) hok hplain

/-- A listing of a mapped device, under the path that its map gives it. -/
def DeviceListing.ofMapped : String :=
  "\x7b\"blockdevices\":[\x7b\"name\":\"mpatha\",\"path\":\"/dev/mapper/mpatha\"," ++
    "\"size\":20480000,\"type\":\"mpath\",\"pttype\":\"gpt\"\x7d]\x7d"

/-- The disk that the listing describes. -/
def Disk.ofMapped : Disk :=
  { Disk.ofThree with
    path := "/dev/mapper/mpatha"
    sectors := 40000
    partitions := [] }

/-- A system that answers with the listing, by whatever name it is asked for, as the kernel does
    for a name and its aliases. -/
def Probe.ofMapped : Probe :=
  SystemProbe.probe (fun _ => .finished 0 DeviceListing.ofMapped "") ⟨.ofString "lsblk", 30⟩

theorem Probe.lookup_ofMapped (name : String) :
    (ofMapped.lookup name).answer = .ok (some .ofMapped) := by
  have hlisted : SystemProbe.listedDisk? DeviceListing.ofMapped = .ok (some .ofMapped) := by
    decide +kernel
  refine Eq.trans ?_ hlisted
  exact SystemProbe.lookup_of_run (fun _ => .finished 0 DeviceListing.ofMapped "") _ rfl

/-- Names of disks of a layout, one of them there twice, and two names of a mapped device,
    by the first of which it is found. -/
theorem registerDisks_finds_ofMapped :
    let names := ["sda", "/dev/nvme0n1", "sda"]
    let mapped := ["mapper/mpatha", "dm-0"]
    (∀ name ∈ names, ∃ d, ((Probe.static Disk.ofGap).lookup name).answer = .ok (some d) ∧
      (registerDisks (.static Disk.ofGap) names .empty).state.Finds name d) ∧
    ∀ name ∈ mapped, ∃ d, (Probe.ofMapped.lookup name).answer = .ok (some d) ∧
      ((registerDisks .ofMapped mapped .empty).state.Finds name d ↔
        d.path = devicePath name) := by
  intro names mapped
  have hgap : ∀ d ∈ Disk.ofGap, d.IsPlain := by
    unfold Disk.IsPlain
    decide +kernel
  have hnames : (registerDisks (.static Disk.ofGap) names .empty).answer = .ok () := by
    decide +kernel
  -- By either name the system answers with the same disk.
  rcases registerDisks_of_found (List.Forall₂.cons (Probe.lookup_ofMapped "mapper/mpatha")
    (.cons (Probe.lookup_ofMapped "dm-0") .nil)) .empty with ⟨hanswer, hstate⟩
  have hmapped : ∀ d ∈ (registerDisks .ofMapped mapped .empty).state.disks, d.IsPlain := by
    rw [hstate]
    unfold Disk.IsPlain
    decide +kernel
  exact ⟨(registerDisks_finds names).1 _ _ _ Layout.load_ofGap hgap hnames,
    (registerDisks_finds mapped).2 _ _ .ofMapped rfl hanswer hmapped⟩

/-- A mapped device is asked for by what the kernel calls it. It is registered, and by that
    name no disk is found. -/
theorem not_finds_ofMapped :
    (registerDisks .ofMapped ["dm-0"] .empty).answer = .ok () ∧
      (registerDisks .ofMapped ["dm-0"] .empty).state.disks = [.ofMapped] ∧
      ∀ d, ¬ (registerDisks .ofMapped ["dm-0"] .empty).state.Finds "dm-0" d := by
  rcases registerDisks_of_found (List.Forall₂.cons (Probe.lookup_ofMapped "dm-0") .nil) .empty
    with ⟨hanswer, hstate⟩
  have hnone : (⟨[.ofMapped], []⟩ : Topology).disk? "dm-0" = none := by decide +kernel
  rw [hstate]
  refine ⟨hanswer, rfl, fun d hfinds => ?_⟩
  rcases hfinds with ⟨d', hfound, _⟩
  exact absurd (hnone.symm.trans hfound) (by simp only [reduceCtorEq, not_false_eq_true])

end DiskPlan
