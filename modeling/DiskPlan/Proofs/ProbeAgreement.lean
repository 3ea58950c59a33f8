import DiskPlan.Proofs.StoredPlans

/-!
# Agreement of Probes

A disk that is described twice, in a layout and in a listing, is found as one disk.

The two descriptions have little in common. A layout gives the range of a partition in
sectors and its number as a number. A listing gives the size in bytes, the start in
sectors, and the number at the end of a path that may have digits of its own. Still
neither says more than the other, as long as the layout keeps to what a listing can say:
primary partitions without names and flags, and a model that is there and has no white
space around it, since a listing is read without it.

What can keep a listing from being read is its sizes. They are products, so they can be
beyond the limit on numerals where all the numbers of the layout are within it. No text
that is read is a listing of such a disk, and this is the only obstacle.

A plan looks its disks up and asks the probe for nothing else. So the plans agree where
the disks do.

## Main definitions

* `DiskLayout.IsListable`: A disk of a layout of which a listing can say everything.
* `DiskLayout.HasWritableSizes`: A disk whose sizes in bytes are within the limit.
* `PartitionLayout.IsListedAs`, `DiskLayout.IsListedAs`: A device in a listing that
  describes a partition or a disk of a layout.
* `DiskLayout.IsListedIn`: A text that is read as a listing of a disk.
* `DiskLayout.listing`: A listing of a disk.
* `Outcome.ending`: Where an outcome ends, its log aside.

## Theorems

* `PartitionLayout.partition?_of_isListedAs`, `DiskLayout.disk_of_isListedAs`: What is
  listed is read as what is built.
* `DiskLayout.exists_isListedIn_iff`: The disks that can be listed.
* `configure_ending_congr`: A plan depends on the disks that are looked up.
* `lookup_of_isListedIn`: Both probes find the same disk.
* `lookup_ofLength_eq_error`: A disk of a layout that no listing describes.
-/

namespace DiskPlan

/-! ### Listings of disks -/

/-- The word of a listing for a kind of partition table. -/
def TableKind.listed : TableKind → String
  | gpt => "gpt"
  | msdos => "dos"

/-- A device in a listing that describes a partition of a disk with a path and a sector
    size. Its filesystem can be listed under any of its names. -/
structure PartitionLayout.IsListedAs (device : String) (sectorSize : Int) (p : PartitionLayout)
    (v : Json) : Prop where
  path : v.field? "path" =
    some (.text (device ++ Disk.numberSeparator device ++ Decimal.text p.number))
  kind : v.field? "type" = some (.text "part")
  start : v.field? "start" = some (.int p.first)
  size : v.field? "size" = some (.int ((p.last - p.first + 1) * sectorSize))
  filesystem : ∃ word : Option Label,
    v.field? "fstype" = some ((word.map Json.ofLabel).getD .null) ∧
    (∀ l ∈ word, l.glyphs ≠ []) ∧ p.filesystem = word.map fun l => .ofReport l.repaired

/-- A device in a listing that describes a disk of a layout. -/
structure DiskLayout.IsListedAs (device : String) (d : DiskLayout) (v : Json) : Prop where
  path : v.field? "path" = some (.text device)
  size : v.field? "size" = some (.int (d.sectors * d.sectorSize))
  sectorSize : v.field? "log-sec" = some (.int d.sectorSize)
  table : v.field? "pttype" = some (.ofText? (d.table.map TableKind.listed))
  model : v.field? "model" = some (.ofLabel d.model)
  children : ∃ children, v.field? "children" = some (.list children) ∧
    List.Forall₂ (PartitionLayout.IsListedAs device d.sectorSize) d.partitions children

/-- A text that is read as a listing with a disk of a layout as its first device. -/
def DiskLayout.IsListedIn (device : String) (d : DiskLayout) (output : String) : Prop :=
  ∃ v w others, Json.parse output = .ok v ∧ v.field? "blockdevices" = some (.list (w :: others)) ∧
    d.IsListedAs device w

/-- A disk of a layout of which a listing can say everything. -/
structure DiskLayout.IsListable (d : DiskLayout) : Prop where
  model_ne : d.model.glyphs ≠ []
  model_stripped : d.model.stripped = d.model
  partitions : ∀ p ∈ d.partitions, p.role = .primary ∧ p.name = none ∧ p.flags = []

/-- A disk whose sizes in bytes are within the limit on numerals. -/
structure DiskLayout.HasWritableSizes (d : DiskLayout) : Prop where
  disk : Decimal.isWritable (d.sectors * d.sectorSize) = true
  partitions : ∀ p ∈ d.partitions,
    Decimal.isWritable ((p.last - p.first + 1) * d.sectorSize) = true

/-! ### What is read from a listing -/

namespace DeviceListing

variable {name : String} {fields : Json.Fields}

/-- A whole number of a listing is read as it is. -/
theorem numberIn_of_int {absent n : Int} (h : Json.get? name fields = some (.int n)) :
    numberIn absent name fields = .ok n := by
  unfold numberIn
  rw [h]
  rfl

/-- Bytes that are a whole number of sectors are that many sectors. -/
theorem inSectors_mul {sectorSize : Int} (h : 0 < sectorSize) (sectors : Int) :
    inSectors (sectors * sectorSize) sectorSize = .ok sectors := by
  unfold inSectors
  rw [if_neg (Int.ne_of_gt h), Int.mul_fdiv_cancel _ (Int.ne_of_gt h)]

/-- A label that is there is read as it is. -/
theorem labelIn?_of_label {l : Label} (method : String) (hl : l.glyphs ≠ [])
    (h : Json.get? name fields = some (.ofLabel l)) :
    labelIn? method name fields = .ok (some l) := by
  unfold labelIn?
  rw [h]
  unfold Json.ofLabel
  dsimp only
  split
  · rename_i s hs
    -- A text that is there is not empty, so it counts as one that says something.
    have hne : s ≠ "" := by
      rintro rfl
      rw [← Label.ofString_of_text? hs] at hl
      exact hl rfl
    rw [if_neg (by simpa [Json.isTruthy] using hne)]
    exact congrArg (fun l => Except.ok (some l)) (Label.ofString_of_text? hs)
  · rw [if_neg (by simpa [Json.isTruthy] using hl)]

/-- A label that may be missing is read as it is, and as missing if there is none. -/
theorem labelIn?_of_label? {word : Option Label} (method : String)
    (hword : ∀ l ∈ word, l.glyphs ≠ [])
    (h : Json.get? name fields = some ((word.map Json.ofLabel).getD .null)) :
    labelIn? method name fields = .ok word := by
  cases word with
  | none =>
      unfold labelIn?
      rw [h]
      rfl
  | some l => exact labelIn?_of_label method (hword l rfl) h

/-- The word that is listed for a kind of table is read as that kind. A disk without a table has
    no word at all. -/
theorem tableKind_of_listed (table : Option TableKind) :
    tableKind (.ofText? (table.map TableKind.listed)) = .ok table := by
  cases table with
  | none => rfl
  | some kind =>
      cases kind <;> decide

/-- The number of a partition is read from the path that a disk gives it. -/
theorem trailingNumber?_of_isWritable (path : String) {n : Nat}
    (h : Decimal.isWritable n = true) :
    trailingNumber? (path ++ Disk.numberSeparator path ++ Decimal.text n) = some (.ok n) := by
  unfold trailingNumber?
  rw [trailingDigits_of_partitionPath? (Disk.partitionPath?_of_isWritable path h)]
  have hne : n.repr.toList.isEmpty = false :=
    List.isEmpty_eq_false_iff.mpr (Decimal.toList_repr_ne_nil n)
  have hlength := (Json.length_repr_le_iff n).mpr h
  rw [Int.natAbs_natCast] at hlength
  -- The digits at the end of the path are those of the number, and there are some. They are within
  -- the limit, since the path was written.
  dsimp only
  rw [hne, if_neg Bool.false_ne_true, if_pos hlength, Decimal.ofDecimalDigits_repr]

end DeviceListing

/-- What stands behind a path under `/dev/` is under `/dev/` too. -/
theorem devicePath_append {path : String} (h : ∃ name, path = devicePath name) (rest : String) :
    devicePath (path ++ rest) = path ++ rest := by
  -- A disk is given its path under the directory of devices, whichever form it was named in.
  have hunder : ∃ own, path = "/dev/" ++ own := by
    rcases h with ⟨name, rfl⟩
    rcases devicePath_cases name with ⟨own, hown, hsame⟩ | hlonger
    · exact ⟨own, hsame.trans hown⟩
    · exact ⟨name, hlonger⟩
  rcases hunder with ⟨own, rfl⟩
  rw [String.append_assoc, devicePath_of_append]

/-- What is listed for a partition is read as the partition that is built. -/
theorem PartitionLayout.partition?_of_isListedAs {path : String} {sectorSize : Int}
    {p : PartitionLayout} {v : Json} (hunder : ∃ name, path = devicePath name)
    (hsize : 0 < sectorSize) (hp : p.IsSound)
    (hplain : p.role = .primary ∧ p.name = none ∧ p.flags = [])
    (h : p.IsListedAs path sectorSize v) :
    DeviceListing.partition? v sectorSize = .ok (some (p.built path)) := by
  rcases Json.field?_eq_some_iff.mp h.path with ⟨fields, rfl, hget⟩
  rcases h.filesystem with ⟨word, hword, hne, hfilesystem⟩
  have hpath : DeviceListing.path fields =
      .ok (path ++ Disk.numberSeparator path ++ Decimal.text p.number) := by
    unfold DeviceListing.path
    rw [hget, Option.some_or]
    dsimp only
    rw [String.append_assoc, devicePath_append hunder]
  have hkind : DeviceListing.isPartition fields = true := by
    unfold DeviceListing.isPartition
    rw [show Json.get? "type" fields = _ from h.kind]
    decide
  have hnumber : DeviceListing.trailingNumber?
      -- The number of a layout is a whole number of any sign, and the one that is found is not
      -- negative. A partition of a layout has a number from one on.
      (path ++ Disk.numberSeparator path ++ Decimal.text p.number) = some (.ok p.number.toNat) := by
    have hn : p.number = p.number.toNat := (Int.toNat_of_nonneg (by have := hp.number; omega)).symm
    have hwritable := hp.number_isWritable
    rw [hn] at hwritable ⊢
    exact DeviceListing.trailingNumber?_of_isWritable path hwritable
  have hfirst : DeviceListing.numberIn 0 "start" fields = .ok p.first :=
    DeviceListing.numberIn_of_int h.start
  have hbytes : DeviceListing.numberIn 0 "size" fields =
      .ok ((p.last - p.first + 1) * sectorSize) := DeviceListing.numberIn_of_int h.size
  have hsectors := DeviceListing.inSectors_mul hsize (p.last - p.first + 1)
  have hlabel : DeviceListing.labelIn? "lower" "fstype" fields = .ok word :=
    DeviceListing.labelIn?_of_label? _ hne hword
  -- A partition has at least two sectors, so it is not made any longer.
  have hlast : p.first + max (p.last - p.first + 1) 1 - 1 = p.last := by
    have hlt := hp.lt
    omega
  have hnat : (p.number.toNat : Int) = p.number :=
    Int.toNat_of_nonneg (by have := hp.number; omega)
  -- All that a listing says has been read by now. What it cannot say is what the layout leaves
  -- out.
  rw [DeviceListing.partition?_of_answers hpath hkind hnumber hfirst hbytes hsectors hlabel]
  unfold PartitionLayout.built
  rw [hlast, hnat, hfilesystem, hplain.1, hplain.2.1, hplain.2.2]

/-- What is listed for a disk is read as the disk that is built. -/
theorem DiskLayout.disk_of_isListedAs {path : String} {d : DiskLayout} {v : Json}
    (hunder : ∃ name, path = devicePath name) (hd : d.IsSound) (hplain : d.IsListable)
    (h : d.IsListedAs path v) : DeviceListing.disk v = .ok (d.built path) := by
  rcases Json.field?_eq_some_iff.mp h.path with ⟨fields, rfl, hget⟩
  have hsize : 0 < d.sectorSize := Int.lt_of_lt_of_le (by decide) hd.sectorSize
  have hpath : DeviceListing.path fields = .ok path := by
    unfold DeviceListing.path
    rw [hget, Option.some_or]
    rcases hunder with ⟨name, rfl⟩
    exact congrArg Except.ok (devicePath_devicePath name)
  have hsectorSize : DeviceListing.sectorSize fields = .ok d.sectorSize := by
    refine bind_eq_ok_iff.mpr ⟨_, DeviceListing.numberIn_of_int h.sectorSize, ?_⟩
    rw [if_neg (Int.ne_of_gt hsize)]
    rfl
  have hbytes : DeviceListing.numberIn 0 "size" fields = .ok (d.sectors * d.sectorSize) :=
    DeviceListing.numberIn_of_int h.size
  have hmodel : DeviceListing.labelIn? "strip" "model" fields = .ok (some d.model) :=
    DeviceListing.labelIn?_of_label _ hplain.model_ne h.model
  have htable : DeviceListing.tableKind ((Json.get? "pttype" fields).getD .null) = .ok d.table := by
    rw [show Json.get? "pttype" fields = _ from h.table]
    exact DeviceListing.tableKind_of_listed d.table
  have hpartitions : DeviceListing.partitions fields d.sectorSize =
      .ok (d.partitions.map (PartitionLayout.built path)) := by
    rcases h.children with ⟨children, hchildren, hlisted⟩
    -- Every child is read as a partition, so none is left out of the list.
    have hread : children.mapM (fun child => DeviceListing.partition? child d.sectorSize) =
        .ok (d.partitions.map fun p => some (p.built path)) := by
      rw [mapM_eq_ok_iff, List.forall₂_map_right_iff]
      refine List.Forall₂.flip (((List.forall₂_and_left _ _).mpr
        ⟨fun _ hp => hp, hlisted⟩).imp fun p child hchild => ?_)
      exact PartitionLayout.partition?_of_isListedAs hunder hsize (hd.partitions p hchild.1)
        (hplain.partitions p hchild.1) hchild.2
    unfold DeviceListing.partitions
    refine bind_eq_ok_iff.mpr ⟨children, ?_, bind_eq_ok_iff.mpr ⟨_, hread, ?_⟩⟩
    · rw [show Json.get? "children" fields = _ from hchildren]
      rfl
    · rw [List.filterMap_map]
      exact congrArg Except.ok (List.filterMap_eq_map ▸ rfl)
  -- A model that is listed is read without the white space around it, and this one has none.
  rw [DeviceListing.disk_of_answers hpath hsectorSize hbytes (DeviceListing.inSectors_mul hsize _)
    hmodel htable hpartitions, Option.map_some, hplain.model_stripped]
  rfl

/-- The first device of a listing is the disk that is found. Whatever is listed behind it is
    never looked at. -/
theorem listedDisk?_of_isListedIn {path output : String} {d : DiskLayout}
    (hunder : ∃ name, path = devicePath name) (hd : d.IsSound) (hplain : d.IsListable)
    (h : d.IsListedIn path output) :
    SystemProbe.listedDisk? output = .ok (some (d.built path)) := by
  rcases h with ⟨v, w, others, hparse, hdevices, hlisted⟩
  rcases Json.field?_eq_some_iff.mp hdevices with ⟨fields, rfl, hget⟩
  have hblocks : DeviceListing.blocks output = .ok (.list (w :: others)) := by
    unfold DeviceListing.blocks
    rw [hparse]
    refine bind_eq_ok_iff.mpr ⟨fields, rfl, ?_⟩
    rw [hget]
    rfl
  refine bind_eq_ok_iff.mpr ⟨_, hblocks, bind_eq_ok_iff.mpr ⟨some w, rfl, ?_⟩⟩
  exact bind_eq_ok_iff.mpr ⟨_, d.disk_of_isListedAs hunder hd hplain hlisted, rfl⟩

/-! ### Which disks can be listed -/

/-- A partition of a layout as a listing describes it. -/
def PartitionLayout.listed (device : String) (sectorSize : Int) (p : PartitionLayout) : Json :=
  .object
    [("path", .text (device ++ Disk.numberSeparator device ++ Decimal.text p.number)),
      ("type", .text "part"),
      ("start", .int p.first),
      ("size", .int ((p.last - p.first + 1) * sectorSize)),
      ("fstype", .ofText? (p.filesystem.map Filesystem.name))]

/-- A disk of a layout as a listing describes it. -/
def DiskLayout.listed (device : String) (d : DiskLayout) : Json :=
  .object
    [("path", .text device),
      ("size", .int (d.sectors * d.sectorSize)),
      ("log-sec", .int d.sectorSize),
      ("pttype", .ofText? (d.table.map TableKind.listed)),
      ("model", .ofLabel d.model),
      ("children", .list (d.partitions.map (PartitionLayout.listed device d.sectorSize)))]

/-- A listing of a disk of a layout. -/
def DiskLayout.listing (device : String) (d : DiskLayout) : Json :=
  .object [("blockdevices", .list [d.listed device])]

/-- The listing of a partition describes it. -/
theorem PartitionLayout.isListedAs_listed (device : String) (sectorSize : Int)
    (p : PartitionLayout) : p.IsListedAs device sectorSize (p.listed device sectorSize) := by
  -- Its file system is listed under its own name, which is one of the names it is found under.
  refine ⟨rfl, rfl, rfl, rfl, p.filesystem.map fun fs => .ofString fs.name, ?_, ?_, ?_⟩
  · rw [Option.map_map]
    refine congrArg some ?_
    cases p.filesystem with
    | none => rfl
    | some fs => exact (Json.ofLabel_ofString fs.name).symm
  · cases p.filesystem with
    | none => exact fun _ hl => absurd hl (Option.not_mem_none _)
    | some fs =>
        rintro _ ⟨⟩
        cases fs <;> decide
  · rw [Option.map_map]
    cases p.filesystem with
    | none => rfl
    | some fs =>
        rw [Option.map_some, Function.comp_apply, Json.repaired_ofString,
          Filesystem.ofReport_name]

/-- The listing of a disk describes it, its partitions one by one and in their order. -/
theorem DiskLayout.isListedAs_listed (device : String) (d : DiskLayout) :
    d.IsListedAs device (d.listed device) := by
  refine ⟨rfl, rfl, rfl, rfl, rfl, _, rfl, ?_⟩
  rw [List.forall₂_map_right_iff, List.forall₂_same]
  exact fun p _ => p.isListedAs_listed device d.sectorSize

/-- The listing of a partition can be spelled, as long as its size can. Its start and its end are
    numbers of the layout, so only the product has to be asked for. -/
theorem PartitionLayout.isSpelled_listed (device : String) {sectorSize : Int} {p : PartitionLayout}
    (hp : p.IsSound) (hsize : Decimal.isWritable ((p.last - p.first + 1) * sectorSize) = true)
    (depth : Nat) : Json.IsSpelled False (depth + 1) (p.listed device sectorSize) := by
  refine .object ?_ (show ["path", "type", "start", "size", "fstype"].Nodup by decide)
  simp only [List.forall_mem_cons]
  exact ⟨.text _, .text _, .int hp.first_isWritable, .int hsize, Json.isSpelled_ofText? _ _ _,
    fun _ hf => absurd hf List.not_mem_nil⟩

/-- A disk with sizes within the limit can be listed. -/
theorem DiskLayout.isSpelled_listing (device : String) {d : DiskLayout} (hd : d.IsSound)
    (hsizes : d.HasWritableSizes) (depth : Nat) :
    Json.IsSpelled False (depth + 5) (d.listing device) := by
  have hchildren : Json.IsSpelled False (depth + 2)
      (.list (d.partitions.map (PartitionLayout.listed device d.sectorSize))) := by
    refine .list (List.forall_mem_map.mpr fun p hp => ?_)
    exact PartitionLayout.isSpelled_listed device (hd.partitions p hp)
      (hsizes.partitions p hp) depth
  -- The name of a field stands in an object once.
  have hdisk : Json.IsSpelled False (depth + 3) (d.listed device) := by
    refine .object ?_
      (show ["path", "size", "log-sec", "pttype", "model", "children"].Nodup by decide)
    simp only [List.forall_mem_cons]
    exact ⟨.text _, .int hsizes.disk, .int hd.sectorSize_isWritable, Json.isSpelled_ofText? _ _ _,
      Json.isSpelled_ofLabel hd.model _ _, hchildren, fun _ hf => absurd hf List.not_mem_nil⟩
  have hdevices : Json.IsSpelled False (depth + 4) (.list [d.listed device]) :=
    .list (List.forall_mem_singleton.mpr hdisk)
  exact .object (List.forall_mem_singleton.mpr hdevices) (List.nodup_singleton _)

/-- The written listing of a disk is read as a listing of it. -/
theorem DiskLayout.isListedIn_listing (device : String) {d : DiskLayout} (hd : d.IsSound)
    (hsizes : d.HasWritableSizes) : d.IsListedIn device (d.listing device).indented :=
  ⟨_, _, _, Json.parse_indented (d.isSpelled_listing device hd hsizes (Json.depthLimit - 5)), rfl,
    d.isListedAs_listed device⟩

/-- A disk can be listed exactly if its sizes are within the limit. A text that was read holds no
    number beyond it, and sizes within it can be written. -/
theorem DiskLayout.exists_isListedIn_iff (device : String) {d : DiskLayout} (hd : d.IsSound) :
    (∃ output, d.IsListedIn device output) ↔ d.HasWritableSizes := by
  constructor
  · rintro ⟨output, v, w, others, hparse, hdevices, hlisted⟩
    have hv : v.IsRead := ⟨_, Json.isSpelled_of_parse hparse⟩
    -- The device stands in the text that was read, and so do its sizes.
    have hw : w.IsRead := (hv.of_field? hdevices).of_mem w List.mem_cons_self
    rcases hlisted.children with ⟨children, hchildren, hall⟩
    refine ⟨(hw.of_field? hlisted.size).isWritable, ?_⟩
    exact forall_mem_of_forall₂ hall.flip fun child hchild p hp =>
      (((hw.of_field? hchildren).of_mem child hchild).of_field? hp.size).isWritable
  · exact fun hsizes => ⟨_, d.isListedIn_listing device hd hsizes⟩

/-! ### Plans over two probes -/

namespace Outcome

variable {σ α β : Type}

/-- Where an outcome ends and its answer, without the log. -/
def ending (o : Outcome σ α) : σ × Except Failure α :=
  (o.state, o.answer)

/-- Actions that end alike go on alike, whatever they have logged so far. -/
theorem andThen_ending_congr {o o' : Outcome σ α} {next next' : σ → α → Outcome σ β}
    (h : o.ending = o'.ending) (hnext : ∀ s a, (next s a).ending = (next' s a).ending) :
    (o.andThen next).ending = (o'.andThen next').ending := by
  -- Neither the state nor the answer depends on the log.
  obtain ⟨hstate, hanswer⟩ := Prod.mk.inj h
  unfold andThen
  rw [← hanswer, ← hstate]
  cases o.answer with
  | error f => rfl
  | ok a => exact hnext o.state a

end Outcome

/-- Disks are registered as they are found, so probes that find the same are alike. -/
theorem registerDisks_ending_congr {probe probe' : Probe} {names : List String}
    (h : ∀ name ∈ names, (probe.lookup name).answer = (probe'.lookup name).answer)
    (t : Topology) :
    (registerDisks probe names t).ending = (registerDisks probe' names t).ending := by
  induction names generalizing t with
  | nil => rfl
  | cons name rest ih =>
      rw [List.forall_mem_cons] at h
      -- The answers of the probes agree, and what is done with an answer is the same on both
      -- sides.
      refine Outcome.andThen_ending_congr (Prod.ext rfl h.1) fun t found => ?_
      cases found with
      | none => rfl
      | some d => exact Outcome.andThen_ending_congr rfl fun t _ => ih h.2 t

/-- A plan depends on the disks that are looked up, and on nothing else in a probe. -/
-- After the disks are registered no probe is asked any more.
theorem configure_ending_congr {probe probe' : Probe} {r : Requests}
    (h : ∀ name ∈ r.disks, (probe.lookup name).answer = (probe'.lookup name).answer) :
    (configure probe r).ending = (configure probe' r).ending :=
  Outcome.andThen_ending_congr (registerDisks_ending_congr h .empty) fun _ _ => rfl

/-! ### Agreement -/

/-- Whether a disk of a layout has a name. -/
def DiskLayout.isNamed (d : DiskLayout) (name : String) : Bool :=
  d.path.any fun path => isPathNamed path name

/-- The first disk of a layout that has a name is the one that is found by it. -/
theorem lookup_static_of_find? {layouts : List DiskLayout} {name path : String}
    {layout : DiskLayout} (hfound : layouts.find? (fun d => d.isNamed name) = some layout)
    (hpath : layout.path = some path) :
    ((Probe.static (Layout.built layouts)).lookup name).answer =
      .ok (some (layout.built path)) := by
  -- Being named is a matter of the path, which a disk of a layout keeps when it is built.
  have hnamed : ∀ d : DiskLayout, ((d.path.map d.built).any fun d => d.isNamed name) =
      d.isNamed name := by
    intro d
    unfold DiskLayout.isNamed
    rw [Option.any_map]
    rfl
  refine lookup_static_eq_ok_iff.mpr ?_
  unfold Layout.built
  rw [List.find?_filterMap]
  simp only [hnamed]
  rw [hfound, Option.bind_some, hpath]
  rfl

/-- A disk of a layout is found by its path. A text that is read as a listing of it exists
    exactly if its sizes are within the limit on numerals, and with any such text a running
    system finds the same disk. So plans for it end alike, whatever they ask for. -/
theorem lookup_of_isListedIn {contents device : String} {layouts : List DiskLayout}
    {layout : DiskLayout} (hparse : Layout.parse contents = .ok layouts)
    (hfound : layouts.find? (fun d => d.isNamed device) = some layout)
    (hpath : layout.path = some device) (hplain : layout.IsListable) :
    (∀ path, (Layout.load path contents).answer = .ok (.static (Layout.built layouts))) ∧
      ((Probe.static (Layout.built layouts)).lookup device).answer =
        .ok (some (layout.built device)) ∧
      ((∃ output, layout.IsListedIn device output) ↔ layout.HasWritableSizes) ∧
      ∀ output errors execute settings, layout.IsListedIn device output →
        execute (SystemProbe.invocation settings device) = .finished 0 output errors →
        ((SystemProbe.probe execute settings).lookup device).answer =
          .ok (some (layout.built device)) ∧
        ∀ r : Requests, r.disks = [device] →
          (configure (SystemProbe.probe execute settings) r).ending =
            (configure (.static (Layout.built layouts)) r).ending := by
  have hsound := Layout.isSound_of_parse hparse layout (List.mem_of_find?_eq_some hfound)
  have hunder : ∃ name, device = devicePath name := hsound.path device hpath
  have hstatic := lookup_static_of_find? hfound hpath
  refine ⟨fun path => Layout.load_of_parse path hparse, hstatic,
    layout.exists_isListedIn_iff device hsound, ?_⟩
  -- The system is asked about one disk, and what it lists first is that disk.
  intro output errors execute settings hlisted hrun
  have hsystem := (SystemProbe.lookup_of_run execute settings hrun).trans
    (listedDisk?_of_isListedIn hunder hsound hplain hlisted)
  -- The disk of the plan is the only one that is looked up.
  refine ⟨hsystem, fun r hr => configure_ending_congr ?_⟩
  rw [hr, List.forall_mem_singleton]
  exact hsystem.trans hstatic.symm

/-- A layout with a disk whose path ends in a digit, and whose sectors are large. -/
def Layout.ofDigits : String :=
  "\x7b\"disks\":[\x7b\"device_path\":\"nvme0n1\",\"sectors\":50000,\"sector_size\":4096," ++
    "\"table\":\"msdos\",\"partitions\":[\x7b\"number\":12,\"start_sector\":2048," ++
    "\"end_sector\":4095,\"filesystem\":\"VFAT\"\x7d]\x7d]\x7d"

/-- The disk that the layout describes. -/
def DiskLayout.ofDigits : DiskLayout where
  path := some "/dev/nvme0n1"
  sectors := 50000
  sectorSize := 4096
  model := .ofString "Unknown"
  table := some .msdos
  partitions := [⟨12, 2048, 4095, .primary, some .fat32, none, []⟩]

/-- A running system with the disk. -/
def Execution.ofDigits : Execution :=
  .finished 0 (DiskLayout.ofDigits.listing "/dev/nvme0n1").indented ""

/-- A partition on the disk, and a mount point for one that is there already. -/
def Requests.ofDigits : Requests where
  disks := ["/dev/nvme0n1"]
  tables := []
  deletes := []
  moves := []
  reuses := ["nvme0n1:12:fat32:mount=/boot"]
  creates := ["nvme0n1:primary:20000:end:ext4:mount=/"]
  logicals := []

/-- The disk is found in the layout and on the system, and the plan is made on both. -/
theorem lookup_of_isListedIn_ofDigits :
    let system := SystemProbe.probe (fun _ => .ofDigits) ⟨.ofString "lsblk", 30⟩
    let layout := Probe.static [DiskLayout.ofDigits.built "/dev/nvme0n1"]
    (Layout.load "layout.json" Layout.ofDigits).answer = .ok layout ∧
      (system.lookup "/dev/nvme0n1").answer =
        .ok (some (DiskLayout.ofDigits.built "/dev/nvme0n1")) ∧
      (configure system .ofDigits).ending = (configure layout .ofDigits).ending ∧
      (configure layout .ofDigits).answer = .ok () := by
  intro system layout
  have hparse : Layout.parse Layout.ofDigits = .ok [.ofDigits] := by decide +kernel
  have hfound : [DiskLayout.ofDigits].find? (fun d => d.isNamed "/dev/nvme0n1") =
      some .ofDigits := by decide +kernel
  have hplain : DiskLayout.ofDigits.IsListable := ⟨by decide, by decide, by decide⟩
  have hsizes : DiskLayout.ofDigits.HasWritableSizes := by
    have hlimit : 20 ≤ Decimal.digitLimit := by decide
    exact ⟨Decimal.isWritable_of_natAbs_lt (by decide) hlimit,
      List.forall_mem_singleton.mpr (Decimal.isWritable_of_natAbs_lt (by decide) hlimit)⟩
  -- Both sizes of the disk are far below the limit.
  have hsound := Layout.isSound_of_parse hparse .ofDigits (List.mem_singleton_self _)
  rcases lookup_of_isListedIn hparse hfound rfl hplain with ⟨hload, _, _, hall⟩
  rcases hall _ "" (fun _ => .ofDigits) ⟨.ofString "lsblk", 30⟩
    (DiskLayout.isListedIn_listing "/dev/nvme0n1" hsound hsizes) rfl with ⟨hsystem, hplans⟩
  exact ⟨hload "layout.json", hsystem, hplans .ofDigits rfl, by decide +kernel⟩

/-- A disk with a partition of a length, and with a sector size. -/
def DiskLayout.ofLength (length sectorSize : Nat) : DiskLayout where
  path := some "/dev/sda"
  sectors := 1000
  sectorSize := sectorSize
  model := .ofString "Test"
  table := some .gpt
  partitions := [⟨1, 0, length - 1, .primary, none, none, []⟩]

/-- A listing up to the size of the first partition of its first disk. -/
def DeviceListing.untilSize : String :=
  "\x7b\"blockdevices\":[\x7b\"children\":[\x7b\"size\":"

/-- A listing of the disk, its partition first. -/
def DeviceListing.ofLength (length sectorSize : Nat) : String :=
  untilSize ++ Decimal.text (length * sectorSize : Nat) ++ ("," ++
    ("\"path\":\"/dev/sda1\",\"type\":\"part\",\"start\":0,\"fstype\":null\x7d]," ++
      "\"path\":\"/dev/sda\",\"size\":" ++ Decimal.text (1000 * sectorSize : Nat) ++
      ",\"log-sec\":" ++ Decimal.text sectorSize ++
      ",\"pttype\":\"gpt\",\"model\":\"Test\"\x7d]\x7d"))

theorem DeviceListing.toList_untilSize : untilSize.toList =
    '\x7b' :: ((Json.quoted "blockdevices").toList ++ ':' :: '[' :: '\x7b' ::
      ((Json.quoted "children").toList ++ ':' :: '[' :: '\x7b' ::
        ((Json.quoted "size").toList ++ [':']))) := by decide +kernel

namespace Json

/-- The size is inside of two lists and three objects. -/
theorem scanValue_untilSize_of_error {depth fuel : Nat} {c : Char} {cs : List Char} {f : Fault}
    (hspace : isSpace c = false) (h : scanValue depth fuel (c :: cs) = .error f) :
    scanValue (depth + 5) (fuel + 15) (DeviceListing.untilSize.toList ++ c :: cs) = .error f := by
  -- From the number outwards each list or object fails because what stands in it does.
  have hpartition := scanValue_field_of_error "size" hspace h
  have hchildren := scanValue_item_of_error (by decide) (by decide) hpartition
  have hdisk := scanValue_field_of_error "children" (by decide) hchildren
  have hdevices := scanValue_item_of_error (by decide) (by decide) hdisk
  have hlisting := scanValue_field_of_error "blockdevices" (by decide) hdevices
  rw [DeviceListing.toList_untilSize]
  simp only [List.cons_append, List.append_assoc, List.nil_append]
  exact hlisting

/-- A size beyond the limit keeps a listing from being read. -/
theorem parse_of_overlong {n : Nat} (h : Decimal.isWritable n = false) {back : String}
    (hback : Stops back.toList) :
    parse (DeviceListing.untilSize ++ Decimal.text n ++ back) =
      .error (.numeral (.reading n.repr.toList.length)) := by
  rcases exists_digit_of_repr n with ⟨c, tail, hdigits, hc⟩
  have hspace := isSpace_of_isDigit hc
  have htext : (DeviceListing.untilSize ++ Decimal.text n ++ back).toList =
      DeviceListing.untilSize.toList ++ c :: (tail ++ back.toList) := by
    -- The text up to the size is fixed, and what comes behind it plays no role.
    rw [String.toList_append, String.toList_append, List.append_assoc, ← List.cons_append,
      ← hdigits]
    rfl
  have hscan : ∀ fuel, scanValue depthLimit (fuel + 16)
      (DeviceListing.untilSize.toList ++ c :: (tail ++ back.toList)) =
        .error (.numeral (.reading n.repr.toList.length)) := by
    intro fuel
    have hnumber := scanValue_overlong (depthLimit - 5) fuel h hback
    rw [hdigits, List.cons_append, ← hdigits] at hnumber
    exact scanValue_untilSize_of_error hspace hnumber
  -- The reader has one step for every character and some to spare, so the limit on steps is not
  -- what stops it.
  have hlength : 5 ≤ (DeviceListing.untilSize.toList ++ c :: (tail ++ back.toList)).length := by
    rw [List.length_append]
    exact Nat.le_add_right_of_le (by decide +kernel)
  have hbegins := htext
  rw [DeviceListing.toList_untilSize, List.cons_append] at hbegins
  rw [parse_of_begins hbegins (by decide) (by decide), htext]
  generalize DeviceListing.untilSize.toList ++ c :: (tail ++ back.toList) = cs at hscan hlength
  rw [show 3 * cs.length + 3 = 3 * cs.length - 13 + 16 by omega, hscan]

end Json

/-- A listing can say everything about the disk. -/
theorem DiskLayout.isListable_ofLength (length sectorSize : Nat) :
    (ofLength length sectorSize).IsListable where
  model_ne := show (Label.ofString "Test").glyphs ≠ [] by decide
  model_stripped := show (Label.ofString "Test").stripped = .ofString "Test" by decide
  partitions := List.forall_mem_singleton.mpr ⟨rfl, rfl, rfl⟩

/-- The disk is found in a layout. -/
theorem lookup_static_ofLength (length sectorSize : Nat) :
    ((Probe.static (Layout.built [.ofLength length sectorSize])).lookup "/dev/sda").answer =
      -- The disk is the only one in the layout, and its path is its name.
      .ok (some ((DiskLayout.ofLength length sectorSize).built "/dev/sda")) := by
  refine lookup_static_of_find? ?_ rfl
  have hnamed : isPathNamed "/dev/sda" "/dev/sda" = true := by decide
  exact List.find?_cons_of_pos hnamed

/-- No running system finds the disk if the size of its partition is beyond the limit. -/
theorem lookup_system_ofLength {length sectorSize : Nat}
    (h : Decimal.isWritable (length * sectorSize : Nat) = false) (settings : ProbeSettings)
    (name : String) :
    ∃ digits, ((SystemProbe.probe
      (fun _ => .finished 0 (DeviceListing.ofLength length sectorSize) "") settings).lookup
        name).answer = .error (.numeral (.reading digits)) := by
  have hback : ∀ rest, Json.Stops ("," ++ rest).toList := by
    intro rest
    rw [String.toList_append]
    exact Json.stops_cons (Or.inl rfl) _
  have hparse : ∃ digits, Json.parse (DeviceListing.ofLength length sectorSize) =
      .error (.numeral (.reading digits)) := ⟨_, Json.parse_of_overlong h (hback _)⟩
  rcases hparse with ⟨digits, hparse⟩
  refine ⟨digits, (SystemProbe.lookup_of_run _ settings rfl).trans ?_⟩
  unfold SystemProbe.listedDisk? DeviceListing.blocks
  rw [hparse]
  rfl

/-- The numbers of a disk in a layout. -/
def DiskLayout.numbers (d : DiskLayout) : List Int :=
  [d.sectors, d.sectorSize] ++ d.partitions.flatMap fun p => [p.number, p.first, p.last]

/-- The numbers of the disk are small where the length of its partition and the size of its
    sectors are. -/
theorem DiskLayout.natAbs_lt_ofLength {length sectorSize bound : Nat} (hpos : 0 < length)
    (hlength : length < bound) (hsectorSize : sectorSize < bound) (hsectors : 1000 < bound) :
    ∀ n ∈ (ofLength length sectorSize).numbers, n.natAbs < bound := by
  unfold numbers ofLength
  simp only [List.flatMap_singleton, List.cons_append, List.nil_append, List.forall_mem_cons]
  refine ⟨?_, ?_, ?_, ?_, ?_, fun _ hn => absurd hn List.not_mem_nil⟩
  all_goals omega

/-- The disk is one that can be read from a layout. -/
theorem DiskLayout.isSound_ofLength {length sectorSize : Nat} (hlength : 1 < length)
    (hsectorSize : 512 ≤ sectorSize)
    (hnumbers : ∀ n ∈ (ofLength length sectorSize).numbers, n.natAbs < 10 ^ 4000) :
    (ofLength length sectorSize).IsSound := by
  -- The sizes that a layout spells are not products, so each is within the limit on its own.
  have hwritable : ∀ n ∈ (ofLength length sectorSize).numbers, Decimal.isWritable n = true :=
    fun n hn => Decimal.isWritable_of_natAbs_lt (k := 4000) (hnumbers n hn) (by decide)
  unfold numbers ofLength at hwritable
  simp only [List.flatMap_singleton, List.cons_append, List.nil_append, List.forall_mem_cons]
    at hwritable
  rcases hwritable with ⟨hsectors, hsize, hnumber, hfirst, hlast, _⟩
  refine ⟨?_, show (0 : Int) < 1000 by decide, Int.ofNat_le.mpr hsectorSize, hsectors, hsize,
    Json.isSpelled_ofString "Test", List.forall_mem_singleton.mpr ?_⟩
  · rintro path ⟨⟩
    exact ⟨"/dev/sda", by decide⟩
  · refine ⟨Int.le_refl 1, Int.le_refl 0, ?_, hnumber, hfirst, hlast, fun _ hl => absurd hl
      (Option.not_mem_none _)⟩
    change (0 : Int) < length - 1
    omega

/-- A product of powers of ten is beyond the limit as soon as the exponents add up to it. -/
theorem Decimal.isWritable_pow_mul (j k : Nat) (h : digitLimit ≤ j + k) :
    isWritable (10 ^ j * 10 ^ k : Nat) = false := by
  unfold isWritable
  rw [Int.natAbs_natCast, ← Nat.pow_add]
  -- The powers are not to be computed.
  generalize digitLimit = limit at h ⊢
  exact decide_eq_false (Nat.not_lt.mpr (Nat.pow_le_pow_right (by decide) h))

/-- The bytes of the disk are a thousand times its sector size. -/
theorem DiskLayout.isWritable_bytes_ofLength (length : Nat) {sectorSize k : Nat}
    (h : sectorSize < 10 ^ k) (hk : k + 3 ≤ Decimal.digitLimit) :
    Decimal.isWritable
      ((ofLength length sectorSize).sectors * (ofLength length sectorSize).sectorSize) = true := by
  refine Decimal.isWritable_of_natAbs_lt (k := k + 3) ?_ hk
  change ((1000 : Int) * (sectorSize : Int)).natAbs < _
  rw [Int.natAbs_mul, Int.natAbs_natCast, Nat.pow_add]
  generalize 10 ^ k = bound at h
  have hthousand : 10 ^ 3 = 1000 := rfl
  rw [hthousand]
  change 1000 * sectorSize < _
  omega

/-- The disk is one of a layout, with numbers of at most 4000 digits, and it is found there.
    The size of its partition has 4400 digits, so no running system finds the disk. -/
theorem lookup_ofLength_eq_error :
    let layout := DiskLayout.ofLength (10 ^ 3999) (10 ^ 400)
    let contents := (Topology.asLayout ⟨[layout.built "/dev/sda"], []⟩).indented
    let output := DeviceListing.ofLength (10 ^ 3999) (10 ^ 400)
    let system := SystemProbe.probe (fun _ => .finished 0 output "") ⟨.ofString "lsblk", 30⟩
    Layout.parse contents = .ok [layout] ∧ layout.IsListable ∧
      (∀ n ∈ layout.numbers, n.natAbs < 10 ^ 4000) ∧
      ((Probe.static (Layout.built [layout])).lookup "/dev/sda").answer =
        .ok (some (layout.built "/dev/sda")) ∧
      ∃ digits, (system.lookup "/dev/sda").answer = .error (.numeral (.reading digits)) := by
  intro layout contents output system
  -- All that is used of the powers is their order.
  have hlt : ∀ k m : Nat, k < m → 10 ^ k < 10 ^ m := fun _ _ => Nat.pow_lt_pow_right (by decide)
  have hlength : 10 ^ 3999 < 10 ^ 4000 := hlt 3999 4000 (by decide)
  have hsectorSize : 10 ^ 400 < 10 ^ 4000 := hlt 400 4000 (by decide)
  have hsectors : 10 ^ 3 < 10 ^ 4000 := hlt 3 4000 (by decide)
  have hlong : 10 ^ 0 < 10 ^ 3999 := hlt 0 3999 (by decide)
  have hwide : 10 ^ 3 < 10 ^ 400 := hlt 3 400 (by decide)
  have hpos : 0 < 10 ^ 3999 := Nat.lt_trans Nat.one_pos hlong
  have hnumbers := DiskLayout.natAbs_lt_ofLength hpos hlength hsectorSize hsectors
  have hsize := Decimal.isWritable_pow_mul 3999 400 (by decide)
  have hsmall : 512 ≤ 10 ^ 400 := Nat.le_trans (by decide) (Nat.le_of_lt hwide)
  have hsound := DiskLayout.isSound_ofLength hlong hsmall hnumbers
  have hbytes := DiskLayout.isWritable_bytes_ofLength (10 ^ 3999) hsectorSize (by decide)
  exact ⟨Layout.parse_built hsound rfl hbytes, DiskLayout.isListable_ofLength _ _, hnumbers,
    lookup_static_ofLength _ _, lookup_system_ofLength hsize _ "/dev/sda"⟩

end DiskPlan
