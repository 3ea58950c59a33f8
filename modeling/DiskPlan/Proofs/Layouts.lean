import DiskPlan.Layout
import DiskPlan.Proofs.Attachment

/-!
# Layouts

What is known of the disks that are found in a layout.

A layout is read with all its faults collected, so a layout that is read at all has been
read without one: every reader that took part has given a value. The first lemmas take
such a value apart, one for each way in which readers are joined. They say nothing of the
faults, and nothing of the order in which these would be told.

The disks are built from what was read, and the probe finds them by their names. What is
found was therefore read, and what is true of everything that is read is true of it: its
path is one under `/dev/`, its partitions are there already, and there are no plans for
them.

## Theorems

* `Checked.seq_eq_value_iff` and others: A reader that gives a value.
* `PartitionLayout.ofJson_eq_value_iff`, `DiskLayout.ofJson_eq_value_iff`,
  `Layout.parse_eq_ok_iff`: A layout is read if its fields are.
* `Disk.isNamed_of_find?`: What is found by a name.
* `lookup_static_eq_ok_iff`, `mem_of_lookup_static`: What is found among given disks.
* `toDisk?_eq_ok`, `toPartition_eq_ok`: What is built of a layout.
* `DiskLayout.ofJson_path`, `exists_devicePath_of_load`: The paths in a layout.
* `isUnplanned_of_load`: A layout has no plans for its partitions.
-/

namespace DiskPlan

/-! ### Readers that give a value -/

namespace Checked

variable {α β : Type}

theorem result_eq_ok_iff {c : Checked α} {a : α} : c.result = .ok a ↔ c = .value a := by
  cases c <;> simp only [result, reduceCtorEq, Except.ok.injEq, value.injEq]

theorem map_eq_value_iff {f : α → β} {c : Checked α} {b : β} :
    c.map f = .value b ↔ ∃ a, c = .value a ∧ f a = b := by
  cases c <;> simp only [map, reduceCtorEq, value.injEq, false_and, exists_false, exists_eq_left']

/-- A function and its argument are both read, even if the first has issues. A value is the
    result only if both have one. -/
theorem seq_eq_value_iff {f : Checked (α → β)} {x : Checked α} {b : β} :
    f.seq x = .value b ↔ ∃ g a, f = .value g ∧ x = .value a ∧ g a = b := by
  cases f <;> cases x <;> simp [seq]

theorem refine_eq_value_iff {next : α → Checked β} {c : Checked α} {b : β} :
    c.refine next = .value b ↔ ∃ a, c = .value a ∧ next a = .value b := by
  cases c <;> simp only [refine, reduceCtorEq, value.injEq, false_and, exists_false,
    exists_eq_left']

theorem under_eq_value_iff {k : Key} {c : Checked α} {a : α} :
    c.under k = .value a ↔ c = .value a := by
  cases c <;> simp only [under, reduceCtorEq, value.injEq]

/-- A condition is checked only of a value, so whatever else a reader gives stays as it is. -/
theorem ensure_eq_value_iff {condition : α → Bool} {e : Expectation} {c : Checked α} {a : α} :
    c.ensure condition e = .value a ↔ c = .value a ∧ condition a = true := by
  cases c with
  | value b =>
      change (if condition b then value b else expected e) = _ ↔ _
      constructor
      · intro h
        split at h
        · rename_i hb
          obtain rfl := value.inj h
          exact ⟨rfl, hb⟩
        · exact absurd h (by simp only [expected, reduceCtorEq, not_false_eq_true])
      · rintro ⟨h, ha⟩
        obtain rfl := value.inj h
        exact if_pos ha
  | issues _ => simp only [ensure, reduceCtorEq, false_and]
  | halted _ => simp only [ensure, reduceCtorEq, false_and]

theorem object_eq_value_iff {v : Json} {fields : Json.Fields} :
    object v = .value fields ↔ v = .object fields := by
  cases v <;> simp only [object, expected, reduceCtorEq, value.injEq, Json.object.injEq]

/-- An object is read further by its fields, and nothing but an object is. -/
theorem refine_object_eq_value_iff {v : Json} {next : Json.Fields → Checked α} {a : α} :
    (object v).refine next = .value a ↔ ∃ fields, v = .object fields ∧ next fields = .value a := by
  rw [refine_eq_value_iff]
  exact exists_congr fun fields => and_congr_left fun _ => object_eq_value_iff

/-- A field that is read is there: a field that is not there is an issue. -/
theorem field_eq_value_iff {name : String} {read : Json → Checked α} {fields : Json.Fields}
    {a : α} : field name read fields = .value a ↔
      ∃ v, Json.get? name fields = some v ∧ read v = .value a := by
  unfold field
  cases Json.get? name fields with
  | none =>
      dsimp only
      rw [under_eq_value_iff]
      simp only [expected, reduceCtorEq, false_and, exists_false]
  | some v => simp only [under_eq_value_iff, Option.some.injEq, exists_eq_left']

/-- A field that may be absent has its value then. A field that is null is there, and goes to its
    reader. -/
theorem fieldOr_eq_value_iff {name : String} {absent : α} {read : Json → Checked α}
    {fields : Json.Fields} {a : α} : fieldOr name absent read fields = .value a ↔
      (Json.get? name fields = none ∧ absent = a) ∨
        ∃ v, Json.get? name fields = some v ∧ read v = .value a := by
  unfold fieldOr
  cases Json.get? name fields with
  | none => simp only [value.injEq, reduceCtorEq, false_and, exists_false, or_false, true_and]
  | some v =>
      simp only [under_eq_value_iff, Option.some.injEq, exists_eq_left', reduceCtorEq, false_and,
        false_or]

/-- Items are read one by one, by the reader of items. The index only tells where an issue is, so
    it does not matter for values. -/
theorem items_eq_value_iff {read : Json → Checked α} {v : Json} {as : List α} :
    items read v = .value as ↔
      ∃ vs, v = .list vs ∧ List.Forall₂ (fun w a => read w = .value a) vs as := by
  have hfrom : ∀ (vs : List Json) (i : Nat) (as : List α), itemsFrom read i vs = .value as ↔
      List.Forall₂ (fun w a => read w = .value a) vs as := by
    intro vs
    -- Over the items, for any index and any result.
    induction vs with
    | nil =>
        intro i as
        rw [List.forall₂_nil_left_iff, itemsFrom, value.injEq, eq_comm]
    | cons w rest ih =>
        intro i as
        rw [List.forall₂_cons_left_iff]
        constructor
        · intro h
          rcases seq_eq_value_iff.mp h with ⟨g, others, hg, hothers, rfl⟩
          rcases map_eq_value_iff.mp hg with ⟨a, ha, rfl⟩
          exact ⟨a, others, under_eq_value_iff.mp ha, (ih (i + 1) others).mp hothers, rfl⟩
        · rintro ⟨a, others, ha, hothers, rfl⟩
          exact seq_eq_value_iff.mpr ⟨_, others,
            map_eq_value_iff.mpr ⟨a, under_eq_value_iff.mpr ha, rfl⟩,
            (ih (i + 1) others).mpr hothers, rfl⟩
  cases v with
  | list vs => simp only [items, hfrom, Json.list.injEq, exists_eq_left']
  | _ => simp only [items, expected, reduceCtorEq, false_and, exists_false]

end Checked

/-- A partition of a layout is read if all its fields are and it ends after it begins. -/
theorem PartitionLayout.ofJson_eq_value_iff {v : Json} {p : PartitionLayout} :
    ofJson v = .value p ↔
      (∃ fields, v = .object fields ∧
        Checked.field "number" (fun v => (Checked.integer v).ensure (1 ≤ ·) (.atLeast 1)) fields =
          .value p.number ∧
        Checked.field "start_sector" ofJson.sector fields = .value p.first ∧
        Checked.field "end_sector" ofJson.sector fields = .value p.last ∧
        Checked.fieldOr "part_type" .primary (Checked.named Role.ofName?) fields = .value p.role ∧
        Checked.fieldOr "filesystem" none filesystemOfJson fields = .value p.filesystem ∧
        Checked.fieldOr "name" none (Checked.optional Checked.label) fields = .value p.name ∧
        Checked.fieldOr "flags" [] (Checked.items (Checked.named Flag.ofName?)) fields =
          .value p.flags) ∧
      p.first < p.last := by
  unfold ofJson
  rw [Checked.ensure_eq_value_iff, Checked.refine_object_eq_value_iff, isOrdered, decide_eq_true_eq]
  -- The order of sectors is asked for at the end, the fields one after the other before it.
  refine and_congr_left fun _ => exists_congr fun fields => and_congr_right fun _ => ?_
  constructor
  · intro h
    -- The fields are taken off from behind, since each of them is applied to what the others gave.
    rcases Checked.seq_eq_value_iff.mp h with ⟨_, _, h₆, hflags, rfl⟩
    rcases Checked.seq_eq_value_iff.mp h₆ with ⟨_, _, h₅, hname, rfl⟩
    rcases Checked.seq_eq_value_iff.mp h₅ with ⟨_, _, h₄, hfilesystem, rfl⟩
    rcases Checked.seq_eq_value_iff.mp h₄ with ⟨_, _, h₃, hrole, rfl⟩
    rcases Checked.seq_eq_value_iff.mp h₃ with ⟨_, _, h₂, hlast, rfl⟩
    rcases Checked.seq_eq_value_iff.mp h₂ with ⟨_, _, h₁, hfirst, rfl⟩
    rcases Checked.map_eq_value_iff.mp h₁ with ⟨_, hnumber, rfl⟩
    exact ⟨hnumber, hfirst, hlast, hrole, hfilesystem, hname, hflags⟩
  · rintro ⟨hnumber, hfirst, hlast, hrole, hfilesystem, hname, hflags⟩
    rw [hnumber, hfirst, hlast, hrole, hfilesystem, hname, hflags]
    rfl

/-- A disk of a layout is read if all its fields are. -/
theorem DiskLayout.ofJson_eq_value_iff {v : Json} {d : DiskLayout} :
    ofJson v = .value d ↔
      ∃ fields, v = .object fields ∧
        Checked.field "device_path"
          (fun v => (Checked.label v).map fun l => l.text?.map devicePath) fields =
            .value d.path ∧
        Checked.field "sectors"
          (fun v => (Checked.integer v).ensure (0 < ·) (.greaterThan 0)) fields =
            .value d.sectors ∧
        Checked.fieldOr "sector_size" 512
          (fun v => (Checked.integer v).ensure (512 ≤ ·) (.atLeast 512)) fields =
            .value d.sectorSize ∧
        Checked.fieldOr "model" (.ofString "Unknown") Checked.label fields = .value d.model ∧
        Checked.fieldOr "table" none
          (Checked.optional (Checked.named TableKind.ofName?)) fields = .value d.table ∧
        Checked.fieldOr "partitions" [] (Checked.items PartitionLayout.ofJson) fields =
          .value d.partitions := by
  unfold ofJson
  rw [Checked.refine_object_eq_value_iff]
  refine exists_congr fun fields => and_congr_right fun _ => ?_
  constructor
  · intro h
    -- From behind, as for partitions.
    rcases Checked.seq_eq_value_iff.mp h with ⟨_, _, h₅, hpartitions, rfl⟩
    rcases Checked.seq_eq_value_iff.mp h₅ with ⟨_, _, h₄, htable, rfl⟩
    rcases Checked.seq_eq_value_iff.mp h₄ with ⟨_, _, h₃, hmodel, rfl⟩
    rcases Checked.seq_eq_value_iff.mp h₃ with ⟨_, _, h₂, hsectorSize, rfl⟩
    rcases Checked.seq_eq_value_iff.mp h₂ with ⟨_, _, h₁, hsectors, rfl⟩
    rcases Checked.map_eq_value_iff.mp h₁ with ⟨_, hpath, rfl⟩
    exact ⟨hpath, hsectors, hsectorSize, hmodel, htable, hpartitions⟩
  · rintro ⟨hpath, hsectors, hsectorSize, hmodel, htable, hpartitions⟩
    rw [hpath, hsectors, hsectorSize, hmodel, htable, hpartitions]
    rfl

/-- The path of a disk of a layout is one under `/dev/`, since every path goes through the
    function that puts it there. -/
theorem DiskLayout.ofJson_path {v : Json} {layout : DiskLayout}
    (h : DiskLayout.ofJson v = .value layout) :
    ∀ path ∈ layout.path, ∃ name, path = devicePath name := by
  rcases DiskLayout.ofJson_eq_value_iff.mp h with ⟨fields, _, hpath, _⟩
  rcases Checked.field_eq_value_iff.mp hpath with ⟨_, _, hread⟩
  rcases Checked.map_eq_value_iff.mp hread with ⟨label, _, hlabel⟩
  rw [← hlabel]
  intro path hmem
  rcases Option.map_eq_some_iff.mp (Option.mem_def.mp hmem) with ⟨name, _, rfl⟩
  exact ⟨name, rfl⟩

/-- A layout is read if its disks are, one by one. Without the field it is a layout without
    disks. -/
theorem Layout.parse_eq_ok_iff {contents : String} {layouts : List DiskLayout} :
    parse contents = .ok layouts ↔
      ∃ fields, Json.parse contents = .ok (.object fields) ∧
        ((Json.get? "disks" fields = none ∧ layouts = []) ∨
          ∃ vs, Json.get? "disks" fields = some (.list vs) ∧
            List.Forall₂ (fun v layout => DiskLayout.ofJson v = .value layout) vs layouts) := by
  unfold parse
  cases Json.parse contents with
  | error _ => simp only [reduceCtorEq, false_and, exists_false]
  | ok v =>
      dsimp only
      rw [Checked.result_eq_ok_iff, ofJson, Checked.refine_object_eq_value_iff]
      refine exists_congr fun fields => ?_
      -- The field is absent, or it is there and its value is a list of disks.
      rw [Except.ok.injEq, Checked.fieldOr_eq_value_iff, eq_comm (a := [])]
      refine and_congr_right fun _ => or_congr Iff.rfl ?_
      simp only [Checked.items_eq_value_iff]
      constructor
      · rintro ⟨_, hget, vs, rfl, hvs⟩
        exact ⟨vs, hget, hvs⟩
      · rintro ⟨vs, hget, hvs⟩
        exact ⟨_, hget, vs, rfl, hvs⟩

/-- Every disk of a layout that is read is read as one, so what holds of all disks that are read
    holds of those of a layout. -/
theorem Layout.ofJson_of_parse {contents : String} {layouts : List DiskLayout}
    (h : parse contents = .ok layouts) :
    ∀ layout ∈ layouts, ∃ v, DiskLayout.ofJson v = .value layout := by
  rcases parse_eq_ok_iff.mp h with ⟨fields, _, ⟨_, rfl⟩ | ⟨vs, _, hvs⟩⟩
  · exact fun _ hmem => absurd hmem List.not_mem_nil
  · exact forall_mem_of_forall₂ hvs fun v _ _ hv => ⟨v, hv⟩

/-! ### What is built -/

/-- A partition of a layout is where its number says, it is there already, and nothing is said of
    what it is to become. -/
theorem toPartition_eq_ok {path : String} {source : PartitionLayout} {p : Partition}
    (h : DiskLayout.toPartition path source = .ok p) :
    Disk.partitionPath? path p.number = .ok p.path ∧ p.provenance = .existing ∧ p.IsUnplanned ∧
      p.IsUnmounted := by
  unfold DiskLayout.toPartition at h
  rcases bind_eq_ok_iff.mp h with ⟨path', hpath, h⟩
  -- The path is made from the number, and this is the only step that can fail.
  obtain rfl := Except.ok.inj h
  exact ⟨hpath, rfl, ⟨rfl, rfl⟩, rfl, rfl⟩

/-- A disk of a layout has the path that was read and no new table, and all its partitions are of
    the layout. A disk whose path is no text is dropped, whatever else it has. -/
theorem toDisk?_eq_ok {layout : DiskLayout} {d : Disk} (h : layout.toDisk? = .ok (some d)) :
    d.path ∈ layout.path ∧ d.relabeled = false ∧
      ∀ p ∈ d.partitions, ∃ source, DiskLayout.toPartition d.path source = .ok p := by
  unfold DiskLayout.toDisk? at h
  rcases bind_eq_ok_iff.mp h with ⟨partitions, hpartitions, h⟩
  rcases Option.map_eq_some_iff.mp (Except.ok.inj h) with ⟨path, hpath, rfl⟩
  refine ⟨Option.mem_def.mpr hpath, rfl, fun p hp => ?_⟩
  rcases mem_of_mapM_eq_ok hpartitions p hp with ⟨source, _, hsource⟩
  rw [hpath] at hsource
  exact ⟨source, hsource⟩

/-! ### What is found -/

/-- What is found by a name has it. -/
theorem Disk.isNamed_of_find? {disks : List Disk} {name : String} {d : Disk}
    (h : disks.find? (fun d => d.isNamed name) = some d) : d ∈ disks ∧ d.isNamed name = true :=
  ⟨List.mem_of_find?_eq_some h, List.find?_some (p := fun d : Disk => d.isNamed name) h⟩

/-- Among given disks the first one of a name is found. Looking it up never fails. -/
theorem lookup_static_eq_ok_iff {disks : List Disk} {name : String} {d : Disk} :
    ((Probe.static disks).lookup name).answer = .ok (some d) ↔
      disks.find? (fun d => d.isNamed name) = some d := by
  unfold Probe.static
  dsimp only
  split
  · rename_i found hfound
    rw [hfound]
    simp only [Outcome.done, Except.ok.injEq, Option.some.injEq]
  · rename_i hnone
    rw [hnone]
    simp only [Outcome.logging, Outcome.done, Except.ok.injEq, reduceCtorEq]

theorem mem_of_lookup_static {disks : List Disk} {name : String} {d : Disk}
    (h : ((Probe.static disks).lookup name).answer = .ok (some d)) : d ∈ disks :=
  (Disk.isNamed_of_find? (lookup_static_eq_ok_iff.mp h)).1

/-- A layout is loaded once its text is read and its disks are built. Disks that are dropped
    leave no gap. -/
theorem load_eq_ok (path : String) {contents : String} {found : List (Option Disk)}
    (h : (Layout.parse contents >>= fun layout => layout.mapM DiskLayout.toDisk?) = .ok found) :
    (Layout.load path contents).answer = .ok (.static (found.filterMap id)) := by
  rcases bind_eq_ok_iff.mp h with ⟨layout, hlayout, hfound⟩
  unfold Layout.load
  refine Outcome.andThen_eq_ok_iff.mpr ⟨layout, hlayout, ?_⟩
  exact Outcome.andThen_eq_ok_iff.mpr ⟨found, hfound, rfl⟩

/-- What is found in a layout is one of the disks that are read. -/
theorem toDisk?_of_load {path contents : String} {probe : Probe}
    (hload : (Layout.load path contents).answer = .ok probe) {name : String} {d : Disk}
    (h : (probe.lookup name).answer = .ok (some d)) :
    ∃ layout : DiskLayout, (∃ v, DiskLayout.ofJson v = .value layout) ∧
      layout.toDisk? = .ok (some d) := by
  unfold Layout.load at hload
  -- Loading reads, builds and keeps what has been built.
  rcases Outcome.andThen_eq_ok_iff.mp hload with ⟨layouts, hlayouts, hload⟩
  rcases Outcome.andThen_eq_ok_iff.mp hload with ⟨disks, hdisks, hload⟩
  obtain rfl := Except.ok.inj hload
  rcases List.mem_filterMap.mp (mem_of_lookup_static h) with ⟨found, hfound, rfl⟩
  rcases mem_of_mapM_eq_ok hdisks _ hfound with ⟨layout, hlayout, hbuilt⟩
  exact ⟨layout, Layout.ofJson_of_parse hlayouts layout hlayout, hbuilt⟩

/-- What is found in a layout has a path under `/dev/`, so it can be found by a name as well. -/
theorem exists_devicePath_of_load {path contents : String} {probe : Probe}
    (hload : (Layout.load path contents).answer = .ok probe) {name : String} {d : Disk}
    (h : (probe.lookup name).answer = .ok (some d)) : ∃ name', d.path = devicePath name' := by
  rcases toDisk?_of_load hload h with ⟨layout, ⟨v, hv⟩, hlayout⟩
  exact DiskLayout.ofJson_path hv d.path (toDisk?_eq_ok hlayout).1

/-- A layout says nothing of what its partitions are to become. -/
theorem isUnplanned_of_load {path contents : String} {probe : Probe}
    (hload : (Layout.load path contents).answer = .ok probe) {name : String} {d : Disk}
    (h : (probe.lookup name).answer = .ok (some d)) : ∀ p ∈ d.partitions, p.IsUnplanned := by
  rcases toDisk?_of_load hload h with ⟨layout, _, hlayout⟩
  intro p hp
  rcases (toDisk?_eq_ok hlayout).2.2 p hp with ⟨source, hsource⟩
  exact (toPartition_eq_ok hsource).2.2.1

end DiskPlan
