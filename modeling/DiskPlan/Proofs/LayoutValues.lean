import DiskPlan.Proofs.JsonValues
import DiskPlan.Proofs.Layouts
import Mathlib.Data.List.TakeWhile

/-!
# Values in Layouts

What is true of every value in a layout that is read.

A layout is checked while it is read, so a disk of a layout has sectors, its partitions
are numbered from one and begin before they end. There is more that is never checked
and is true all the same, since the layout was a text: a number that was read is within
the limit and can be written again, and a label has its halves of surrogate pairs apart.
`DiskLayout.IsSound` is all of this. It is what makes the disks of a layout be built
without a failure, and what a plan needs to be written as a layout.

## Main definitions

* `Json.field?`: The value of a field.
* `Json.IsRead`: A value that stands in a text.
* `PartitionLayout.IsSound`, `DiskLayout.IsSound`: What is true of what is read.
* `PartitionLayout.built`, `DiskLayout.built`, `Layout.built`: What is built of it.

## Theorems

* `Checked.isWritable_of_integer`: Numbers that are read can be written.
* `Checked.isSpelled_of_label`: Labels that are read can be spelled.
* `Layout.isSound_of_parse`: What is read from a layout is sound.
* `DiskLayout.toDisk?_of_isSound`: What is sound is built.
* `Layout.load_of_parse`, `Layout.load_eq_ok_iff`: A layout that is read is loaded.
-/

namespace DiskPlan

/-! ### Numbers -/

namespace Decimal

theorem isWritable_of_readPlain {cs : List Char} {n : Int} (h : readPlain cs = .ok n) :
    isWritable n = true := by
  -- The sign has been taken off, so both signs are treated at once.
  have hdigits : ∀ (negative : Bool) (digits : List Char),
      (if digits = ['0'] then .ok 0
        else if digits.head? = some '0' then .error .malformed
        else if digitLimit < (digits.takeWhile Char.isDigit).length then .error .tooLong
        else if isNumeral digits then
          .ok (if negative then -(ofDigits digits : Int) else ofDigits digits)
        else .error .malformed : Except WholeFault Int) = .ok n → isWritable n = true := by
    intro negative digits h
    split at h
    · rw [← Except.ok.inj h]
      exact isWritable_of_natAbs_lt Nat.one_pos (Nat.zero_le _)
    · split at h
      · exact absurd h (by simp only [reduceCtorEq, not_false_eq_true])
      · split at h
        · exact absurd h (by simp only [reduceCtorEq, not_false_eq_true])
        · rename_i hlimit
          split at h
          · rename_i hnumeral
            unfold isNumeral at hnumeral
            rw [Bool.and_eq_true, List.all_eq_true] at hnumeral
            -- Only the digits in front are counted, but a numeral is digits throughout.
            rw [List.takeWhile_eq_self_iff.mpr hnumeral.2, Nat.not_lt] at hlimit
            rw [← Except.ok.inj h]
            refine isWritable_of_natAbs_lt ?_ hlimit
            rw [natAbs_ofSign]
            exact Json.ofDigits_lt hnumeral.2
          · exact absurd h (by simp only [reduceCtorEq, not_false_eq_true])
  unfold readPlain at h
  split at h
  exact hdigits _ _ h

theorem isWritable_of_readWhole {s : String} {n : Int} (h : readWhole s = .ok n) :
    isWritable n = true := by
  unfold readWhole at h
  split at h
  · split at h
    · rename_i hplain
      obtain rfl := Except.ok.inj h
      rcases Option.map_eq_some_iff.mp hplain with ⟨cs, _, hcs⟩
      exact isWritable_of_readPlain hcs
    · exact absurd h (by simp only [reduceCtorEq, not_false_eq_true])
  · exact isWritable_of_readPlain h

end Decimal

/-! ### Values that stand in a text -/

namespace Json

/-- The value of a field, if a value is an object with one of that name. Readers ask for fields
    by name, and nothing else of an object matters to them. -/
def field? (name : String) : Json → Option Json
  | .object fields => get? name fields
  | _ => none

theorem field?_eq_some_iff {name : String} {v w : Json} :
    v.field? name = some w ↔ ∃ fields, v = .object fields ∧ get? name fields = some w := by
  cases v <;> simp only [field?, reduceCtorEq, object.injEq, false_and, exists_false,
    exists_eq_left']

/-- A value that stands in a text, at some depth. How deep it stands does not matter once it has
    been read. -/
def IsRead (v : Json) : Prop :=
  ∃ depth, IsSpelled True depth v

theorem IsRead.of_get? {fields : Fields} (h : (object fields).IsRead) {name : String} {v : Json}
    (hv : get? name fields = some v) : v.IsRead := by
  rcases h with ⟨_, hspelled⟩
  -- The field is among those of the object, each of which can be spelled one level below.
  rcases Option.map_eq_some_iff.mp hv with ⟨f, hf, rfl⟩
  cases hspelled with
  | object hfields _ => exact ⟨_, hfields f (List.mem_of_find?_eq_some hf)⟩

theorem IsRead.of_mem {vs : List Json} (h : (list vs).IsRead) : ∀ v ∈ vs, v.IsRead := by
  rcases h with ⟨_, hspelled⟩
  cases hspelled with
  | list hitems => exact fun v hv => ⟨_, hitems v hv⟩

theorem IsRead.of_field? {v w : Json} (h : v.IsRead) {name : String}
    (hw : v.field? name = some w) : w.IsRead := by
  rcases field?_eq_some_iff.mp hw with ⟨fields, rfl, hget⟩
  exact h.of_get? hget

/-- What stands in a text can be written again, whatever it is. -/
theorem IsRead.isWritable {v : Json} (h : v.IsRead) : v.isWritable = true := by
  rcases h with ⟨_, hspelled⟩
  exact hspelled.isWritable

end Json

namespace Checked

/-- A number that is read can be written again. A truth value or a fraction may stand for a
    number, and is small or cut to a machine word; a text is within the limit on digits. -/
theorem isWritable_of_integer {v : Json} {n : Int} (hv : v.IsRead) (h : integer v = .value n) :
    Decimal.isWritable n = true := by
  have hword : 19 ≤ Decimal.digitLimit := by decide
  unfold integer at h
  split at h
  · obtain rfl := value.inj h
    exact hv.isWritable
  · -- A truth value is read as 0 or 1.
    rename_i b
    obtain rfl := value.inj h
    refine Decimal.isWritable_of_natAbs_lt ?_ hword
    cases b <;> decide
  · unfold integerText at h
    split at h
    · rename_i hread
      obtain rfl := value.inj h
      exact Decimal.isWritable_of_readWhole hread
    · exact absurd h (by simp only [expected, reduceCtorEq, not_false_eq_true])
    · exact absurd h (by simp only [expected, reduceCtorEq, not_false_eq_true])
  · exact absurd h (by simp only [expected, reduceCtorEq, not_false_eq_true])
  · split at h
    · exact absurd h (by simp only [expected, reduceCtorEq, not_false_eq_true])
    · split at h
      · exact absurd h (by simp only [expected, reduceCtorEq, not_false_eq_true])
      · split at h
        · rename_i hrounded
          obtain rfl := value.inj h
          -- A machine word has at most nineteen digits.
          unfold isRoundedWord at hrounded
          rw [Bool.and_eq_true, decide_eq_true_eq, decide_eq_true_eq] at hrounded
          have hbound : wordBound = 9223372036854775808 := by decide
          refine Decimal.isWritable_of_natAbs_lt ?_ hword
          omega
        · exact absurd h (by simp only [expected, reduceCtorEq, not_false_eq_true])
  · exact absurd h (by simp only [expected, reduceCtorEq, not_false_eq_true])

/-- A label that is read can be spelled again, as it is spelled in the text or is a text itself. -/
theorem isSpelled_of_label {v : Json} {l : Label} (hv : v.IsRead) (h : label v = .value l) :
    l.IsSpelled := by
  unfold label at h
  split at h
  · rw [← value.inj h]
    exact Json.isSpelled_ofString _
  · rw [← value.inj h]
    rcases hv with ⟨_, hspelled⟩
    cases hspelled with
    | label hl _ => exact hl
  · exact absurd h (by simp only [expected, reduceCtorEq, not_false_eq_true])

/-- A number with a bound that is read is within the bound, and can be written again. All numbers
    of a layout are read in this way. -/
theorem isWritable_of_bounded {bound : Int → Bool} {e : Expectation} {v : Json} {n : Int}
    (hv : v.IsRead) (h : (integer v).ensure bound e = .value n) :
    bound n = true ∧ Decimal.isWritable n = true :=
  ⟨(ensure_eq_value_iff.mp h).2, isWritable_of_integer hv (ensure_eq_value_iff.mp h).1⟩

end Checked

/-! ### What is read -/

/-- What is true of a partition of a layout that is read. These are the facts that the building
    of disks needs. -/
structure PartitionLayout.IsSound (p : PartitionLayout) : Prop where
  number : 1 ≤ p.number
  first : 0 ≤ p.first
  lt : p.first < p.last
  number_isWritable : Decimal.isWritable p.number = true
  first_isWritable : Decimal.isWritable p.first = true
  last_isWritable : Decimal.isWritable p.last = true
  name : ∀ l ∈ p.name, l.IsSpelled

/-- What is true of a disk of a layout that is read, and of each of its partitions. -/
structure DiskLayout.IsSound (d : DiskLayout) : Prop where
  path : ∀ path ∈ d.path, ∃ name, path = devicePath name
  sectors : 0 < d.sectors
  sectorSize : 512 ≤ d.sectorSize
  sectors_isWritable : Decimal.isWritable d.sectors = true
  sectorSize_isWritable : Decimal.isWritable d.sectorSize = true
  model : d.model.IsSpelled
  partitions : ∀ p ∈ d.partitions, p.IsSound

theorem PartitionLayout.isSound_of_ofJson {v : Json} {p : PartitionLayout} (hv : v.IsRead)
    (h : ofJson v = .value p) : p.IsSound := by
  rcases ofJson_eq_value_iff.mp h with
    -- Each number comes with its own bound.
    ⟨⟨fields, rfl, hnumber, hfirst, hlast, _, _, hname, _⟩, hlt⟩
  rcases Checked.field_eq_value_iff.mp hnumber with ⟨number, hget, hread⟩
  rcases Checked.isWritable_of_bounded (hv.of_get? hget) hread with ⟨hone, hnumber⟩
  rcases Checked.field_eq_value_iff.mp hfirst with ⟨first, hget, hread⟩
  rcases Checked.isWritable_of_bounded (hv.of_get? hget) hread with ⟨hzero, hfirst⟩
  rcases Checked.field_eq_value_iff.mp hlast with ⟨last, hget, hread⟩
  rcases Checked.isWritable_of_bounded (hv.of_get? hget) hread with ⟨_, hlast⟩
  refine ⟨of_decide_eq_true hone, of_decide_eq_true hzero, hlt, hnumber, hfirst, hlast, ?_⟩
  rcases Checked.fieldOr_eq_value_iff.mp hname with ⟨_, hnone⟩ | ⟨name, hget, hread⟩
  · rw [← hnone]
    exact fun _ hl => absurd hl (Option.not_mem_none _)
  · unfold Checked.optional at hread
    split at hread
    · rw [← Checked.value.inj hread]
      exact fun _ hl => absurd hl (Option.not_mem_none _)
    · rcases Checked.map_eq_value_iff.mp hread with ⟨l, hl, hsome⟩
      rw [← hsome]
      rintro _ ⟨⟩
      exact Checked.isSpelled_of_label (hv.of_get? hget) hl

theorem DiskLayout.isSound_of_ofJson {v : Json} {d : DiskLayout} (hv : v.IsRead)
    (h : ofJson v = .value d) : d.IsSound := by
  have hpath := ofJson_path h
  rcases ofJson_eq_value_iff.mp h with
    ⟨fields, rfl, _, hsectors, hsectorSize, hmodel, _, hpartitions⟩
  rcases Checked.field_eq_value_iff.mp hsectors with ⟨sectors, hget, hread⟩
  rcases Checked.isWritable_of_bounded (hv.of_get? hget) hread with ⟨hpositive, hsectors⟩
  -- The usual size is within the bounds, too.
  have hsectorSize : 512 ≤ d.sectorSize ∧ Decimal.isWritable d.sectorSize = true := by
    rcases Checked.fieldOr_eq_value_iff.mp hsectorSize with ⟨_, husual⟩ | ⟨size, hget, hread⟩
    · rw [← husual]
      exact ⟨Int.le_refl _, Decimal.isWritable_of_natAbs_lt (k := 3) (by decide) (by decide)⟩
    · rcases Checked.isWritable_of_bounded (hv.of_get? hget) hread with ⟨hbound, hwritable⟩
      exact ⟨of_decide_eq_true hbound, hwritable⟩
  have hmodel : d.model.IsSpelled := by
    rcases Checked.fieldOr_eq_value_iff.mp hmodel with ⟨_, hunknown⟩ | ⟨model, hget, hread⟩
    · rw [← hunknown]
      exact Json.isSpelled_ofString _
    · exact Checked.isSpelled_of_label (hv.of_get? hget) hread
  refine ⟨hpath, of_decide_eq_true hpositive, hsectorSize.1, hsectors, hsectorSize.2, hmodel, ?_⟩
  rcases Checked.fieldOr_eq_value_iff.mp hpartitions with ⟨_, hnone⟩ | ⟨_, hget, hread⟩
  · rw [← hnone]
    exact fun _ hp => absurd hp List.not_mem_nil
  · rcases Checked.items_eq_value_iff.mp hread with ⟨vs, rfl, hvs⟩
    exact forall_mem_of_forall₂ hvs fun w hw p hp =>
      PartitionLayout.isSound_of_ofJson ((hv.of_get? hget).of_mem w hw) hp

/-- What is read from a layout is sound, since its text can be spelled and its fields are
    checked. -/
theorem Layout.isSound_of_parse {contents : String} {layouts : List DiskLayout}
    (h : parse contents = .ok layouts) : ∀ layout ∈ layouts, layout.IsSound := by
  rcases parse_eq_ok_iff.mp h with ⟨fields, hparse, ⟨_, rfl⟩ | ⟨vs, hget, hvs⟩⟩
  · exact fun _ hmem => absurd hmem List.not_mem_nil
  · have hread : (Json.object fields).IsRead := ⟨_, Json.isSpelled_of_parse hparse⟩
    exact forall_mem_of_forall₂ hvs fun w hw layout hlayout =>
      DiskLayout.isSound_of_ofJson ((hread.of_get? hget).of_mem w hw) hlayout

/-! ### What is built -/

/-- A number within the limit leads to a path: the number is the only part of it that has to be
    written. -/
theorem Disk.partitionPath?_of_isWritable (path : String) {number : Int}
    (h : Decimal.isWritable number = true) :
    partitionPath? path number = .ok (path ++ numberSeparator path ++ Decimal.text number) := by
  unfold partitionPath?
  rw [Decimal.write_eq_ok_iff.mpr ⟨h, rfl⟩]

/-- The partition that is built of one in a layout: where the layout says, with nothing planned
    for it. -/
def PartitionLayout.built (path : String) (p : PartitionLayout) : Partition where
  path := path ++ Disk.numberSeparator path ++ Decimal.text p.number
  number := p.number
  first := p.first
  last := p.last
  role := p.role
  filesystem := p.filesystem
  provenance := .existing
  target := none
  name := p.name
  mount := none
  keyId := none
  flags := p.flags
  membership := none
  removed := false

/-- The disk that is built of one in a layout. -/
def DiskLayout.built (d : DiskLayout) (path : String) : Disk where
  path := path
  sectors := d.sectors
  sectorSize := d.sectorSize
  model := d.model
  table := d.table
  partitions := d.partitions.map (PartitionLayout.built path)
  relabeled := false

theorem DiskLayout.toPartition_of_isSound (path : String) {p : PartitionLayout} (h : p.IsSound) :
    toPartition path p = .ok (p.built path) := by
  unfold toPartition
  rw [Disk.partitionPath?_of_isWritable path h.number_isWritable]
  rfl

/-- A disk of a layout is built, unless it has no path. Its partitions are built whether it has
    one or not. -/
theorem DiskLayout.toDisk?_of_isSound {layout : DiskLayout} (h : layout.IsSound) :
    layout.toDisk? = .ok (layout.path.map layout.built) := by
  have hpartitions : layout.partitions.mapM (toPartition (layout.path.getD "")) =
      .ok (layout.partitions.map (PartitionLayout.built (layout.path.getD ""))) := by
    refine mapM_eq_ok_iff.mpr ?_
    rw [List.forall₂_map_right_iff, List.forall₂_same]
    exact fun p hp => toPartition_of_isSound _ (h.partitions p hp)
  unfold toDisk?
  -- All partitions are built, so what is left is whether there is a path.
  rw [hpartitions]
  cases layout.path <;> rfl

/-- The disks that are built of those in a layout, without any that have no path, in their order. -/
def Layout.built (layouts : List DiskLayout) : List Disk :=
  layouts.filterMap fun layout => layout.path.map layout.built

theorem Layout.mem_built_iff {layouts : List DiskLayout} {d : Disk} :
    d ∈ built layouts ↔ ∃ layout ∈ layouts, ∃ path ∈ layout.path, layout.built path = d := by
  unfold built
  simp only [List.mem_filterMap, Option.map_eq_some_iff, Option.mem_def]

/-- A layout that is read is loaded: reading asks for all that building needs. -/
theorem Layout.load_of_parse (path : String) {contents : String} {layouts : List DiskLayout}
    (h : parse contents = .ok layouts) :
    (load path contents).answer = .ok (.static (built layouts)) := by
  have hdisks : layouts.mapM DiskLayout.toDisk? =
      .ok (layouts.map fun layout => layout.path.map layout.built) := by
    refine mapM_eq_ok_iff.mpr ?_
    rw [List.forall₂_map_right_iff, List.forall₂_same]
    exact fun layout hlayout => DiskLayout.toDisk?_of_isSound (isSound_of_parse h layout hlayout)
  rw [load_eq_ok path (bind_eq_ok_iff.mpr ⟨layouts, h, hdisks⟩), List.filterMap_map]
  rfl

/-- What is loaded are the disks that are built of a layout that is read. So a layout is loaded
    exactly if it is read. -/
theorem Layout.load_eq_ok_iff {path contents : String} {probe : Probe} :
    (load path contents).answer = .ok probe ↔
      ∃ layouts, parse contents = .ok layouts ∧ probe = .static (built layouts) := by
  constructor
  · intro h
    rcases Outcome.andThen_eq_ok_iff.mp h with ⟨layouts, hparse, _⟩
    exact ⟨layouts, hparse, Except.ok.inj (h.symm.trans (load_of_parse path hparse))⟩
  · rintro ⟨layouts, hparse, rfl⟩
    exact load_of_parse path hparse

end DiskPlan
