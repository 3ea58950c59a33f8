import DiskPlan.Proofs.JsonValues
import DiskPlan.Proofs.ListedDevices

/-!
# Listed Disks

What a listing has to say for a disk to be the same, and what it may leave open.

The tools that print listings differ in how they spell numbers. A number in the fields of a
disk or of one of its children can be replaced by its text, here and there or everywhere,
and the disk that is read stays the same. Nothing needs to be known of the other fields for
this, and it holds of listings that cannot be read just as well: they fail alike. What it
rests on is that each number is read by itself, and that no reader of texts looks at one.

If the fields are of the right kinds, there is a disk, and nothing in it can be off: its
sectors have a size, its partitions have a sector at least, and they are the children that
are listed as partitions, in their order.

## Main definitions

* `DeviceListing.Respelled`, `DeviceListing.RespelledDevice`: A field, and a device, with
  some of its numbers as texts.

## Theorems

* `DeviceListing.get?_of_respelled`: The fields that are found in both spellings.
* `DeviceListing.disk_of_respelled`: A disk is read alike in all spellings.
* `DeviceListing.disk_selects_of_hasTree`: What is read from a disk of the right kinds.
-/

namespace DiskPlan

namespace Json

variable {name : String} {f : String × Json}

theorem get?_cons_of_eq (h : f.1 = name) (rest : Fields) : get? name (f :: rest) = some f.2 := by
  unfold get?
  rw [List.find?_cons, beq_iff_eq.mpr h]
  rfl

theorem get?_cons_of_ne (h : f.1 ≠ name) (rest : Fields) :
    get? name (f :: rest) = get? name rest := by
  unfold get?
  rw [List.find?_cons, beq_eq_false_iff_ne.mpr h]

end Json

namespace DeviceListing

mutual

/-- A field of a device and the same field, with some of the numbers in it as texts. The numbers
    of the children may be spelled anew as well, so fields and devices are defined together. -/
inductive Respelled : String × Json → String × Json → Prop
  | same (f : String × Json) : Respelled f f
  | number {name : String} {n : Int} (hname : name ∈ numberNames)
      (hwritable : Decimal.isWritable n = true) :
      Respelled (name, .int n) (name, .text (Decimal.text n))
  | children {vs ws : List Json} (h : List.Forall₂ RespelledDevice vs ws) :
      Respelled ("children", .list vs) ("children", .list ws)

/-- A device and the same device, with some of its numbers as texts. -/
inductive RespelledDevice : Json → Json → Prop
  | object {fs gs : Json.Fields} (h : List.Forall₂ Respelled fs gs) :
      RespelledDevice (.object fs) (.object gs)

end

variable {fs gs fields : Json.Fields} {children : List Json.Fields} {name : String} {v w : Json}

/-! ### Spellings -/

theorem Respelled.name_eq {f g : String × Json} (h : Respelled f g) : g.1 = f.1 := by
  cases h <;> rfl

/-- A field is in both spellings of a device, or in none of them. The names stay as they are and
    in their order, so the same field is the first of its name in both. -/
theorem get?_of_respelled (h : List.Forall₂ Respelled fs gs) (name : String) :
    (Json.get? name fs = none ∧ Json.get? name gs = none) ∨
      ∃ v w, Json.get? name fs = some v ∧ Json.get? name gs = some w ∧
        Respelled (name, v) (name, w) := by
  -- Along the fields that go together, up to the first one of the name.
  induction h with
  | nil => exact Or.inl ⟨rfl, rfl⟩
  | @cons f g _ _ hfield _ ih =>
      have hname := hfield.name_eq
      by_cases hfound : f.1 = name
      · subst hfound
        rw [Json.get?_cons_of_eq rfl, Json.get?_cons_of_eq hname]
        refine Or.inr ⟨f.2, g.2, rfl, rfl, ?_⟩
        rw [show (f.1, g.2) = g from Prod.ext hname.symm rfl]
        exact hfield
      · rw [Json.get?_cons_of_ne hfound, Json.get?_cons_of_ne (hname ▸ hfound)]
        exact ih

/-- A field that holds neither a number nor the children is in both spellings alike, since
    nothing else is spelled anew. -/
theorem get?_eq_of_respelled (h : List.Forall₂ Respelled fs gs) (hnumber : name ∉ numberNames)
    (hchildren : name ≠ "children") : Json.get? name gs = Json.get? name fs := by
  rcases get?_of_respelled h name with ⟨hfs, hgs⟩ | ⟨v, w, hfs, hgs, hfield⟩
  · rw [hfs, hgs]
  · rw [hfs, hgs]
    cases hfield with
    | same => rfl
    | number hname => exact absurd hname hnumber
    | children => exact absurd rfl hchildren

/-- A number is read from its text as it is from the number itself, as long as it can be written. -/
theorem numberIn_of_respelled (h : List.Forall₂ Respelled fs gs) (absent : Int) (name : String) :
    numberIn absent name gs = numberIn absent name fs := by
  unfold numberIn
  rcases get?_of_respelled h name with ⟨hfs, hgs⟩ | ⟨v, w, hfs, hgs, hfield⟩
  · rw [hfs, hgs]
  · rw [hfs, hgs, Option.getD_some, Option.getD_some]
    cases hfield with
    | same => rfl
    | number _ hwritable =>
        exact congrArg (fun n? => Except.ok (Option.getD n? absent)) (Decimal.loose?_text hwritable)
    | children => rfl

/-- The path is read from two fields, neither of which is a number. -/
theorem path_of_respelled (h : List.Forall₂ Respelled fs gs) : path gs = path fs := by
  have hname : Json.get? "name" gs = Json.get? "name" fs :=
    get?_eq_of_respelled h (by decide) (by decide)
  unfold path
  rw [get?_eq_of_respelled h (by decide) (by decide), hname]

theorem labelIn?_of_respelled (h : List.Forall₂ Respelled fs gs) (method : String)
    (hnumber : name ∉ numberNames) (hchildren : name ≠ "children") :
    labelIn? method name gs = labelIn? method name fs := by
  unfold labelIn?
  rw [get?_eq_of_respelled h hnumber hchildren]

/-- A child is read alike in all spellings: its path, its kind, its format, and the numbers of
    its sectors. -/
theorem partition?_of_respelled (h : RespelledDevice v w) (sectorSize : Int) :
    partition? w sectorSize = partition? v sectorSize := by
  cases h with
  | @object fs gs h =>
      have hkind : isPartition gs = isPartition fs := by
        unfold isPartition
        rw [get?_eq_of_respelled h (by decide) (by decide)]
      change (path gs >>= _) = (path fs >>= _)
      rw [path_of_respelled h, hkind, numberIn_of_respelled h 0 "start",
        numberIn_of_respelled h 0 "size", labelIn?_of_respelled h _ (by decide) (by decide)]

theorem partitions_of_respelled (h : List.Forall₂ Respelled fs gs) (sectorSize : Int) :
    partitions gs sectorSize = partitions fs sectorSize := by
  unfold partitions
  rcases get?_of_respelled h "children" with ⟨hfs, hgs⟩ | ⟨v, w, hfs, hgs, hfield⟩
  · rw [hfs, hgs]
  · rw [hfs, hgs, Option.getD_some, Option.getD_some]
    cases hfield with
    | same => rfl
    | number hname => exact absurd hname (by decide)
    -- The children go together one by one, so they are read one by one as well.
    | children hchildren =>
        have hmap := mapM_eq_of_forall₂ (f := fun child => partition? child sectorSize) hchildren
          fun v w hdevice => partition?_of_respelled hdevice sectorSize
        exact congrArg (fun found => found >>= fun ps => pure (ps.filterMap id)) hmap

/-- A disk is read alike in all spellings. It is put together from a path, numbers, labels and
    the partitions among its children, and none of these depends on the spelling. -/
theorem disk_of_respelled (h : RespelledDevice v w) : disk w = disk v := by
  cases h with
  | @object fs gs h =>
      have hsectorSize : sectorSize gs = sectorSize fs := by
        unfold sectorSize
        rw [numberIn_of_respelled h]
      have hpartitions : partitions gs = partitions fs := funext (partitions_of_respelled h)
      change (path gs >>= _) = (path fs >>= _)
      rw [path_of_respelled h, hsectorSize, numberIn_of_respelled h,
        labelIn?_of_respelled h _ (by decide) (by decide),
        get?_eq_of_respelled h (by decide) (by decide), hpartitions]

/-! ### Disks of the right kinds -/

/-- A number that is taken in the absence of another is never below zero if that other one is
    not. This is asked of the number that is read with 0 in its absence, so that it says nothing
    of a field that is missing. -/
theorem Reads.nonneg {absent n : Int} {v : Option Json} (h : Reads absent v n)
    (habsent : 0 ≤ absent) (hv : ∀ m, Reads 0 v m → 0 ≤ m) : 0 ≤ n := by
  cases h with
  | missing => exact habsent
  | null => exact habsent
  | int n => exact hv n (.int n)
  | text hs => exact hv n (.text hs)

/-- A disk of the right kinds is read alike in all spellings of its numbers. If they are numbers,
    and its sector size is not below zero, there is a disk with the children that list
    partitions, each of them with the number at the end of its path. All other children are left
    out. -/
theorem disk_selects_of_hasTree (h : HasTree fields children) :
    (∀ w, RespelledDevice (.object fields) w → disk w = disk (.object fields)) ∧
      ((∀ device ∈ fields :: children, ∀ name ∈ numberNames, ∀ v ∈ Json.get? name device,
          spellsNumber v = true) →
        (∀ n, Reads 0 (Json.get? "log-sec" fields) n → 0 ≤ n) →
        ∃ d, disk (.object fields) = .ok d ∧ 0 < d.sectorSize ∧
          (∀ p ∈ d.partitions, p.first ≤ p.last) ∧
          Selects (fun child (p : Partition) => ∃ digits, Lists child p.path digits ∧
              p.number = Decimal.ofDecimalDigits digits)
            ListsNone children d.partitions) := by
  refine ⟨fun w hw => disk_of_respelled hw, fun hnumbers hunits => ?_⟩
  rw [List.forall_mem_cons] at hnumbers
  rcases hnumbers with ⟨hown, hchildren⟩
  -- Every number of the disk and of its children has a value, so the disk is read.
  rcases exists_reads (hown "log-sec" (by decide)) 512 with ⟨unit, hunit⟩
  rcases exists_reads (hown "size" (by decide)) 0 with ⟨bytes, hbytes⟩
  rcases disk_of_hasTree h hunit hbytes fun child hchild _ =>
    ⟨exists_reads (hchildren child hchild "start" (by decide)) 0,
      exists_reads (hchildren child hchild "size" (by decide)) 0⟩
    with ⟨d, hd, hsectorSize, _, hselects⟩
  refine ⟨d, hd, ?_, fun p hp => ?_, hselects.mono fun child p hlisted => hlisted.number⟩
  · have hnonneg := hunit.nonneg (by decide) hunits
    rw [hsectorSize]
    -- A size of zero gives way to the usual one.
    split
    · decide
    · omega
  · rcases hselects.exists_mem p hp with ⟨child, _, hlisted⟩
    -- The size of a partition is taken as one sector at least.
    rcases hlisted.last with ⟨size, _, hlast⟩
    omega

/-- The children of a disk, of which the first and the last list partitions. -/
def childrenSpelled (spell : Int → Json) : List Json.Fields :=
  [[("name", .text "nvme0n1p1"), ("type", .text "part"), ("start", spell 2048),
      ("size", .text " 1_024 "), ("fstype", .text "ext4")],
    [("path", .text "/dev/nvme0n1p2"), ("type", .text "crypt")],
    [("path", .text "/dev/mapper/root"), ("type", .text "part")],
    [("path", .text "/dev/nvme0n1p010\n"), ("start", spell (-1)), ("size", .int 0)]]

/-- A disk with the children. -/
def fieldsSpelled (spell : Int → Json) : Json.Fields :=
  [("path", .text "/dev/nvme0n1"), ("size", spell 4096000), ("log-sec", .null),
    ("pttype", .text "gpt"), ("model", .text " Disk "),
    ("children", .list ((childrenSpelled spell).map .object))]

/-- The disk is the same with three of its numbers as texts, and two partitions are read. -/
theorem disk_selects_of_hasTree_spelled :
    disk (.object (fieldsSpelled fun n => .text (Decimal.text n))) =
        disk (.object (fieldsSpelled .int)) ∧
      ∃ d, disk (.object (fieldsSpelled .int)) = .ok d ∧ 0 < d.sectorSize ∧
        d.partitions.map (fun p => (p.path, p.number, p.first, p.last)) =
          [("/dev/nvme0n1p1", 1, 2048, 2049), ("/dev/nvme0n1p010\n", 10, -1, -1)] := by
  -- That the fields have the right kinds is checked on the lengths of their texts.
  have htyped : ∀ device ∈ fieldsSpelled .int :: childrenSpelled .int, IsTyped device := by
    intro device hdevice
    refine isTyped_of_lengths ?_
    revert device
    decide
  rw [List.forall_mem_cons] at htyped
  have htree : HasTree (fieldsSpelled .int) (childrenSpelled .int) :=
    ⟨htyped.1, Or.inl rfl, htyped.2⟩
  have hnumber : ∀ {name : String} {n : Int}, name ∈ numberNames → n.natAbs < 10 ^ 7 →
      Respelled (name, .int n) (name, .text (Decimal.text n)) := fun hname hn =>
    .number hname (Decimal.isWritable_of_natAbs_lt hn (by decide))
  -- The two partitions with numbers to spell anew are the first and the last of the children.
  have hchildren : List.Forall₂ RespelledDevice ((childrenSpelled .int).map .object)
      ((childrenSpelled fun n => .text (Decimal.text n)).map .object) := by
    refine .cons (.object ?_) (.cons (.object ?_) (.cons (.object ?_) (.cons (.object ?_) .nil)))
    · exact .cons (.same _) (.cons (.same _) (.cons (hnumber (by decide) (by decide))
        (.cons (.same _) (.cons (.same _) .nil))))
    · exact .cons (.same _) (.cons (.same _) .nil)
    · exact .cons (.same _) (.cons (.same _) .nil)
    · exact .cons (.same _) (.cons (hnumber (by decide) (by decide)) (.cons (.same _) .nil))
  have hspelled : RespelledDevice (.object (fieldsSpelled .int))
      (.object (fieldsSpelled fun n => .text (Decimal.text n))) :=
    .object (.cons (.same _) (.cons (hnumber (by decide) (by decide)) (.cons (.same _)
      (.cons (.same _) (.cons (.same _) (.cons (.children hchildren) .nil))))))
  rcases disk_selects_of_hasTree htree with ⟨hsame, hread⟩
  rcases hread (by decide) (fun n hn => by cases hn; decide) with ⟨d, hd, hsize, _, _⟩
  have hpartitions : (disk (.object (fieldsSpelled .int))).toOption.map (fun d =>
      d.partitions.map fun p => (p.path, p.number, p.first, p.last)) =
        some [("/dev/nvme0n1p1", 1, 2048, 2049), ("/dev/nvme0n1p010\n", 10, -1, -1)] := by
    decide +kernel
  rw [hd] at hpartitions
  exact ⟨hsame _ hspelled, d, hd, hsize, Option.some.inj hpartitions⟩

end DeviceListing

end DiskPlan
