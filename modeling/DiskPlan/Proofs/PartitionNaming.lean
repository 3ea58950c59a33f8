import DiskPlan.Proofs.ProbeAgreement

/-!
# The Naming of Partitions

Which partitions of which disks share a path.

The path of a partition is made of two texts of any length with nothing fixed between them.
The number can be split off again, since its digits are the digits at the end of the path, and
the part in front does not end in one: a disk whose path does is set off from the number by a
`p`. What is left is the path of the disk with its separator, and the separator is not always
to be told from the path. A disk whose path has the separator of another one at its end takes
none of its own, and then each of its partitions has the path of one of the other disk. These
are the only two disks that get in each other's way.

A digit in this sense is not only a decimal one. The superscript at the end of a path is no
digit of any number, but it gets its separator as well, which does not do any harm.

## Main definitions

* `Disk.EndsInDigit`: A path that needs a separator.
* `Disk.EndsInSeparator`: A path that could be the path of another disk with its separator.

## Theorems

* `Disk.append_numberSeparator_inj`: What stands in front of the numbers of two disks.
* `Disk.partitionPath?_eq_iff`: The partitions that share a path.
* `DeviceListing.partition?_isSome`: A child with a number is a partition.
* `Disk.partitionPath?_isUnambiguous`: No two partitions share a path, and each is found by its
  number.
-/

namespace DiskPlan

namespace Disk

/-- A path that ends in a digit needs a separator. -/
def EndsInDigit (path : String) : Prop :=
  path.toList.getLast?.any Text.isDigit = true

/-- A path that ends in a digit with a `p` behind it could be the path of another disk with its
    separator. -/
def EndsInSeparator (path : String) : Prop :=
  ∃ own, EndsInDigit own ∧ path = own ++ "p"

variable {path c d : String}

/-- A disk whose path ends in a digit has its numbers set off by a `p`. -/
theorem numberSeparator_of_endsInDigit (h : EndsInDigit path) : numberSeparator path = "p" :=
  if_pos h

/-- All other disks have their numbers right behind the path. -/
theorem numberSeparator_of_not_endsInDigit (h : ¬ EndsInDigit path) :
    numberSeparator path = "" :=
  if_neg h

/-- A separator is not a digit, so it is not set off once more. -/
theorem not_endsInDigit_of_endsInSeparator (h : EndsInSeparator path) : ¬ EndsInDigit path := by
  -- The last character of such a path is the `p`.
  rcases h with ⟨own, _, rfl⟩
  unfold EndsInDigit
  rw [String.toList_append, List.getLast?_append_of_ne_nil _ (by decide)]
  decide

/-- What stands in front of the numbers is the same for two disks if they have the same path, or
    if one has the path of the other with its separator. -/
theorem append_numberSeparator_inj :
    c ++ numberSeparator c = d ++ numberSeparator d ↔
      c = d ∨ EndsInDigit c ∧ d = c ++ "p" ∨ EndsInDigit d ∧ c = d ++ "p" := by
  constructor
  · -- Whether a disk has a separator is decided by its path, so there are four cases, and in two
    -- of them the texts are of different disks.
    intro hsame
    by_cases hc : EndsInDigit c
    · rw [numberSeparator_of_endsInDigit hc] at hsame
      by_cases hd : EndsInDigit d
      · rw [numberSeparator_of_endsInDigit hd] at hsame
        exact Or.inl ((String.append_left_inj "p").mp hsame)
      · rw [numberSeparator_of_not_endsInDigit hd, String.append_empty] at hsame
        exact Or.inr (Or.inl ⟨hc, hsame.symm⟩)
    · rw [numberSeparator_of_not_endsInDigit hc, String.append_empty] at hsame
      by_cases hd : EndsInDigit d
      · rw [numberSeparator_of_endsInDigit hd] at hsame
        exact Or.inr (Or.inr ⟨hd, hsame⟩)
      · rw [numberSeparator_of_not_endsInDigit hd, String.append_empty] at hsame
        exact Or.inl hsame
  · rintro (rfl | ⟨hc, rfl⟩ | ⟨hd, rfl⟩)
    · rfl
    · -- The longer path has no separator of its own, since it ends in a `p`.
      have hnone := not_endsInDigit_of_endsInSeparator ⟨c, hc, rfl⟩
      rw [numberSeparator_of_endsInDigit hc, numberSeparator_of_not_endsInDigit hnone,
        String.append_empty]
    · have hnone := not_endsInDigit_of_endsInSeparator ⟨d, hd, rfl⟩
      rw [numberSeparator_of_endsInDigit hd, numberSeparator_of_not_endsInDigit hnone,
        String.append_empty]

/-- Two partitions share a path if they have the same number and their disks cannot be told
    apart in front of it. -/
theorem partitionPath?_eq_iff {m n : Nat} {s s' : String} (hs : partitionPath? c m = .ok s)
    (hs' : partitionPath? d n = .ok s') :
    s = s' ↔ m = n ∧ c ++ numberSeparator c = d ++ numberSeparator d := by
  have hm : s = c ++ numberSeparator c ++ m.repr := partitionPath?_eq_ok hs
  have hn : s' = d ++ numberSeparator d ++ n.repr := partitionPath?_eq_ok hs'
  constructor
  · rintro rfl
    -- The digits at the end are those of both numbers. The separator makes sure that none of them
    -- belongs to the path.
    have hdigits : m.repr.toList = n.repr.toList :=
      (DeviceListing.trailingDigits_of_partitionPath? hs).symm.trans
        (DeviceListing.trailingDigits_of_partitionPath? hs')
    obtain rfl := Decimal.repr_injective (String.toList_inj.mp hdigits)
    exact ⟨rfl, (String.append_left_inj m.repr).mp (hm.symm.trans hn)⟩
  · rintro ⟨rfl, hfront⟩
    rw [hm, hn, hfront]

/-- The partitions of a disk whose path ends like a separator can have the paths of another
    disk. -/
example : partitionPath? "/dev/nvme0p" 1 = partitionPath? "/dev/nvme0" 1 := by decide +kernel

end Disk

namespace DeviceListing

variable {child : Json.Fields} {path : String} {number : Nat} {sectorSize : Int}

/-- A child with a number at the end of its path is a partition with that number and path, if
    it is listed as one. -/
theorem partition?_isSome (hpath : DeviceListing.path child = .ok path)
    (hkind : isPartition child = true) (hnumber : trailingNumber? path = some (.ok number))
    {found : Option Partition} (h : partition? (.object child) sectorSize = .ok found) :
    ∃ p, found = some p ∧ p.path = path ∧ p.number = number := by
  unfold partition? at h
  rcases bind_eq_ok_iff.mp h with ⟨fields, hfields, h⟩
  obtain rfl : child = fields := Except.ok.inj hfields
  rcases bind_eq_ok_iff.mp h with ⟨own, hown, h⟩
  obtain rfl : path = own := Except.ok.inj (hpath.symm.trans hown)
  rw [hkind, hnumber, Bool.not_true, if_neg Bool.false_ne_true] at h
  -- The start and the size are read in front of the number, and none of it enters into the number
  -- or the path.
  rcases bind_eq_ok_iff.mp h with ⟨first, _, h⟩
  rcases bind_eq_ok_iff.mp h with ⟨bytes, _, h⟩
  rcases bind_eq_ok_iff.mp h with ⟨sectors, _, h⟩
  rcases bind_eq_ok_iff.mp h with ⟨n, hn, h⟩
  obtain rfl : number = n := Except.ok.inj hn
  rcases bind_eq_ok_iff.mp h with ⟨word, _, h⟩
  exact ⟨_, (Except.ok.inj h).symm, rfl, rfl⟩

end DeviceListing

/-- No two partitions of disks share a path, unless the path of a disk ends like a separator.
    A partition of a disk under `/dev/` that is listed with its path is found with its number,
    if its start, its size and its file system can be read. -/
theorem Disk.partitionPath?_isUnambiguous :
    (∀ (c d : Disk) (m n : Nat), ¬ EndsInSeparator c.path → ¬ EndsInSeparator d.path →
      m.repr.length ≤ Decimal.digitLimit → n.repr.length ≤ Decimal.digitLimit →
      ∃ s s', partitionPath? c.path m = .ok s ∧ partitionPath? d.path n = .ok s' ∧
        (s = s' ↔ c.path = d.path ∧ m = n)) ∧
    (∀ (name : String) (n : Nat), n.repr.length ≤ Decimal.digitLimit →
      ∃ s, partitionPath? ("/dev/" ++ name) n = .ok s ∧
        DeviceListing.trailingNumber? s = some (.ok n) ∧
        ∀ (child : Json.Fields) (sectorSize : Int),
          (Json.get? "path" child).or (Json.get? "name" child) = some (.text s) →
          Json.get? "type" child = some (.text "part") →
          (∀ found, DeviceListing.partition? (.object child) sectorSize = .ok found →
            ∃ p, found = some p ∧ p.path = s ∧ p.number = n) ∧
          (∀ first bytes word, DeviceListing.numberIn 0 "start" child = .ok first →
            DeviceListing.numberIn 0 "size" child = .ok bytes →
            DeviceListing.labelIn? "lower" "fstype" child = .ok word → sectorSize ≠ 0 →
            ∃ found, DeviceListing.partition? (.object child) sectorSize = .ok found)) := by
  have hwritable : ∀ n : Nat, n.repr.length ≤ Decimal.digitLimit →
      Decimal.isWritable n = true := by
    intro n hn
    refine (Json.length_repr_le_iff n).mp ?_
    rwa [Int.natAbs_natCast, String.length_toList]
  constructor
  · intro c d m n hc hd hm hn
    have hs := partitionPath?_of_isWritable c.path (hwritable m hm)
    have hs' := partitionPath?_of_isWritable d.path (hwritable n hn)
    -- Only the number has to be written for a path to exist.
    refine ⟨_, _, hs, hs', ?_⟩
    rw [partitionPath?_eq_iff hs hs', append_numberSeparator_inj, and_comm]
    refine and_congr_left fun _ => ⟨?_, Or.inl⟩
    rintro (hsame | ⟨hown, hlonger⟩ | ⟨hown, hlonger⟩)
    · exact hsame
    · -- Two paths that are the same but for a separator would make one of the disks end like one.
      exact absurd ⟨c.path, hown, hlonger⟩ hd
    · exact absurd ⟨d.path, hown, hlonger⟩ hc
  · intro name n hn
    have hnumber := DeviceListing.trailingNumber?_of_isWritable ("/dev/" ++ name) (hwritable n hn)
    refine ⟨_, partitionPath?_of_isWritable _ (hwritable n hn), hnumber, ?_⟩
    intro child sectorSize hgiven htype
    have hpath : DeviceListing.path child =
        .ok ("/dev/" ++ name ++ numberSeparator ("/dev/" ++ name) ++ Decimal.text n) := by
      unfold DeviceListing.path
      rw [hgiven]
      -- A path under `/dev/` is not put there once more.
      simp only [String.append_assoc, devicePath_of_append]
    have hkind : DeviceListing.isPartition child = true := by
      unfold DeviceListing.isPartition
      rw [htype]
      decide
    constructor
    · intro found hfound
      exact DeviceListing.partition?_isSome hpath hkind hnumber hfound
    · intro first bytes word hfirst hbytes hword hsize
      exact ⟨_, DeviceListing.partition?_of_answers hpath hkind hnumber hfirst hbytes
        (if_neg hsize) hword⟩

/-- A superscript is a digit, but no decimal one. The number behind its separator is found. -/
theorem Disk.partitionPath?_isUnambiguous_ofSuperscript :
    partitionPath? "/dev/disk²" 12 = .ok "/dev/disk²p12" ∧
      ∃ p, DeviceListing.partition? (.object [("name", .text "/dev/disk²p12"),
        ("type", .text "part"), ("size", .int 4096)]) 512 = .ok (some p) ∧ p.number = 12 := by
  rcases partitionPath?_isUnambiguous.2 "disk²" 12 (by decide) with ⟨s, hs, _, hfound⟩
  obtain rfl : s = "/dev/disk²p12" := (partitionPath?_eq_ok hs).trans (by decide)
  rcases hfound [("name", .text "/dev/disk²p12"), ("type", .text "part"), ("size", .int 4096)]
    512 rfl rfl with ⟨hnumbered, hexists⟩
  rcases hexists 0 4096 none rfl rfl rfl (by decide) with ⟨found, hread⟩
  rcases hnumbered found hread with ⟨p, rfl, _, hnumber⟩
  exact ⟨hs, p, hread, hnumber⟩

end DiskPlan
