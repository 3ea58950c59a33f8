import DiskPlan.Proofs.Stages
import DiskPlan.SystemProbe

/-!
# Paths of Partitions

The number in the path of a partition, written and read.

A disk makes the path of a partition from its own and a number. A device listing goes
the other way and takes the number from the end of a path. The two have to agree: what
was made from a number has to be read as that number, whatever disk it was made for.
This rests on the separator. A path that ends in a digit gets a `p`, and any other path
ends the run of digits itself, since every decimal digit is a digit.

The converse does not hold. A path in a listing can have leading zeros, digits of any
script or a line break at its end, and need not begin like the path of its disk. It
is read all the same, and no number gives it back. So a partition that was found need
not be where its number says, but it is never where a number beyond its own would put
another one, and that is all that new partitions rely on.

## Main definitions

* `Disk.IsProbed`: A disk that some probe finds.

## Theorems

* `Decimal.text_injective`: A number is known by its text.
* `Disk.partitionPath?_injective`: A partition is known by its path.
* `DeviceListing.trailingDigits_of_partitionPath?`: The digits at the end of a path are
  those of its number.
* `DeviceListing.trailingNumber?_of_partitionPath?`: A path is read as the number it is
  made of.
* `DeviceListing.partition?_of_answers`, `DeviceListing.disk_of_answers`: What is read from a
  listing, reader by reader.
* `Disk.IsProbed.exists_devicePath`: Every probe finds disks under `/dev/`.
* `Disk.IsProbed.le_number`: No number beyond its own leads to a partition that is found.
* `Disk.IsProbed.isUnmounted`: No partition that is found is mounted anywhere.
-/

namespace DiskPlan

/-! ### Numerals -/

namespace Decimal

/-- An ASCII digit is the same digit of any script. -/
theorem decimalDigit?_of_isDigit {c : Char} (h : c.isDigit = true) :
    Text.decimalDigit? c = some (c.toNat - '0'.toNat) := by
  -- The ASCII digits come first among the scripts.
  have hbounds : 0x0030 ≤ c.toNat ∧ c.toNat ≤ 0x0030 + 9 := Text.bounds_of_isDigit h
  unfold Text.decimalDigit? Text.zeros
  rw [List.find?_cons_of_pos (by simpa using hbounds)]
  rfl

theorem isDecimalDigit_of_mem_repr {n : Nat} {c : Char} (h : c ∈ n.repr.toList) :
    Text.isDecimalDigit c = true := by
  rw [Nat.toList_repr] at h
  unfold Text.isDecimalDigit
  rw [decimalDigit?_of_isDigit (Nat.isDigit_of_mem_toDigits (by decide) (by decide) h)]
  rfl

/-- The digits of a number are read as the number. -/
theorem ofDecimalDigits_repr (n : Nat) : ofDecimalDigits n.repr.toList = n := by
  rw [Nat.toList_repr]
  -- Both fold over the digits, and only the value of a digit is found differently.
  have hsame : ofDecimalDigits (Nat.toDigits 10 n) = Nat.ofDigitChars 10 (Nat.toDigits 10 n) 0 := by
    unfold ofDecimalDigits Nat.ofDigitChars
    refine List.foldl_ext _ _ _ fun value c hc => ?_
    rw [decimalDigit?_of_isDigit (Nat.isDigit_of_mem_toDigits (by decide) (by decide) hc),
      Option.getD_some, Nat.mul_comm]
  rw [hsame, Nat.ofDigitChars_toDigits (by decide) (by decide)]

theorem repr_injective {n m : Nat} (h : n.repr = m.repr) : n = m := by
  rw [← ofDecimalDigits_repr n, ← ofDecimalDigits_repr m, h]

/-- The text of a number begins with a sign exactly if it is negative, so it tells the
    number. -/
theorem text_injective {a b : Int} (h : text a = text b) : a = b := by
  -- A sign is no digit.
  have hsign : ∀ n m : Nat, n.repr ≠ "-" ++ m.repr := by
    intro n m hsame
    have hmem : '-' ∈ n.repr.toList := by
      rw [hsame, String.toList_append]
      exact List.mem_append_left _ (by decide)
    exact absurd (isDecimalDigit_of_mem_repr hmem) (by decide)
  cases a with
  | ofNat n =>
      cases b with
      | ofNat m => exact congrArg Int.ofNat (repr_injective h)
      | negSucc m => exact absurd h (hsign n (m + 1))
  | negSucc n =>
      cases b with
      | ofNat m => exact absurd h.symm (hsign m (n + 1))
      | negSucc m =>
          have hdigits : (n + 1).repr = (m + 1).repr := by
            have hlist := congrArg String.toList h
            simp only [text, String.toList_append, List.append_cancel_left_eq] at hlist
            exact String.toList_inj.mp hlist
          exact congrArg Int.negSucc (Nat.succ.inj (repr_injective hdigits))

end Decimal

/-! ### Paths -/

namespace Disk

variable {path s : String}

theorem partitionPath?_eq_ok {number : Int} (h : partitionPath? path number = .ok s) :
    s = path ++ numberSeparator path ++ Decimal.text number := by
  unfold partitionPath? at h
  split at h
  · exact absurd h (by simp only [reduceCtorEq, not_false_eq_true])
  · rename_i digits hdigits
    rw [(Decimal.write_eq_ok_iff.mp hdigits).2]
    exact (Except.ok.inj h).symm

/-- The partitions of a disk are known by their paths. -/
theorem partitionPath?_injective {a b : Int} (ha : partitionPath? path a = .ok s)
    (hb : partitionPath? path b = .ok s) : a = b := by
  have hsame := congrArg String.toList
    ((partitionPath?_eq_ok ha).symm.trans (partitionPath?_eq_ok hb))
  rw [String.toList_append, String.toList_append (t := Decimal.text b),
    List.append_cancel_left_eq] at hsame
  exact Decimal.text_injective (String.toList_inj.mp hsame)

/-- What stands in front of the number does not end in a decimal digit. -/
theorem isDecimalDigit_of_getLast? {c : Char}
    (h : (path ++ numberSeparator path).toList.getLast? = some c) :
    Text.isDecimalDigit c = false := by
  unfold numberSeparator at h
  split at h
  · rw [String.toList_append] at h
    have hp : 'p' = c := by simpa using h
    rw [← hp]
    decide
  · rename_i hdigit
    rw [String.append_empty] at h
    rw [h] at hdigit
    -- No digit of any kind, so no decimal digit.
    cases hc : Text.isDecimalDigit c with
    | false => rfl
    | true => exact absurd (Text.isDigit_of_isDecimalDigit hc) hdigit

end Disk

/-- The matches at the end of a list are all of them, if what stands in front of them does
    not end in a match. -/
theorem reverse_takeWhile_reverse {α : Type} {p : α → Bool} {front back : List α}
    (hback : ∀ a ∈ back, p a = true) (hfront : ∀ a, front.getLast? = some a → p a = false) :
    ((front ++ back).reverse.takeWhile p).reverse = back := by
  have hstop : front.reverse.takeWhile p = [] := by
    cases hcases : front.reverse with
    | nil => rfl
    | cons a rest =>
        have hlast : front.getLast? = some a := by
          rw [← List.head?_reverse, hcases]
          rfl
        rw [List.takeWhile_cons_of_neg]
        rw [hfront a hlast]
        exact Bool.false_ne_true
  rw [List.reverse_append, List.takeWhile_append_of_pos, hstop, List.append_nil,
    List.reverse_reverse]
  exact fun a ha => hback a (List.mem_reverse.mp ha)

namespace DeviceListing

/-- The digits at the end of the path of a partition are those of its number. -/
theorem trailingDigits_of_partitionPath? {path s : String} {n : Nat}
    (h : Disk.partitionPath? path n = .ok s) : trailingDigits s = n.repr.toList := by
  have hs : s.toList = (path ++ Disk.numberSeparator path).toList ++ n.repr.toList := by
    rw [Disk.partitionPath?_eq_ok h, String.toList_append]
    rfl
  -- A line break at the end would be passed over.
  have hbreak : withoutLineBreak s.toList = s.toList := by
    have hne := Decimal.toList_repr_ne_nil n
    unfold withoutLineBreak
    rw [if_neg]
    -- The last character is a digit, which a line break is not.
    rw [hs, List.getLast?_append_of_ne_nil _ hne]
    exact fun hlast => absurd (Decimal.isDecimalDigit_of_mem_repr (List.mem_of_getLast? hlast))
      (by decide)
  unfold trailingDigits
  rw [hbreak, hs]
  exact reverse_takeWhile_reverse (fun c hc => Decimal.isDecimalDigit_of_mem_repr hc)
    fun c hc => Disk.isDecimalDigit_of_getLast? hc

/-- A path that is made from a number is read as that number. -/
theorem trailingNumber?_of_partitionPath? {path s : String} {n m : Nat}
    (h : Disk.partitionPath? path n = .ok s) (hread : trailingNumber? s = some (.ok m)) :
    m = n := by
  unfold trailingNumber? at hread
  dsimp only at hread
  rw [trailingDigits_of_partitionPath? h, Decimal.ofDecimalDigits_repr] at hread
  split at hread
  · exact absurd hread (by simp only [reduceCtorEq, not_false_eq_true])
  · split at hread
    · exact (Except.ok.inj (Option.some.inj hread)).symm
    · exact absurd (Option.some.inj hread) (by simp only [reduceCtorEq, not_false_eq_true])

/-- A child is read as a partition if each of its readers has an answer. -/
theorem partition?_of_answers {fields : Json.Fields} {path : String} {number : Nat}
    {sectorSize first bytes sectors : Int} {word : Option Label}
    (hpath : DeviceListing.path fields = .ok path) (hkind : isPartition fields = true)
    (hnumber : trailingNumber? path = some (.ok number))
    (hfirst : numberIn 0 "start" fields = .ok first)
    (hbytes : numberIn 0 "size" fields = .ok bytes)
    (hsectors : inSectors bytes sectorSize = .ok sectors)
    (hword : labelIn? "lower" "fstype" fields = .ok word) :
    partition? (.object fields) sectorSize = .ok (some {
      path := path
      number := number
      first := first
      last := first + max sectors 1 - 1
      role := .primary
      filesystem := word.map fun l => .ofReport l.repaired
      provenance := .existing
      target := none
      name := none
      mount := none
      keyId := none
      flags := []
      membership := none
      removed := false }) := by
  unfold partition?
  refine bind_eq_ok_iff.mpr ⟨fields, rfl, bind_eq_ok_iff.mpr ⟨_, hpath, ?_⟩⟩
  rw [hkind, hnumber, Bool.not_true, if_neg Bool.false_ne_true]
  refine bind_eq_ok_iff.mpr ⟨_, hfirst, bind_eq_ok_iff.mpr ⟨_, hbytes, ?_⟩⟩
  refine bind_eq_ok_iff.mpr ⟨_, hsectors, bind_eq_ok_iff.mpr ⟨number, rfl, ?_⟩⟩
  exact bind_eq_ok_iff.mpr ⟨_, hword, rfl⟩

/-- A disk is read if each of its readers has an answer. -/
theorem disk_of_answers {fields : Json.Fields} {path : String} {size bytes sectors : Int}
    {model : Option Label} {table : Option TableKind} {found : List Partition}
    (hpath : DeviceListing.path fields = .ok path) (hsize : sectorSize fields = .ok size)
    (hbytes : numberIn 0 "size" fields = .ok bytes)
    (hsectors : inSectors bytes size = .ok sectors)
    (hmodel : labelIn? "strip" "model" fields = .ok model)
    (htable : tableKind ((Json.get? "pttype" fields).getD .null) = .ok table)
    (hfound : partitions fields size = .ok found) :
    disk (.object fields) = .ok {
      path := path
      sectors := sectors
      sectorSize := size
      model := (model.map Label.stripped).getD (.ofString "Unknown")
      table := table
      partitions := found
      relabeled := false } := by
  unfold disk
  refine bind_eq_ok_iff.mpr ⟨fields, rfl, bind_eq_ok_iff.mpr ⟨_, hpath, ?_⟩⟩
  refine bind_eq_ok_iff.mpr ⟨_, hsize, bind_eq_ok_iff.mpr ⟨_, hbytes, ?_⟩⟩
  refine bind_eq_ok_iff.mpr ⟨_, hsectors, bind_eq_ok_iff.mpr ⟨_, hmodel, ?_⟩⟩
  exact bind_eq_ok_iff.mpr ⟨_, htable, bind_eq_ok_iff.mpr ⟨_, hfound, rfl⟩⟩

/-- A partition in a listing has the number at the end of its path, and it is there
    already, and not mounted anywhere. -/
theorem partition?_eq_ok {v : Json} {sectorSize : Int} {p : Partition}
    (h : partition? v sectorSize = .ok (some p)) :
    ∃ n : Nat, p.number = n ∧ trailingNumber? p.path = some (.ok n) ∧
      p.provenance = .existing ∧ p.IsUnmounted := by
  unfold partition? at h
  rcases bind_eq_ok_iff.mp h with ⟨fields, _, h⟩
  rcases bind_eq_ok_iff.mp h with ⟨path, _, h⟩
  split at h
  · exact absurd (Except.ok.inj h) (by simp only [reduceCtorEq, not_false_eq_true])
  · split at h
    · exact absurd (Except.ok.inj h) (by simp only [reduceCtorEq, not_false_eq_true])
    · rename_i number hnumber
      rcases bind_eq_ok_iff.mp h with ⟨first, _, h⟩
      rcases bind_eq_ok_iff.mp h with ⟨size, _, h⟩
      rcases bind_eq_ok_iff.mp h with ⟨sectors, _, h⟩
      rcases bind_eq_ok_iff.mp h with ⟨n, hn, h⟩
      rcases bind_eq_ok_iff.mp h with ⟨filesystem, _, h⟩
      obtain rfl := Option.some.inj (Except.ok.inj h)
      exact ⟨n, rfl, hn ▸ hnumber, rfl, rfl, rfl⟩

/-- The path and the partitions of a disk in a listing come from its fields, and it has no
    new table. -/
theorem disk_eq_ok {v : Json} {d : Disk} (h : disk v = .ok d) :
    ∃ fields sectorSize, path fields = .ok d.path ∧ d.relabeled = false ∧
      partitions fields sectorSize = .ok d.partitions := by
  unfold disk at h
  rcases bind_eq_ok_iff.mp h with ⟨fields, _, h⟩
  rcases bind_eq_ok_iff.mp h with ⟨path, hpath, h⟩
  rcases bind_eq_ok_iff.mp h with ⟨sectorSize, _, h⟩
  rcases bind_eq_ok_iff.mp h with ⟨size, _, h⟩
  rcases bind_eq_ok_iff.mp h with ⟨sectors, _, h⟩
  rcases bind_eq_ok_iff.mp h with ⟨model, _, h⟩
  rcases bind_eq_ok_iff.mp h with ⟨table, _, h⟩
  rcases bind_eq_ok_iff.mp h with ⟨listed, hlisted, h⟩
  obtain rfl := Except.ok.inj h
  exact ⟨fields, sectorSize, hpath, rfl, hlisted⟩

theorem partition?_of_disk {v : Json} {d : Disk} (h : disk v = .ok d) :
    ∀ p ∈ d.partitions, ∃ child sectorSize, partition? child sectorSize = .ok (some p) := by
  rcases disk_eq_ok h with ⟨fields, sectorSize, _, _, hlisted⟩
  unfold partitions at hlisted
  rcases bind_eq_ok_iff.mp hlisted with ⟨children, _, hlisted⟩
  rcases bind_eq_ok_iff.mp hlisted with ⟨found, hfound, hlisted⟩
  intro p hp
  rw [← Except.ok.inj hlisted] at hp
  rcases List.mem_filterMap.mp hp with ⟨p', hp', rfl⟩
  rcases mem_of_mapM_eq_ok hfound _ hp' with ⟨child, _, hchild⟩
  exact ⟨child, sectorSize, hchild⟩

/-- The path of a disk in a listing is one under `/dev/`. -/
theorem exists_devicePath_of_disk {v : Json} {d : Disk} (h : disk v = .ok d) :
    ∃ name, d.path = devicePath name := by
  rcases disk_eq_ok h with ⟨fields, _, hpath, _⟩
  unfold path at hpath
  split at hpath
  · exact ⟨"", (Except.ok.inj hpath).symm⟩
  · rename_i name _
    exact ⟨name, (Except.ok.inj hpath).symm⟩
  · rename_i label _
    exact ⟨label.repaired, (Except.ok.inj hpath).symm⟩
  · exact absurd hpath (by simp only [unusable, reduceCtorEq, not_false_eq_true])

end DeviceListing

/-! ### Probes -/

/-- What a running system finds is the first disk of a listing. -/
theorem listedDisk?_of_lookup {execute : Invocation → Execution} {settings : ProbeSettings}
    {name : String} {d : Disk}
    (h : ((SystemProbe.probe execute settings).lookup name).answer = .ok (some d)) :
    ∃ output, SystemProbe.listedDisk? output = .ok (some d) := by
  rcases Outcome.andThen_eq_ok_iff.mp h with ⟨result, _, h⟩
  split at h
  · exact absurd (Except.ok.inj h) (by simp only [reduceCtorEq, not_false_eq_true])
  · rcases Outcome.andThen_eq_ok_iff.mp h with ⟨found, hfound, h⟩
    obtain rfl : found = some d := Except.ok.inj h
    exact ⟨result.output, hfound⟩

/-- What a running system finds is a disk of a listing. -/
theorem disk_of_lookup {execute : Invocation → Execution} {settings : ProbeSettings}
    {name : String} {d : Disk}
    (h : ((SystemProbe.probe execute settings).lookup name).answer = .ok (some d)) :
    ∃ v, DeviceListing.disk v = .ok d := by
  rcases listedDisk?_of_lookup h with ⟨output, hlisted⟩
  unfold SystemProbe.listedDisk? at hlisted
  rcases bind_eq_ok_iff.mp hlisted with ⟨devices, _, hlisted⟩
  rcases bind_eq_ok_iff.mp hlisted with ⟨first?, _, hlisted⟩
  cases first? with
  | none => exact absurd (Except.ok.inj hlisted) (by simp only [reduceCtorEq, not_false_eq_true])
  | some v =>
      rcases bind_eq_ok_iff.mp hlisted with ⟨d', hd', hlisted⟩
      obtain rfl := Option.some.inj (Except.ok.inj hlisted)
      exact ⟨v, hd'⟩

namespace Disk

/-- A disk that some probe finds: in a layout, or on a running system. -/
inductive IsProbed : Disk → Prop
  | ofLayout {path contents name : String} {probe : Probe} {d : Disk}
      (hload : (Layout.load path contents).answer = .ok probe)
      (hfound : (probe.lookup name).answer = .ok (some d)) : IsProbed d
  | ofSystem {execute : Invocation → Execution} {settings : ProbeSettings} {name : String}
      {d : Disk} (hfound : ((SystemProbe.probe execute settings).lookup name).answer =
        .ok (some d)) : IsProbed d

/-- Every probe finds disks under `/dev/`. -/
theorem IsProbed.exists_devicePath {d : Disk} (h : d.IsProbed) :
    ∃ name, d.path = devicePath name := by
  cases h with
  | ofLayout hload hfound => exact exists_devicePath_of_load hload hfound
  | ofSystem hfound =>
      rcases disk_of_lookup hfound with ⟨v, hv⟩
      exact DeviceListing.exists_devicePath_of_disk hv

/-- The partitions that a probe finds on a disk are of a layout or of a listing. -/
theorem IsProbed.partition_cases {d : Disk} (h : d.IsProbed) {p : Partition}
    (hp : p ∈ d.partitions) :
    (∃ source, DiskLayout.toPartition d.path source = .ok p) ∨
      ∃ child sectorSize, DeviceListing.partition? child sectorSize = .ok (some p) := by
  cases h with
  | ofLayout hload hfound =>
      rcases toDisk?_of_load hload hfound with ⟨layout, _, hlayout⟩
      exact Or.inl ((toDisk?_eq_ok hlayout).2.2 p hp)
  | ofSystem hfound =>
      rcases disk_of_lookup hfound with ⟨v, hv⟩
      exact Or.inr (DeviceListing.partition?_of_disk hv p hp)

/-- No number beyond its own leads to a partition that is found. -/
theorem IsProbed.le_number {d : Disk} (h : d.IsProbed) :
    ∀ p ∈ d.partitions, ∀ number, partitionPath? d.path number = .ok p.path →
      number ≤ p.number := by
  intro p hp number hpath
  rcases h.partition_cases hp with ⟨source, hsource⟩ | ⟨child, sectorSize, hchild⟩
  · -- A layout makes its paths in the same way, so only the number itself leads there.
    exact Int.le_of_eq (partitionPath?_injective hpath (toPartition_eq_ok hsource).1)
  · rcases DeviceListing.partition?_eq_ok hchild with ⟨n, hn, hread, _⟩
    rw [hn]
    cases number with
    | negSucc m =>
        -- A number below zero can lead there, since its sign is no digit.
        omega
    | ofNat m =>
        rw [DeviceListing.trailingNumber?_of_partitionPath? hpath hread]
        exact Int.le_refl _

theorem IsProbed.isUnmounted {d : Disk} (h : d.IsProbed) :
    ∀ p ∈ d.partitions, p.IsUnmounted := by
  intro p hp
  rcases h.partition_cases hp with ⟨source, hsource⟩ | ⟨child, sectorSize, hchild⟩
  · exact (toPartition_eq_ok hsource).2.2.2
  · rcases DeviceListing.partition?_eq_ok hchild with ⟨_, _, _, _, hunmounted⟩
    exact hunmounted

end Disk

end DiskPlan
