import DiskPlan.Proofs.LayoutValues
import DiskPlan.Proofs.PartitionPaths

/-!
# Sizes of Probed Disks

The sectors of a disk that a probe finds can be written.

A probe takes its numbers from a text, and a text cannot spell a number that is beyond the
limit on numerals. A layout gives the sectors themselves. A listing gives them in bytes, as a
number of any kind: a whole number is within the limit because it was read, a numeral in
quotes because a longer one counts as absent, and the whole part of a fraction because a
double has little more than three hundred digits in front of its point. Dividing by the sector
size brings the number closer to zero and never further away.

A session leaves the sectors of its disks alone. So on disks that were probed, whatever is
placed or moved can be told of.

## Theorems

* `Decimal.isWritable_of_loose?`: The value of a numeral in the loose form.
* `DeviceListing.isWritable_of_number`: A number in a listing.
* `DeviceListing.isWritable_of_disk`: The sectors of a listed disk.
* `Disk.IsProbed.isWritable_sectors`: The sectors of a disk that a probe finds.
-/

namespace DiskPlan

/-! ### Numbers in listings -/

namespace Decimal

/-- Decimal digits of any script stand for less than the power of ten with as many zeros. The
    induction is from the end, where one more digit makes ten of each of those before it. -/
theorem ofDecimalDigits_lt (cs : List Char) : ofDecimalDigits cs < 10 ^ cs.length := by
  induction cs using List.reverseRecOn with
  | nil => exact Nat.one_pos
  | append_singleton cs c ih =>
      have hdigit : (Text.decimalDigit? c).getD 0 < 10 := by
        unfold Text.decimalDigit?
        cases hzero : Text.zeros.find? fun z => z ≤ c.toNat && c.toNat ≤ z + 9 with
        | none => exact Nat.zero_lt_succ 9
        -- A digit of any script is at most nine places behind the zero of that script.
        | some z =>
            have hrange := List.find?_some hzero
            rw [Bool.and_eq_true, decide_eq_true_eq, decide_eq_true_eq] at hrange
            change c.toNat - z < 10
            omega
      unfold ofDecimalDigits at ih ⊢
      rw [List.foldl_append, List.foldl_cons, List.foldl_nil, List.length_append,
        List.length_singleton, Nat.pow_succ]
      omega

/-- A numeral in the loose form is within the limit, since a longer one has no value. The spaces
    and underscores of that form do not count as digits, neither for the limit nor for the value. -/
theorem isWritable_of_loose? {s : String} {n : Int} (h : loose? s = some n) :
    isWritable n = true := by
  have hvalue : ∀ (negative : Bool) (groups : List (List Char)),
      (if groups.all (fun g => !g.isEmpty && g.all Text.isDecimalDigit) &&
          groups.flatten.length ≤ digitLimit then
        some (if negative then -(ofDecimalDigits groups.flatten : Int)
          else ofDecimalDigits groups.flatten)
      else none) = some n → isWritable n = true := by
    intro negative groups h
    split at h
    · rename_i hcounts
      obtain rfl := Option.some.inj h
      rw [Bool.and_eq_true, decide_eq_true_eq] at hcounts
      refine isWritable_of_natAbs_lt ?_ hcounts.2
      rw [natAbs_ofSign]
      exact ofDecimalDigits_lt _
    · exact absurd h (by simp only [reduceCtorEq, not_false_eq_true])
  unfold loose? at h
  dsimp only at h
  -- The sign makes no difference to how long the numeral is.
  split at h
  · exact hvalue true _ h
  · exact hvalue false _ h
  · exact hvalue false _ h

/-- A quotient is no further from zero than what is divided, whatever its sign, so the sectors
    can be written where the bytes can. -/
theorem isWritable_fdiv {m : Int} (h : isWritable m = true) (n : Int) :
    isWritable (Int.fdiv m n) = true := by
  unfold isWritable at *
  -- The limit is a number of thousands of digits, which is not to be computed.
  generalize Nat.pow 10 digitLimit = bound at *
  rw [decide_eq_true_eq] at *
  exact Nat.lt_of_le_of_lt (Int.natAbs_fdiv_le_natAbs m n) h

end Decimal

namespace DeviceListing

/-- A number in a listing can be written, if the listing stands in a text. Each kind of value has
    its own reason, which is why the cases are those of the reader. -/
theorem isWritable_of_number {absent n : Int} {v : Json}
    (habsent : Decimal.isWritable absent = true) (hv : v.IsRead) (h : number absent v = .ok n) :
    Decimal.isWritable n = true := by
  unfold number at h
  split at h
  · obtain rfl := Except.ok.inj h
    exact hv.isWritable
  · obtain rfl := Except.ok.inj h
    refine Decimal.isWritable_of_natAbs_lt (k := 1) ?_ (by decide)
    split <;> decide
  · obtain rfl := Except.ok.inj h
    cases hloose : Decimal.loose? _ with
    | none => exact habsent
    | some n => exact Decimal.isWritable_of_loose? hloose
  · exact absurd h (by simp only [reduceCtorEq, not_false_eq_true])
  · obtain rfl := Except.ok.inj h
    -- The whole part of a fraction stands on a fact of the text, since a double could be made up
    -- that has more digits.
    rename_i x _
    cases hwhole : x.truncate? with
    | none => exact habsent
    | some n =>
        rcases hv with ⟨_, hspelled⟩
        cases hspelled with
        | real _ _ hwritten => exact hwritten n hwhole
  · obtain rfl := Except.ok.inj h
    exact habsent

/-- Only an object has fields. -/
theorem fieldsOf_eq_ok {v : Json} {fields : Json.Fields} (h : fieldsOf v = .ok fields) :
    v = .object fields := by
  unfold fieldsOf at h
  split at h
  · rw [Except.ok.inj h]
  · exact absurd h (by simp only [unusable, reduceCtorEq, not_false_eq_true])

/-- The sectors of a disk in a listing can be written, if the listing stands in a text. -/
theorem isWritable_of_disk {v : Json} {d : Disk} (hv : v.IsRead) (h : disk v = .ok d) :
    Decimal.isWritable d.sectors = true := by
  unfold disk at h
  rcases bind_eq_ok_iff.mp h with ⟨fields, hfields, h⟩
  rcases bind_eq_ok_iff.mp h with ⟨_, _, h⟩
  rcases bind_eq_ok_iff.mp h with ⟨size, _, h⟩
  rcases bind_eq_ok_iff.mp h with ⟨bytes, hbytes, h⟩
  rcases bind_eq_ok_iff.mp h with ⟨sectors, hsectors, h⟩
  rcases bind_eq_ok_iff.mp h with ⟨_, _, h⟩
  rcases bind_eq_ok_iff.mp h with ⟨_, _, h⟩
  rcases bind_eq_ok_iff.mp h with ⟨_, _, h⟩
  obtain rfl := Except.ok.inj h
  change Decimal.isWritable sectors = true
  -- A size that is missing counts as nothing, and one that is there stands in the text like the
  -- object around it.
  have hread : ((Json.get? "size" fields).getD .null).IsRead := by
    cases hget : Json.get? "size" fields with
    | none => exact ⟨0, .null⟩
    | some w =>
        obtain rfl := fieldsOf_eq_ok hfields
        exact hv.of_get? hget
  unfold inSectors at hsectors
  split at hsectors
  · exact absurd hsectors (by simp only [reduceCtorEq, not_false_eq_true])
  · obtain rfl := Except.ok.inj hsectors
    exact Decimal.isWritable_fdiv (isWritable_of_number Decimal.isWritable_zero hread hbytes) size

/-- The devices of a listing stand in its text. A listing without any is an empty list, which can
    be spelled as well. -/
theorem isRead_of_blocks {output : String} {devices : Json} (h : blocks output = .ok devices) :
    devices.IsRead := by
  have hnone : (Json.list []).IsRead := ⟨1, .list fun _ hv => absurd hv List.not_mem_nil⟩
  unfold blocks at h
  split at h
  · obtain rfl := Except.ok.inj h
    exact hnone
  · exact absurd h (by simp only [reduceCtorEq, not_false_eq_true])
  · rename_i v hparse
    rcases bind_eq_ok_iff.mp h with ⟨fields, hfields, h⟩
    obtain rfl := Except.ok.inj h
    cases hget : Json.get? "blockdevices" fields with
    | none => exact hnone
    | some devices =>
        obtain rfl := fieldsOf_eq_ok hfields
        exact Json.IsRead.of_get? ⟨_, Json.isSpelled_of_parse hparse⟩ hget

/-- The first of several devices is one of them, if it is a device at all. Devices may also be
    given as a text, which has a first character, but no character has fields. -/
theorem isRead_of_firstElement? {devices v : Json} {fields : Json.Fields}
    (hdevices : devices.IsRead) (h : firstElement? devices = .ok (some v))
    (hfields : fieldsOf v = .ok fields) : v.IsRead := by
  obtain rfl := fieldsOf_eq_ok hfields
  unfold firstElement? at h
  split at h
  · exact absurd (Except.ok.inj h) (by simp only [reduceCtorEq, not_false_eq_true])
  · split at h
    · exact hdevices.of_mem _ (List.mem_of_mem_head? (Except.ok.inj h))
    -- The characters of a text have no fields.
    · rcases Option.map_eq_some_iff.mp (Except.ok.inj h) with ⟨_, _, htext⟩
      exact absurd htext (by simp only [reduceCtorEq, not_false_eq_true])
    · rcases Option.map_eq_some_iff.mp (Except.ok.inj h) with ⟨_, _, hlabel⟩
      unfold Json.ofLabel at hlabel
      split at hlabel
      · exact absurd hlabel (by simp only [reduceCtorEq, not_false_eq_true])
      · exact absurd hlabel (by simp only [reduceCtorEq, not_false_eq_true])
    · exact absurd h (by simp only [reduceCtorEq, not_false_eq_true])
    · exact absurd h (by simp only [reduceCtorEq, not_false_eq_true])

end DeviceListing

/-! ### Probes -/

/-- The disk of a running system is read from the listing. -/
theorem SystemProbe.isWritable_of_listedDisk? {output : String} {d : Disk}
    (h : listedDisk? output = .ok (some d)) : Decimal.isWritable d.sectors = true := by
  unfold listedDisk? at h
  rcases bind_eq_ok_iff.mp h with ⟨devices, hdevices, h⟩
  rcases bind_eq_ok_iff.mp h with ⟨first?, hfirst, h⟩
  cases first? with
  | none => exact absurd (Except.ok.inj h) (by simp only [reduceCtorEq, not_false_eq_true])
  | some v =>
      rcases bind_eq_ok_iff.mp h with ⟨d', hdisk, h⟩
      obtain rfl := Option.some.inj (Except.ok.inj h)
      -- A disk is only made of an object, so what is read first can be no character.
      rcases bind_eq_ok_iff.mp hdisk with ⟨fields, hfields, _⟩
      have hread := DeviceListing.isRead_of_firstElement?
        (DeviceListing.isRead_of_blocks hdevices) hfirst hfields
      exact DeviceListing.isWritable_of_disk hread hdisk

/-- The sectors of a disk that a probe finds can be written. -/
theorem Disk.IsProbed.isWritable_sectors {d : Disk} (h : d.IsProbed) :
    Decimal.isWritable d.sectors = true := by
  cases h with
  -- The sectors of a layout are checked when it is read, whatever is built of them later.
  | ofLayout hload hfound =>
      rcases Layout.load_eq_ok_iff.mp hload with ⟨layouts, hparse, rfl⟩
      rcases Layout.mem_built_iff.mp (mem_of_lookup_static hfound) with
        ⟨layout, hlayout, _, _, rfl⟩
      exact (Layout.isSound_of_parse hparse layout hlayout).sectors_isWritable
  | ofSystem hfound =>
      rcases listedDisk?_of_lookup hfound with ⟨_, hlisted⟩
      exact SystemProbe.isWritable_of_listedDisk? hlisted

end DiskPlan
