import DiskPlan.Proofs.Leftovers
import DiskPlan.Proofs.PartitionPaths
import DiskPlan.Proofs.PlannedDisks
import Mathlib.Data.List.Nodup

/-!
# Numbers and Paths of Partitions

No two partitions of a disk share a number or a path, whatever is asked for.

A partition that is created gets the number behind the greatest one, so its number is
new by itself. Its path is made from that number, and could be the path of a partition
that has another number. That it is not is what `Disk.IsNumbered` says third: a number
beyond that of a partition does not lead to its path. Disks that are found have this
property by the way paths are read, and those that are created by the way they are
written.

A partition that is marked for removal is still there, so its number counts. Under a
new table there are no partitions, and numbers begin anew.

## Main definitions

* `Disk.IsNumbered`: The partitions of a disk have numbers and paths of their own.

## Theorems

* `DiskAction.Change.isNumbered`: Every change keeps numbers and paths apart.
* `applyToken_create_cases`: A created partition comes last.
* `afterTokens_isNumbered`: Tokens keep numbers and paths apart.
-/

namespace DiskPlan

open Relation

namespace Disk

/-- Partitions of a disk with numbers and paths of their own, and with no path to which
    a number beyond theirs would lead. -/
structure IsNumbered (d : Disk) : Prop where
  numbers : (d.partitions.map Partition.number).Nodup
  paths : (d.partitions.map Partition.path).Nodup
  le_number : ∀ p ∈ d.partitions, ∀ number, partitionPath? d.path number = .ok p.path →
    number ≤ p.number

end Disk

/-- A list stays without repetitions if what comes behind it is not in it yet. -/
theorem nodup_map_concat {α β : Type} {f : α → β} {as : List α} {a : α} (has : (as.map f).Nodup)
    (ha : ∀ b ∈ as, f b ≠ f a) : ((as ++ [a]).map f).Nodup := by
  rw [List.map_append, List.map_singleton, List.nodup_append]
  refine ⟨has, List.nodup_singleton _, fun x hx y hy hsame => ?_⟩
  rcases List.mem_map.mp hx with ⟨b, hb, rfl⟩
  exact ha b hb (hsame.trans (List.mem_singleton.mp hy))

namespace Disk

variable {d d' : Disk}

/-- Numbers and paths are part of what partitions are known by. -/
theorem IsNumbered.of_identities (hd : d.IsNumbered) (hpath : d'.path = d.path)
    (h : d'.partitions.map Partition.identity = d.partitions.map Partition.identity) :
    d'.IsNumbered := by
  have hnumbers : d'.partitions.map Partition.number = d.partitions.map Partition.number := by
    have hsame := congrArg (List.map fun x => x.2.1) h
    rw [List.map_map, List.map_map] at hsame
    exact hsame
  have hpaths : d'.partitions.map Partition.path = d.partitions.map Partition.path := by
    have hsame := congrArg (List.map Prod.fst) h
    rw [List.map_map, List.map_map] at hsame
    exact hsame
  refine ⟨hnumbers ▸ hd.numbers, hpaths ▸ hd.paths, ?_⟩
  rw [hpath]
  refine forall_of_identities (fun p q hidentity hp number hnumber => ?_) h hd.le_number
  rw [Partition.number_of_identity hidentity]
  rw [Partition.path_of_identity hidentity] at hnumber
  exact hp number hnumber

/-- A partition with the next number has a number and a path of its own. -/
theorem IsNumbered.concat (hd : d.IsNumbered) {p : Partition} (hnumber : p.number = d.nextNumber)
    (hpath : partitionPath? d.path p.number = .ok p.path) :
    ({ d with partitions := d.partitions ++ [p] } : Disk).IsNumbered := by
  -- Partitions that are marked for removal count as well.
  have hlt : ∀ q ∈ d.partitions, q.number < p.number := by
    intro q hq
    rw [hnumber]
    exact number_lt_nextNumber hq
  refine ⟨nodup_map_concat hd.numbers fun q hq => Int.ne_of_lt (hlt q hq),
    nodup_map_concat hd.paths fun q hq hsame => ?_, ?_⟩
  · -- The path of another partition would come from a number beyond its own.
    rw [← hsame] at hpath
    exact absurd (hd.le_number q hq _ hpath) (Int.not_le.mpr (hlt q hq))
  · change ∀ q ∈ d.partitions ++ [p], ∀ number, partitionPath? d.path number = .ok q.path → _
    rw [List.forall_mem_append, List.forall_mem_singleton]
    refine ⟨hd.le_number, fun number h => ?_⟩
    exact Int.le_of_eq (partitionPath?_injective h hpath)

end Disk

/-- Every change keeps numbers and paths apart. -/
theorem DiskAction.Change.isNumbered {action : DiskAction} {d d' : Disk} (h : action.Change d d')
    (hd : d.IsNumbered) : d'.IsNumbered := by
  have hedited : action.isEdit → d'.IsNumbered := fun hedit =>
    hd.of_identities (congrArg Prod.fst h.device) (h.edits hedit).1
  cases action with
  -- Nothing is left on the disk, so there is nothing to tell apart.
  | relabel _ =>
      cases h with
      | relabel _ _ =>
          exact ⟨List.nodup_nil, List.nodup_nil, fun _ hp => absurd hp List.not_mem_nil⟩
  | create _ _ _ _ _ =>
      cases h with
      | create _ hplace =>
          rcases Disk.place_eq_ok hplace with ⟨_, path, hpath, rfl⟩
          exact hd.concat rfl hpath
  | _ =>
      exact hedited (by
        simp only [isEdit, kind, ne_eq, reduceCtorEq, not_false_eq_true, and_self])

/-! ### Created partitions -/

/-- A token that creates a partition adds it behind the others of one disk, with a number
    beyond theirs, or it adds nothing. -/
theorem applyToken_create_cases {token : String} {t : Topology} {i : Nat} {d d' : Disk}
    (hd : t.disks[i]? = some d) (hd' : (applyToken .create token t).state.disks[i]? = some d') :
    d'.partitions = d.partitions ∨
      ∃ p, d'.partitions = d.partitions ++ [p] ∧ ∀ q ∈ d.partitions, q.number < p.number := by
  have hsame : (applyToken .create token t).state = t → d'.partitions = d.partitions := by
    intro hstate
    rw [hstate, hd] at hd'
    rw [Option.some.inj hd']
  cases hread : (Operation.read .create token).operation with
  | error f => exact Or.inl (hsame (applyToken_state_of_error hread t))
  | ok op =>
      rw [applyToken_state_of_ok hread t] at hsame hd'
      cases Operation.asked_of_read hread with
      | @create name role first? last? content suffix _ _ =>
          cases hfound : t.disk? name with
          | none => exact Or.inl (hsame (Operation.run_onDisk_of_none hfound _).1)
          | some d₀ =>
              rcases find?_eq_some_iff_firstAt.mp hfound with ⟨before, after, hat⟩
              rw [(Operation.run_onDisk_of_firstAt hat _).1, exchange_eq_set before after d₀,
                ← hat.split] at hd'
              -- Only the disk that the token names can be another one now.
              by_cases hi : before.length = i
              · subst hi
                obtain rfl : d₀ = d := Option.some.inj (hat.getElem?_eq.symm.trans hd)
                rw [List.getElem?_set_self (List.getElem?_eq_some_iff.mp hd).1] at hd'
                obtain rfl := Option.some.inj hd'
                rcases DiskAction.run_create_cases role first? last? content suffix d₀ with
                  ⟨first, last, p, hrange, hplace⟩ | ⟨_, hstays⟩
                · rw [(DiskAction.run_create_of_placed hrange hplace).1]
                  rcases Disk.place_eq_ok hplace with ⟨_, path, _, rfl⟩
                  exact Or.inr ⟨_, rfl, fun _ hq => Disk.number_lt_nextNumber hq⟩
                · exact Or.inl (by rw [hstays])
              · rw [List.getElem?_set_ne hi, hd] at hd'
                exact Or.inl (by rw [Option.some.inj hd'])

/-- Tokens keep numbers and paths apart on disks that were found so, whatever becomes of
    each of them, and a token that creates a partition gives it a number beyond those of
    all partitions of its disk, also of those that are to be removed. -/
theorem afterTokens_isNumbered {t : Topology} (hprobed : ∀ d ∈ t.disks, d.IsProbed)
    (hnumbers : ∀ d ∈ t.disks, (d.partitions.map Partition.number).Nodup)
    (hpaths : ∀ d ∈ t.disks, (d.partitions.map Partition.path).Nodup)
    (tokens : List (Kind × String)) :
    (∀ d ∈ (t.afterTokens tokens).disks, (d.partitions.map Partition.number).Nodup ∧
      (d.partitions.map Partition.path).Nodup) ∧
    ∀ (token : String) (i : Nat) (d d' : Disk), (t.afterTokens tokens).disks[i]? = some d →
      (t.afterTokens (tokens ++ [(.create, token)])).disks[i]? = some d' →
      d'.partitions = d.partitions ∨
        ∃ p, d'.partitions = d.partitions ++ [p] ∧ ∀ q ∈ d.partitions, q.number < p.number := by
  -- What has to be known of the paths that were found holds of every probe.
  have hfound : ∀ d ∈ t.disks, d.IsNumbered := fun d hd =>
    ⟨hnumbers d hd, hpaths d hd, (hprobed d hd).le_number⟩
  have hafter := Topology.disks_of_reaches (fun _ hchange => hchange.isNumbered)
    (t.afterTokens_reaches tokens) hfound
  refine ⟨fun d hd => ⟨(hafter d hd).numbers, (hafter d hd).paths⟩, fun token i d d' hd hd' => ?_⟩
  rw [Topology.afterTokens_concat] at hd'
  exact applyToken_create_cases hd hd'

/-- A listing of a disk with partitions 1 and 7, the second written with a zero. -/
def Execution.ofListing : Execution :=
  .finished 0 ("\x7b\"blockdevices\":[\x7b\"path\":\"/dev/mmcblk0\",\"size\":20480000," ++
    "\"pttype\":\"gpt\",\"children\":[" ++
    "\x7b\"path\":\"/dev/mmcblk0p1\",\"type\":\"part\",\"start\":5000,\"size\":512000\x7d," ++
    "\x7b\"path\":\"/dev/mmcblk0p07\",\"type\":\"part\",\"start\":6000,\"size\":512000\x7d" ++
    "]\x7d]\x7d") ""

/-- The disk that the listing describes. -/
def Disk.ofListing : Disk :=
  { Disk.ofThree with
    path := "/dev/mmcblk0"
    sectors := 40000
    partitions := [{ Partition.found 1 5000 5999 with path := "/dev/mmcblk0p1" },
      { Partition.found 7 6000 6999 with path := "/dev/mmcblk0p07" }] }

/-- The disks of a layout and one of a running system, with a deletion that stops halfway,
    a new table and new partitions. -/
theorem afterTokens_isNumbered_ofListing :
    let t : Topology := ⟨Disk.ofGap ++ [.ofListing], []⟩
    let tokens : List (Kind × String) := [(.delete, "sda:3:9"),
      (.create, "sda:primary:30%:end:ext4"), (.create, "mmcblk0:primary:30%:40%:ext4"),
      (.relabel, "nvme0n1:gpt"), (.create, "nvme0n1:primary:start:end:ext4")]
    (∀ d ∈ t.disks, d.IsProbed) ∧ (∀ d ∈ t.disks, (d.partitions.map Partition.number).Nodup) ∧
      (∀ d ∈ t.disks, (d.partitions.map Partition.path).Nodup) ∧
      (t.afterTokens tokens).disks.map (fun d => d.partitions.map fun p => (p.path, p.number)) =
        [[("/dev/sda1", 1), ("/dev/sda3", 3), ("/dev/sda4", 4)], [("/dev/nvme0n1p1", 1)],
          [("/dev/mmcblk0p1", 1), ("/dev/mmcblk0p07", 7), ("/dev/mmcblk0p8", 8)]] ∧
      ∀ d ∈ (t.afterTokens tokens).disks, (d.partitions.map Partition.number).Nodup ∧
        (d.partitions.map Partition.path).Nodup := by
  intro t tokens
  have hlayout : ∀ d ∈ Disk.ofGap, d.IsProbed := by
    refine List.forall_mem_cons.mpr ⟨?_, List.forall_mem_singleton.mpr ?_⟩
    · exact @Disk.IsProbed.ofLayout _ _ "sda" _ _ Layout.load_ofGap (by decide +kernel)
    · exact @Disk.IsProbed.ofLayout _ _ "nvme0n1" _ _ Layout.load_ofGap (by decide +kernel)
  have hsystem : Disk.ofListing.IsProbed :=
    @Disk.IsProbed.ofSystem (fun _ => .ofListing) ⟨.ofString "lsblk", 30⟩ "mmcblk0" _
      (by decide +kernel)
  have hprobed : ∀ d ∈ t.disks, d.IsProbed :=
    List.forall_mem_append.mpr ⟨hlayout, List.forall_mem_singleton.mpr hsystem⟩
  have hnumbers : ∀ d ∈ t.disks, (d.partitions.map Partition.number).Nodup := by decide
  have hpaths : ∀ d ∈ t.disks, (d.partitions.map Partition.path).Nodup := by decide
  exact ⟨hprobed, hnumbers, hpaths, by decide +kernel,
    (afterTokens_isNumbered hprobed hnumbers hpaths tokens).1⟩

end DiskPlan
