import DiskPlan.Proofs.Capacity
import DiskPlan.Proofs.PartitionPaths

/-!
# Names of Volumes

When a volume that was given no name is refused for its name.

A volume that is asked for without a name is named after its number. Names that are made
like this never meet each other, since no number is given twice. But a volume that is
named by hand can have any name that is free, among them the one that a number still to
come leads to. No other name is looked for when that number comes, so the next volume
without a name is refused for a name that its token does not give, and so is every other
one until the number has been passed by a volume with a name.

Which names a group has is known from the tokens that got a volume in it: from the names
that they give, in their order. A name that a number still to come leads to is there
exactly if one of these tokens gives it.

## Main definitions

* `volumeName`: The name of a volume with a number.
* `RefusesName`: An answer that refuses a volume for its name.
* `Topology.givenName?`, `givenNames`: The names that tokens give to the volumes that they
  get.

## Theorems

* `numberedName_mem_volumeNames_iff`: A name that a number still to come leads to.
* `NewVolume.refusesName_run_iff`: When a volume is refused for its name.
* `afterTokens_names`: The names in a group, as tokens have given them.
* `applyToken_unnamed_refusesName_iff`: When a volume without a name is refused for one.
* `unnamed_refused_ofThree`: A volume without a name that is refused for one.
-/

namespace DiskPlan

/-! ### Names after numbers -/

/-- The name that a number leads to. -/
def numberedName (number : Nat) : String :=
  "lv" ++ number.repr

/-- The name of a volume with a number: the one that it is given, unless that is empty. -/
def volumeName (number : Nat) (given : String) : String :=
  if given = "" then numberedName number else given

/-- The names of the volumes of a group, from the names that they are given. -/
def volumeNames (given : List String) : List String :=
  given.mapIdx fun i name => volumeName (i + 1) name

/-- Two numbers do not lead to the same name. -/
theorem numberedName_injective {m n : Nat} (h : numberedName m = numberedName n) : m = n :=
  Decimal.repr_injective ((String.append_right_inj "lv").mp h)

/-- One more name that is given is one more volume, with the next number. -/
theorem volumeNames_concat (given : List String) (name : String) :
    volumeNames (given ++ [name]) = volumeNames given ++ [volumeName (given.length + 1) name] := by
  unfold volumeNames
  rw [List.mapIdx_append, List.mapIdx_singleton, Nat.zero_add]

/-- There is one volume for each name that is given, empty ones among them. -/
theorem length_volumeNames (given : List String) : (volumeNames given).length = given.length :=
  List.length_mapIdx

/-- A name that a number still to come leads to is the name of a volume exactly if it is
    given to one. -/
theorem numberedName_mem_volumeNames_iff (given : List String) :
    numberedName (given.length + 1) ∈ volumeNames given ↔
      numberedName (given.length + 1) ∈ given := by
  unfold volumeNames
  rw [List.mem_mapIdx]
  constructor
  · rintro ⟨i, hi, hname⟩
    unfold volumeName at hname
    split at hname
    · -- Volumes without a name have the numbers up to here.
      have hnumber := numberedName_injective hname
      omega
    · rw [← hname]
      exact List.getElem_mem hi
  · intro hmem
    rcases List.getElem_of_mem hmem with ⟨i, hi, hname⟩
    refine ⟨i, hi, ?_⟩
    -- The name is not empty, so the volume has it as it was given.
    have hne : given[i] ≠ "" := by
      rw [hname]
      intro hempty
      have hlength := congrArg String.length hempty
      rw [numberedName, String.length_append] at hlength
      exact absurd hlength (by simp)
    unfold volumeName
    rw [if_neg hne, hname]

/-! ### Refusals -/

/-- An answer that refuses a volume for its name. -/
def RefusesName {α : Type} (answer : Except Failure α) : Prop :=
  Fails (fun f => f.name = "DuplicateLogicalVolume") answer

section RefusesName

variable {α β σ : Type}

/-- An answer refuses nothing. -/
theorem not_refusesName_ok (a : α) : ¬ RefusesName (.ok a) :=
  not_fails_ok a

/-- A failure refuses a name if that is the kind of failure it is. -/
theorem refusesName_error_iff {f : Failure} :
    RefusesName (.error f : Except Failure α) ↔ f.name = "DuplicateLogicalVolume" :=
  fails_error_iff

/-- A chain refuses a name where one of its links does. -/
theorem refusesName_bind_iff {x : Except Failure α} {f : α → Except Failure β} :
    RefusesName (x >>= f) ↔ RefusesName x ∨ ∃ a, x = .ok a ∧ RefusesName (f a) :=
  fails_bind_iff

/-- Two actions in a row refuse a name where one of them does. -/
theorem refusesName_andThen_iff {o : Outcome σ α} {next : σ → α → Outcome σ β} :
    RefusesName (o.andThen next).answer ↔
      RefusesName o.answer ∨ ∃ a, o.answer = .ok a ∧ RefusesName (next o.state a).answer :=
  Outcome.fails_andThen_iff

/-- A name is refused whatever token is recorded. -/
theorem refusesName_within_iff {x : Except Failure α} {origin : Origin} :
    RefusesName (x.mapError (Failure.within origin)) ↔ RefusesName x := by
  cases x with
  | error f =>
      change RefusesName (.error (f.within origin)) ↔ _
      rw [refusesName_error_iff, refusesName_error_iff, Failure.name_within]
  | ok a => exact iff_of_false (not_refusesName_ok a) (not_refusesName_ok a)

end RefusesName

namespace VolumeGroup

variable {g : VolumeGroup}

/-- The name that is chosen for a volume is the one that its number leads to, if it is given
    none. -/
theorem chosenName_eq (g : VolumeGroup) (name : String) :
    g.chosenName (some name) = volumeName g.nextNumber name := by
  unfold volumeName
  split
  · rename_i hempty
    rw [hempty]
    rfl
  · rename_i hne
    exact chosenName_of_ne_empty hne

/-- The bounds never refuse a name, and they are kept by a range that is in order and ends in the
    group. -/
theorem checkBounds_cases (g : VolumeGroup) (first last : Int) :
    ¬ RefusesName (g.checkBounds first last) ∧
      (g.checkBounds first last = .ok () ↔ first < last ∧ last ≤ g.sectors) := by
  unfold checkBounds
  split
  · refine ⟨?_, iff_of_false (by simp only [reduceCtorEq, not_false_eq_true]) (by omega)⟩
    rw [refusesName_error_iff]
    exact Failure.name_ofDisk_ne (by simp [DiskProblem.name]) (by decide)
  · split
    · refine ⟨?_, iff_of_false (by simp only [reduceCtorEq, not_false_eq_true]) (by omega)⟩
      rw [refusesName_error_iff]
      exact Failure.name_ofDisk_ne (by simp [DiskProblem.name]) (by decide)
    · exact ⟨not_refusesName_ok (), iff_of_true rfl (by omega)⟩

/-- The check of a name refuses it if there is a volume of that name. -/
theorem refusesName_checkName_iff {name : String} :
    RefusesName (g.checkName name) ↔ (g.volume? name).isSome = true := by
  unfold checkName
  split
  · rename_i hsome
    exact iff_of_true (refusesName_error_iff.mpr rfl) hsome
  · rename_i hnone
    exact iff_of_false (not_refusesName_ok ()) hnone

/-- An overlap is no matter of names. -/
theorem not_refusesName_checkOverlap (g : VolumeGroup) (first last : Int) :
    ¬ RefusesName (g.checkOverlap first last) := by
  unfold checkOverlap
  split
  · rw [refusesName_error_iff]
    exact Failure.name_ofDisk_ne (by simp [DiskProblem.name]) (by decide)
  · exact not_refusesName_ok ()

/-- A volume is refused for its name if it has room and its name is taken. -/
theorem refusesName_place_iff {r : Request} :
    RefusesName (g.place r) ↔ (r.first < r.last ∧ r.last ≤ g.sectors) ∧
      (g.volume? (g.chosenName r.name)).isSome = true := by
  rcases g.checkBounds_cases r.first r.last with ⟨hbounds, hok⟩
  unfold place
  -- The bounds come before the name, and what comes after it refuses no name.
  simp only [refusesName_bind_iff, hbounds, hok, not_refusesName_checkOverlap,
    refusesName_checkName_iff, false_or, exists_const]
  constructor
  · rintro ⟨hrange, htaken | ⟨_, _, _, hlater⟩⟩
    · exact ⟨hrange, htaken⟩
    · exact absurd hlater.2 (not_refusesName_ok _)
  · exact fun ⟨hrange, htaken⟩ => ⟨hrange, Or.inl htaken⟩

end VolumeGroup

/-- A volume that is asked for is refused for its name if its size stands for sectors that
    the group has left, and its name is taken. -/
theorem NewVolume.refusesName_run_iff {v : NewVolume} {g : VolumeGroup} :
    RefusesName (v.run g).answer ↔
      (∃ size, g.resolve? v.size = .ok size ∧ 0 < size ∧ firstSector g + size ≤ g.sectors) ∧
        (g.volume? (volumeName g.nextNumber v.name)).isSome = true := by
  have hresolve : ¬ RefusesName (g.resolve? v.size) := by
    unfold VolumeGroup.resolve? Position.resolve?
    split
    · rw [refusesName_error_iff]
      decide
    · exact not_refusesName_ok _
  have hadd : ∀ r : Request, RefusesName (g.add r).answer ↔ RefusesName (g.place r) := by
    intro r
    unfold VolumeGroup.add
    cases hplace : g.place r with
    | error f => exact Iff.rfl
    | ok p =>
        refine iff_of_false (fun ⟨f, herror, hname⟩ => ?_) (not_refusesName_ok p)
        -- The log may refuse the volume, but not for its name.
        have hother : f.name ≠ "DuplicateLogicalVolume" :=
          Outcome.telling_failsWith (P := fun f => f.name ≠ "DuplicateLogicalVolume")
            (by decide) f herror
        exact hother hname
  unfold run
  simp only [refusesName_andThen_iff, Outcome.ofExcept, Outcome.logging, Outcome.done, hresolve,
    hadd, VolumeGroup.refusesName_place_iff, not_refusesName_ok, and_false, exists_false, or_false,
    false_or]
  -- The range is the one from the next free sector on, so all that is left are inequalities.
  simp only [request, VolumeGroup.chosenName_eq]
  constructor
  · rintro ⟨size, hsize, ⟨hlt, hbound⟩, htaken⟩
    exact ⟨⟨size, hsize, by omega, hbound⟩, htaken⟩
  · rintro ⟨⟨size, hsize, hpos, hbound⟩, htaken⟩
    exact ⟨size, hsize, ⟨by omega, hbound⟩, htaken⟩

/-! ### Names that tokens give -/

namespace Topology

variable {t : Topology} {name : String} {g : VolumeGroup}

/-- The name that a token gives to the volume that a group gets by it, if it gets one. The
    volume may fail to be told of, so it is the group that is looked at and not the answer. -/
def givenName? (t : Topology) (name token : String) : Option String :=
  match Text.fields ':' token with
  | _ :: given :: _ =>
    if (applyToken .logical token t).state.group? name = t.group? name then none else some given
  | _ => none

/-- A token that leaves the group alone gives no name. -/
theorem givenName?_of_same {token : String}
    (h : (applyToken .logical token t).state.group? name = t.group? name) :
    t.givenName? name token = none := by
  unfold givenName?
  split
  · exact if_pos h
  · rfl

/-- A token that changes the group gives the name of its volume. -/
theorem givenName?_of_ne {token group : String} {volume : NewVolume}
    (hread : (Operation.read .logical token).operation = .ok (.onGroup group volume))
    (h : (applyToken .logical token t).state.group? name ≠ t.group? name) :
    t.givenName? name token = some volume.name := by
  rcases Operation.fields_of_readLogical hread with ⟨group', volume', rest, hfields, hop⟩
  obtain ⟨rfl, rfl⟩ := Operation.onGroup.inj hop
  unfold givenName?
  rw [hfields]
  exact if_neg h

/-- A token leaves the names in a group alone, or it adds the name of the volume that it
    places there. -/
theorem names_applyToken {given : List String} (hg : t.group? name = some g)
    (hnames : g.partitions.map Partition.name = (volumeNames given).map (some ∘ Label.ofString))
    (token : String) :
    ∃ g', (applyToken .logical token t).state.group? name = some g' ∧
      g'.partitions.map Partition.name =
        (volumeNames (given ++ (t.givenName? name token).toList)).map
          (some ∘ Label.ofString) := by
  rcases group?_applyToken hg token with
    ⟨hsame, _⟩ | ⟨volume, size, p, hread, _, hplace, hafter⟩
  · refine ⟨g, hsame, ?_⟩
    rw [givenName?_of_same (hsame.trans hg.symm), Option.toList_none, List.append_nil]
    exact hnames
  · refine ⟨_, hafter, ?_⟩
    have hne : (applyToken .logical token t).state.group? name ≠ t.group? name := by
      rw [hafter, hg]
      exact fun h => g.concat_ne p (Option.some.inj h)
    rw [givenName?_of_ne hread hne, Option.toList_some, volumeNames_concat]
    -- The number of the new volume counts those that are there.
    have hlength := congrArg List.length hnames
    rw [List.length_map, List.length_map, length_volumeNames] at hlength
    rw [List.map_append, List.map_append, hnames, List.map_singleton, List.map_singleton,
      (VolumeGroup.place_eq_ok hplace).2.2.2, ← hlength]
    change _ = _ ++ [some (Label.ofString (volumeName g.nextNumber volume.name))]
    rw [← VolumeGroup.chosenName_eq]
    rfl

end Topology

/-- The names that a run of tokens gives to the volumes that it gets in a group. -/
def givenNames (name : String) : List String → Topology → List String
  | [], _ => []
  | token :: rest, t =>
    (t.givenName? name token).toList ++ givenNames name rest (applyToken .logical token t).state

/-- A run of tokens names the volumes of a group as its tokens give names. -/
theorem afterTokens_names {name : String} {g : VolumeGroup} {given : List String}
    (tokens : List String) {t : Topology} (hg : t.group? name = some g)
    (hnames : g.partitions.map Partition.name =
      (volumeNames given).map (some ∘ Label.ofString)) :
    ∃ g', (t.afterTokens (tokens.map fun token => (.logical, token))).group? name = some g' ∧
      g'.partitions.map Partition.name =
        (volumeNames (given ++ givenNames name tokens t)).map (some ∘ Label.ofString) := by
  -- The names so far are any, since the first token has added to them for the others.
  induction tokens generalizing t g given with
  | nil =>
      refine ⟨g, hg, ?_⟩
      rw [givenNames, List.append_nil]
      exact hnames
  | cons token rest ih =>
      rw [givenNames, ← List.append_assoc]
      rcases Topology.names_applyToken hg hnames token with ⟨g', hg', hnames'⟩
      exact ih hg' hnames'

/-- The name that a volume without one is to get is taken exactly if it was given to one of
    the volumes before it. -/
theorem volume?_numberedName_iff {g : VolumeGroup} {given : List String}
    (hnames : g.partitions.map Partition.name =
      (volumeNames given).map (some ∘ Label.ofString)) :
    (g.volume? (volumeName g.nextNumber "")).isSome = true ↔
      numberedName (given.length + 1) ∈ given := by
  have hlength := congrArg List.length hnames
  rw [List.length_map, List.length_map, length_volumeNames] at hlength
  rw [← numberedName_mem_volumeNames_iff, Option.isSome_iff_ne_none, ne_eq,
    VolumeGroup.volume?_eq_none_iff, not_not, hnames, VolumeGroup.nextNumber, hlength]
  -- Different names are different labels, so being among the names is the same on both sides.
  exact List.mem_map_of_injective fun _ _ hsame =>
    Label.ofString_injective (Option.some.inj hsame)

/-- A token that cannot be read is not refused for a name that is taken. -/
theorem not_refusesName_of_read {token : String} {f : Failure}
    (hread : (Operation.read .logical token).operation = .error f) (t : Topology) :
    ¬ RefusesName (applyToken .logical token t).answer := by
  rw [applyToken_answer_of_error hread, refusesName_error_iff, Failure.name_within]
  cases Operation.failsWith_read _ _ f hread with
  -- Reading fails for its syntax or for a numeral, and neither is about a name that is taken.
  | badSyntax p _ => cases p <;> simp [Failure.name, Problem.name, SyntaxProblem.name]
  | numeral limit => simp [Failure.name]

/-- In a group that tokens have filled from the beginning, a volume that is asked for
    without a name is refused for its name exactly if there is room for it and one of the
    tokens before gave the name that its number leads to. -/
theorem applyToken_unnamed_refusesName_iff {t : Topology} {name : String} {g : VolumeGroup}
    (hg : t.group? name = some g) (hempty : g.partitions = []) (tokens : List String)
    {token : String} {rest : List String}
    (hfields : Text.fields ':' token = name :: "" :: rest) :
    let t' := t.afterTokens (tokens.map fun token => (.logical, token))
    let given := givenNames name tokens t
    ∃ g', t'.group? name = some g' ∧
      g'.partitions.map Partition.name = (volumeNames given).map (some ∘ Label.ofString) ∧
      (RefusesName (applyToken .logical token t').answer ↔
        (∃ volume size, Operation.parse .logical token = .ok (.onGroup name volume) ∧
          g'.resolve? volume.size = .ok size ∧ 0 < size ∧
            NewVolume.firstSector g' + size ≤ g'.sectors) ∧
        numberedName (given.length + 1) ∈ given) := by
  intro t' given
  have hnone : g.partitions.map Partition.name =
      (volumeNames []).map (some ∘ Label.ofString) := by
    rw [hempty]
    rfl
  rcases afterTokens_names tokens hg hnone with ⟨g', hg', hnames⟩
  refine ⟨g', hg', hnames, ?_⟩
  -- A token that cannot be read is on neither side.
  cases hread : (Operation.read .logical token).operation with
  | error f =>
      refine iff_of_false (not_refusesName_of_read hread t') ?_
      rintro ⟨⟨volume, size, hparse, _⟩, _⟩
      rw [mapError_eq_ok_iff.mp hparse] at hread
      exact absurd hread (by simp only [reduceCtorEq, not_false_eq_true])
  | ok op =>
      rcases Operation.fields_of_readLogical hread with ⟨group, volume, _, hsplit, rfl⟩
      rw [hfields] at hsplit
      -- The token names this group, and its volume has no name.
      obtain ⟨rfl, htail⟩ := List.cons.inj hsplit
      have hvolume := (List.cons.inj htail).1
      have hparse : Operation.parse .logical token = .ok (.onGroup name volume) :=
        mapError_eq_ok_iff.mpr hread
      rcases find?_eq_some_iff_firstAt.mp hg' with ⟨before, after, hat⟩
      rw [applyToken_answer_eq hread, (Operation.run_onGroup_of_firstAt hat volume).2,
        refusesName_within_iff, NewVolume.refusesName_run_iff, ← hvolume,
        volume?_numberedName_iff hnames, List.nil_append]
      -- The name is the same on both sides, and what is left is the room for the volume.
      refine and_congr_left fun _ => ⟨?_, ?_⟩
      · rintro ⟨size, hsize⟩
        exact ⟨volume, size, hparse, hsize⟩
      · rintro ⟨volume', size, hparse', hsize⟩
        obtain rfl := (Operation.onGroup.inj (Except.ok.inj (hparse.symm.trans hparse'))).2
        exact ⟨size, hsize⟩

/-- The volume of 10% that takes the second name in a group of 1000 sectors, and the next
    one, for which that name is taken. -/
theorem applyToken_unnamed_refusesName_iff_ofThree :
    let t : Topology := ((⟨[.ofThree], []⟩ : Topology).afterTokens
      [(.reuse, "sda:1:lvm=vg")]).initializeGroups.state
    let g : VolumeGroup := ⟨"vg", 1000, 512, ["/dev/sda"], [], []⟩
    let tokens := ["vg:lv2:10%:ext4", "vg:home:all:ext4", "elsewhere:lv3:10%:ext4"]
    t.group? "vg" = some g ∧ g.partitions = [] ∧
      Text.fields ':' "vg::10%:ext4" = ["vg", "", "10%", "ext4"] ∧
      givenNames "vg" tokens t = ["lv2"] ∧
      RefusesName (applyToken .logical "vg::10%:ext4"
        (t.afterTokens (tokens.map fun token => (.logical, token)))).answer := by
  intro t g tokens
  have hg : t.group? "vg" = some g := by decide +kernel
  have hfields : Text.fields ':' "vg::10%:ext4" = ["vg", "", "10%", "ext4"] := by decide +kernel
  have hgiven : givenNames "vg" tokens t = ["lv2"] := by decide +kernel
  have hparse : Operation.parse .logical "vg::10%:ext4" =
      .ok (.onGroup "vg" ⟨"", .percent 10, .ext4, none, none⟩) := by decide +kernel
  have hroom : ((t.afterTokens (tokens.map fun token => (.logical, token))).group? "vg").map
      (fun g' => (g'.resolve? (.percent 10), NewVolume.firstSector g', g'.sectors)) =
        some (.ok 100, 101, 1000) := by decide +kernel
  rcases applyToken_unnamed_refusesName_iff hg rfl tokens hfields with ⟨g', hg', _, hrefused⟩
  rw [hg', Option.map_some, Option.some.injEq, Prod.mk.injEq, Prod.mk.injEq] at hroom
  rcases hroom with ⟨hsize, hfirst, hsectors⟩
  refine ⟨hg, rfl, hfields, hgiven, hrefused.mpr ⟨⟨_, 100, hparse, hsize, by decide, ?_⟩, ?_⟩⟩
  · rw [hfirst, hsectors]
    decide
  · rw [hgiven]
    decide

/-- A volume that has the second name by hand, and another one without a name: it is refused
    for a name that its token does not give, though only that one name is taken. -/
theorem unnamed_refused_ofThree :
    let t : Topology := ((⟨[.ofThree], []⟩ : Topology).afterTokens
      [(.reuse, "sda:1:lvm=vg")]).initializeGroups.state
    let t' := t.afterTokens [(.logical, "vg:lv2:10%:ext4")]
    t.group? "vg" = some ⟨"vg", 1000, 512, ["/dev/sda"], [], []⟩ ∧
      (t'.group? "vg").map (fun g => g.partitions.map fun p => (p.name, p.first, p.last)) =
        some [(some (.ofString "lv2"), 0, 100)] ∧
      (applyToken .logical "vg::10%:ext4" t').answer =
        .error (.ofDisk (.duplicateLogicalVolume "vg" "lv2")) ∧
      (applyToken .logical "vg:lv1:10%:ext4" t').answer = .ok () := by
  refine ⟨?_, ?_, ?_, ?_⟩
  all_goals decide +kernel

end DiskPlan
