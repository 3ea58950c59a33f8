import DiskPlan.Proofs.Leftovers
import DiskPlan.Proofs.PlannedDisks

/-!
# Deletions

Which partitions tokens delete, however they are written.

A deletion marks partitions, and a mark changes nothing that a later deletion looks at. A
marked partition keeps its place and its number, so it is still found, and it can be named
again. A disk keeps its path. So all the names and numbers in a list of tokens can be looked
up at once, before the first of them is carried out, and what comes out is a set of places:
`Topology.deletions` collects them. The order of the tokens, how the numbers are spread over
them, and by which of its names a disk is called is lost on the way, and so is whether a
partition is named once or twice.

Nothing else decides whether the tokens are carried out, either. They are exactly if every
number that is named stands for a partition.

## Main definitions

* `Topology.FindsDisk`: A delete token whose disk is found.
* `Topology.deletions`: What delete tokens name.
* `Topology.marked`: A topology with what is named marked for removal.

## Theorems

* `Disk.marked_append`, `Disk.marked_congr`: Marking is adding to a set.
* `DiskAction.deleteAll_eq_ok_iff`, `DiskAction.deleteAll_of_ok`: A deletion on one disk.
* `Topology.applyTokens_delete`: A list of delete tokens.
* `applyTokens_delete_congr`: Tokens that name the same delete the same.
-/

namespace DiskPlan

/-! ### Marks -/

namespace Disk

variable {d : Disk} {first second : List Nat}

/-- A partition is marked if one of the numbers stands for its place. Places are used because a
    number can be there twice, and then it stands for the first place only. -/
theorem getElem?_marked (d : Disk) (numbers : List Nat) (i : Nat) :
    (d.marked numbers).partitions[i]? = d.partitions[i]?.map fun p =>
      if numbers.any fun number => d.partitions.findIdx? (isNumbered number) == some i then
        { p with removed := true }
      else
        p :=
  List.getElem?_mapIdx

/-- A mark changes no number, so what numbers stand for is the same before and after. -/
theorem map_number_marked (d : Disk) (numbers : List Nat) :
    (d.marked numbers).partitions.map Partition.number = d.partitions.map Partition.number := by
  refine List.ext_getElem? fun i => ?_
  rw [List.getElem?_map, List.getElem?_map, getElem?_marked, Option.map_map]
  refine congrArg (Option.map · d.partitions[i]?) (funext fun p => ?_)
  rw [Function.comp_apply]
  split <;> rfl

theorem partition?_marked_eq_none_iff (d : Disk) (numbers : List Nat) (number : Int) :
    (d.marked numbers).partition? number = none ↔ d.partition? number = none :=
  partition?_eq_none_congr (d.map_number_marked numbers) number

/-- Marking twice is marking all at once. The second time finds what it would have found at
    first, and a partition that is marked already stays so. -/
theorem marked_append (d : Disk) (first second : List Nat) :
    (d.marked first).marked second = d.marked (first ++ second) := by
  -- The numbers stand for the same places when the first of them are marked.
  have hsame : ∀ n : Nat, (d.marked first).partitions.findIdx? (isNumbered n) =
      d.partitions.findIdx? (isNumbered n) :=
    fun n => findIdx?_isNumbered_congr (d.map_number_marked first) n
  have hpartitions : ((d.marked first).marked second).partitions =
      (d.marked (first ++ second)).partitions := by
    refine List.ext_getElem? fun i => ?_
    rw [getElem?_marked, getElem?_marked, getElem?_marked, Option.map_map]
    refine congrArg (Option.map · d.partitions[i]?) (funext fun p => ?_)
    simp only [hsame, List.any_append, Function.comp_apply]
    cases first.any fun number => d.partitions.findIdx? (isNumbered number) == some i with
    | false => rw [Bool.false_or, if_neg Bool.false_ne_true]
    | true =>
        -- A mark that is there already is not taken back.
        rw [Bool.true_or, if_pos rfl]
        split <;> rfl
  exact congrArg (fun ps => { d with partitions := ps }) hpartitions

/-- Only which numbers there are makes a difference, not their order and not how often they
    occur. -/
theorem marked_congr (h : ∀ n, n ∈ first ↔ n ∈ second) : d.marked first = d.marked second := by
  have hany : ∀ q : Nat → Bool, first.any q = second.any q := by
    intro q
    rw [Bool.eq_iff_iff, List.any_eq_true, List.any_eq_true]
    simp only [h]
  unfold marked
  simp only [hany]

end Disk

namespace DiskAction

variable {d : Disk} {numbers : List Nat}

/-- A deletion that succeeds has found all its numbers, and has marked what they stand for. The
    induction is on the numbers, and the disk is the one with the earlier marks. -/
theorem deleteAll_of_ok (h : (deleteAll d numbers).answer = .ok ()) :
    (∀ n ∈ numbers, d.partition? (n : Nat) ≠ none) ∧
      (deleteAll d numbers).state = d.marked numbers := by
  induction numbers generalizing d with
  | nil => exact ⟨fun _ hn => absurd hn List.not_mem_nil, d.marked_nil.symm⟩
  | cons number rest ih =>
      rw [deleteAll] at h ⊢
      rcases d.change_cases number fun p => { p with removed := true } with
        ⟨before, p, after, hat, hchange⟩ | ⟨_, e, hchange⟩
      · rw [hchange] at h ⊢
        rcases ih h with ⟨hfound, hstate⟩
        -- What the rest has found on the marked disk was there before.
        have hsame := Disk.partition?_eq_none_exchange (q := { p with removed := true })
          hat.split rfl
        refine ⟨?_, hstate.trans (Disk.marked_cons hat rest)⟩
        rw [List.forall_mem_cons]
        refine ⟨?_, fun n hn hnone => hfound n hn ((hsame n).mpr hnone)⟩
        rw [Disk.partition?_eq_some_iff.mpr ⟨before, after, hat⟩]
        exact Option.some_ne_none p
      · -- A number that is not found ends the deletion with a failure.
        rw [hchange] at h
        exact absurd h (by simp [Outcome.fail, Outcome.andThen])

/-- A deletion succeeds exactly if all its numbers stand for partitions. A partition that is
    marked for removal can be named again. -/
theorem deleteAll_eq_ok_iff :
    (deleteAll d numbers).answer = .ok () ↔ ∀ n ∈ numbers, d.partition? (n : Nat) ≠ none := by
  refine ⟨fun h => (deleteAll_of_ok h).1, fun hfound => ?_⟩
  cases hanswer : (deleteAll d numbers).answer with
  | ok => rfl
  | error f =>
      rcases deleteAll_of_error hanswer with ⟨found, missing, rest, rfl, _, hmissing, _⟩
      exact absurd hmissing (hfound missing (by simp))

end DiskAction

/-! ### Names -/

namespace Topology

variable {t : Topology} {token : String} {first second : List (Nat × Nat)}

/-- A delete token that can be read and whose disk is found. Both are asked for separately from
    the partitions, since a token may name none. -/
def FindsDisk (t : Topology) (token : String) : Prop :=
  ∃ name numbers, Operation.parse .delete token = .ok (.onDisk name (.delete numbers)) ∧
    t.disk? name ≠ none

/-- What a delete token names: partitions, by the place of the disk that is found and by number.
    The place makes two names of one disk the same. -/
def named (t : Topology) (token : String) : List (Nat × Nat) :=
  match Operation.parse .delete token with
  | .ok (.onDisk name (.delete numbers)) =>
    (t.place? name).toList.flatMap fun i => numbers.map fun number => (i, number)
  | _ => []

/-- What delete tokens name. -/
def deletions (t : Topology) (tokens : List String) : List (Nat × Nat) :=
  tokens.flatMap t.named

/-- The numbers of what is named on the disk at a place. -/
def numbersAt (named : List (Nat × Nat)) (i : Nat) : List Nat :=
  named.filterMap fun x => if x.1 = i then some x.2 else none

/-- A topology with what is named marked for removal. A number stands for the first partition of
    its disk that has it. This is the whole effect of delete tokens, given at once. -/
def marked (t : Topology) (named : List (Nat × Nat)) : Topology :=
  { t with disks := t.disks.mapIdx fun i d => d.marked (numbersAt named i) }

/-- What is named by a place and a number exists. -/
def HasPartition (t : Topology) (x : Nat × Nat) : Prop :=
  ∃ d, t.disks[x.1]? = some d ∧ d.partition? (x.2 : Nat) ≠ none

theorem mem_numbersAt_iff {named : List (Nat × Nat)} {i number : Nat} :
    number ∈ numbersAt named i ↔ (i, number) ∈ named := by
  unfold numbersAt
  rw [List.mem_filterMap]
  constructor
  · rintro ⟨⟨j, n⟩, hx, hsome⟩
    split at hsome
    · rename_i hplace
      obtain rfl := Option.some.inj hsome
      exact hplace ▸ hx
    · exact absurd hsome (by simp)
  · intro h
    exact ⟨(i, number), h, if_pos rfl⟩

theorem numbersAt_append (first second : List (Nat × Nat)) (i : Nat) :
    numbersAt (first ++ second) i = numbersAt first i ++ numbersAt second i :=
  List.filterMap_append

theorem getElem?_marked (t : Topology) (named : List (Nat × Nat)) (i : Nat) :
    (t.marked named).disks[i]? = t.disks[i]?.map fun d => d.marked (numbersAt named i) :=
  List.getElem?_mapIdx

@[simp]
theorem marked_nil (t : Topology) : t.marked [] = t := by
  have hdisks : (t.marked []).disks = t.disks := by
    refine List.ext_getElem? fun i => ?_
    rw [getElem?_marked]
    change Option.map (fun d : Disk => d.marked []) _ = _
    simp only [Disk.marked_nil, Option.map_id']
  exact congrArg (fun ds => { t with disks := ds }) hdisks

/-- Marking twice is marking all at once, disk by disk. -/
theorem marked_append (t : Topology) (first second : List (Nat × Nat)) :
    (t.marked first).marked second = t.marked (first ++ second) := by
  have hdisks : ((t.marked first).marked second).disks = (t.marked (first ++ second)).disks := by
    refine List.ext_getElem? fun i => ?_
    rw [getElem?_marked, getElem?_marked, getElem?_marked, Option.map_map]
    refine congrArg (Option.map · t.disks[i]?) (funext fun d => ?_)
    rw [Function.comp_apply, Disk.marked_append, numbersAt_append]
  exact congrArg (fun ds => { t with disks := ds }) hdisks

/-- Only what is named makes a difference, which is a set of places and numbers. -/
theorem marked_congr (h : ∀ x, x ∈ first ↔ x ∈ second) : t.marked first = t.marked second := by
  have hnumbers : ∀ (i : Nat) (d : Disk),
      d.marked (numbersAt first i) = d.marked (numbersAt second i) := by
    intro i d
    refine Disk.marked_congr fun number => ?_
    rw [mem_numbersAt_iff, mem_numbersAt_iff]
    exact h (i, number)
  unfold marked
  simp only [hnumbers]

theorem map_path_marked (t : Topology) (named : List (Nat × Nat)) :
    (t.marked named).disks.map Disk.path = t.disks.map Disk.path := by
  refine List.ext_getElem? fun i => ?_
  rw [List.getElem?_map, List.getElem?_map, getElem?_marked, Option.map_map]
  rfl

/-- What is marked is still found, so a later token can name it again. -/
theorem hasPartition_marked_iff {named : List (Nat × Nat)} {x : Nat × Nat} :
    (t.marked named).HasPartition x ↔ t.HasPartition x := by
  unfold HasPartition
  rw [getElem?_marked]
  constructor
  · rintro ⟨d', hd', hfound⟩
    rcases Option.map_eq_some_iff.mp hd' with ⟨d, hd, rfl⟩
    exact ⟨d, hd, fun hnone => hfound ((d.partition?_marked_eq_none_iff _ _).mpr hnone)⟩
  · rintro ⟨d, hd, hfound⟩
    refine ⟨_, Option.map_eq_some_iff.mpr ⟨d, hd, rfl⟩, fun hnone => hfound ?_⟩
    exact (d.partition?_marked_eq_none_iff _ _).mp hnone

/-- Delete tokens name the same on a topology with marks, since marks change no path. -/
theorem deletions_marked (t : Topology) (named : List (Nat × Nat)) (tokens : List String) :
    (t.marked named).deletions tokens = t.deletions tokens := by
  unfold deletions Topology.named
  simp only [place?_congr (t.map_path_marked named)]

theorem FindsDisk.marked (h : t.FindsDisk token) (named : List (Nat × Nat)) :
    (t.marked named).FindsDisk token := by
  rcases h with ⟨name, numbers, hparse, hdisk⟩
  refine ⟨name, numbers, hparse, fun hnone => hdisk ?_⟩
  rw [disk?_eq_none_iff_place?, place?_congr (t.map_path_marked named)] at hnone
  exact disk?_eq_none_iff_place?.mpr hnone

/-- The marks of one token are those of its numbers, on the disk that is found. -/
theorem named_of_firstAt {name : String} {numbers : List Nat} {before after : List Disk} {d : Disk}
    (hparse : Operation.parse .delete token = .ok (.onDisk name (.delete numbers)))
    (hat : FirstAt (fun d => d.isNamed name) t.disks before d after) :
    t.named token = numbers.map fun number => (before.length, number) := by
  have hplace : t.place? name = some before.length := hat.findIdx?_eq
  unfold named
  rw [hparse]
  dsimp only
  rw [hplace, Option.toList_some, List.flatMap_singleton]

theorem marked_named {name : String} {numbers : List Nat} {before after : List Disk} {d : Disk}
    (hparse : Operation.parse .delete token = .ok (.onDisk name (.delete numbers)))
    (hat : FirstAt (fun d => d.isNamed name) t.disks before d after) :
    t.marked (t.named token) = { t with disks := before ++ d.marked numbers :: after } := by
  -- On the disk that is found its numbers are named, and no numbers on any other.
  have hmem : ∀ i number, number ∈ numbersAt (t.named token) i ↔
      i = before.length ∧ number ∈ numbers := by
    intro i number
    rw [mem_numbersAt_iff, named_of_firstAt hparse hat, List.mem_map]
    simp [eq_comm, and_comm]
  have hlength : before.length < t.disks.length :=
    (List.getElem?_eq_some_iff.mp hat.getElem?_eq).1
  have hdisks : (t.marked (t.named token)).disks = before ++ d.marked numbers :: after := by
    refine List.ext_getElem? fun i => ?_
    rw [getElem?_marked, exchange_eq_set before after d, ← hat.split]
    by_cases hi : i = before.length
    · subst hi
      rw [List.getElem?_set_self hlength, hat.getElem?_eq, Option.map_some]
      exact congrArg some (Disk.marked_congr fun number => by rw [hmem, and_iff_right rfl])
    · -- Nothing is named at another place.
      have hnone : numbersAt (t.named token) i = [] :=
        List.eq_nil_iff_forall_not_mem.mpr fun number h => hi ((hmem i number).mp h).1
      rw [List.getElem?_set_ne (Ne.symm hi), hnone]
      simp only [Disk.marked_nil, Option.map_id']
  exact congrArg (fun ds => { t with disks := ds }) hdisks

/-! ### Tokens -/

/-- A delete token is carried out exactly if all that it names exists, and then that is marked. -/
theorem applyToken_delete (h : t.FindsDisk token) :
    ((applyToken .delete token t).answer = .ok () ↔ ∀ x ∈ t.named token, t.HasPartition x) ∧
      ((applyToken .delete token t).answer = .ok () →
        (applyToken .delete token t).state = t.marked (t.named token)) := by
  rcases h with ⟨name, numbers, hparse, hdisk⟩
  rcases Option.ne_none_iff_exists'.mp hdisk with ⟨d, hd⟩
  rcases find?_eq_some_iff_firstAt.mp hd with ⟨before, after, hat⟩
  rcases applyToken_onDisk_of_firstAt hparse hat with ⟨hanswer, hstate⟩
  -- What is named exists exactly if all numbers are found on the one disk.
  have hexists : (∀ x ∈ t.named token, t.HasPartition x) ↔
      ∀ n ∈ numbers, d.partition? (n : Nat) ≠ none := by
    rw [named_of_firstAt hparse hat, List.forall_mem_map]
    unfold HasPartition
    simp only [hat.getElem?_eq, Option.some.injEq, exists_eq_left']
  refine ⟨?_, fun hok => ?_⟩
  · rw [hanswer, hexists]
    exact DiskAction.deleteAll_eq_ok_iff
  · rw [hstate, marked_named hparse hat]
    exact congrArg (fun d => { t with disks := before ++ d :: after })
      (DiskAction.deleteAll_of_ok (hanswer.mp hok)).2

/-- So are delete tokens one after the other, whatever they mark on the way. The induction is on
    the tokens, for all topologies, since the rest of them starts with the marks of the first. -/
theorem applyTokens_delete {tokens : List String} (h : ∀ token ∈ tokens, t.FindsDisk token) :
    ((applyTokens .delete tokens t).answer = .ok () ↔
        ∀ x ∈ t.deletions tokens, t.HasPartition x) ∧
      ((applyTokens .delete tokens t).answer = .ok () →
        (applyTokens .delete tokens t).state = t.marked (t.deletions tokens)) := by
  induction tokens generalizing t with
  | nil =>
      have hall : ∀ x ∈ t.deletions [], t.HasPartition x := fun _ hx => absurd hx List.not_mem_nil
      exact ⟨iff_of_true rfl hall, fun _ => t.marked_nil.symm⟩
  | cons token rest ih =>
      rw [List.forall_mem_cons] at h
      rcases applyToken_delete h.1 with ⟨hanswer, hstate⟩
      have hcons : t.deletions (token :: rest) = t.named token ++ t.deletions rest := rfl
      -- What the rest names is looked up with the marks of the first token there.
      have hrest := ih fun token' hmem => (h.2 token' hmem).marked (t.named token)
      simp only [deletions_marked, hasPartition_marked_iff, marked_append] at hrest
      rw [applyTokens, Outcome.andThen_unit_eq_ok_iff, hcons, List.forall_mem_append, ← hanswer]
      constructor
      · refine and_congr_right fun hok => ?_
        rw [hstate hok]
        exact hrest.1
      · rintro ⟨hok, hokRest⟩
        rw [Outcome.andThen_state_of_ok hok]
        rw [hstate hok] at hokRest ⊢
        exact hrest.2 hokRest

end Topology

/-- Delete tokens that name the same partitions are carried out or not together, and mark the
    same: the first partition of each number that is named, and nothing else. How a disk is
    spelled, which partitions share a token, and in what order or how often they are named makes
    no difference, since all of that is gone from what is named. -/
theorem applyTokens_delete_congr {t : Topology} {first second : List String}
    (hfirst : ∀ token ∈ first, t.FindsDisk token) (hsecond : ∀ token ∈ second, t.FindsDisk token)
    (hsame : ∀ x, x ∈ t.deletions first ↔ x ∈ t.deletions second) :
    ((applyTokens .delete first t).answer = .ok () ↔
        (applyTokens .delete second t).answer = .ok ()) ∧
      ((applyTokens .delete first t).answer = .ok () →
        (applyTokens .delete first t).state = t.marked (t.deletions first) ∧
          (applyTokens .delete second t).state = t.marked (t.deletions first)) := by
  rcases Topology.applyTokens_delete hfirst with ⟨hanswer, hstate⟩
  rcases Topology.applyTokens_delete hsecond with ⟨hanswer', hstate'⟩
  -- Both succeed exactly if everything that is named exists.
  have hiff : (applyTokens .delete first t).answer = .ok () ↔
      (applyTokens .delete second t).answer = .ok () := by
    rw [hanswer, hanswer']
    simp only [hsame]
  refine ⟨hiff, fun hok => ⟨hstate hok, ?_⟩⟩
  rw [hstate' (hiff.mp hok)]
  exact Topology.marked_congr fun x => (hsame x).symm

/-- Two disks, the second with a number that is there twice and a partition that is to be
    removed already. The same is deleted in one token for each partition and in tokens with
    repetitions, other spellings and another order. -/
theorem applyTokens_delete_congr_ofRepeated :
    let d : Disk := { Disk.ofThree with
      path := "/dev/sdb"
      partitions := [{ Partition.found 1 5000 5999 with removed := true },
        .found 2 6000 6999, .found 2 8000 8999] }
    let t : Topology := ⟨[.ofThree, d], []⟩
    let first := ["sda:1", "sda:3", "sdb:1", "sdb:2"]
    let second := ["/dev/sdb:2:1:2", "sda", "/dev/sda:3:01:3"]
    (∀ token ∈ first, t.FindsDisk token) ∧ (∀ token ∈ second, t.FindsDisk token) ∧
      (∀ x, x ∈ t.deletions first ↔ x ∈ t.deletions second) ∧
      (applyTokens .delete first t).answer = .ok () ∧
      (applyTokens .delete second t).answer = .ok () ∧
      (applyTokens .delete first t).state = t.marked (t.deletions first) ∧
      (applyTokens .delete second t).state = t.marked (t.deletions first) ∧
      (t.marked (t.deletions first)).disks.map (fun d => d.partitions.map fun p => p.removed) =
        [[true, false, true], [true, true, false]] := by
  intro d t first second
  have hfirst : ∀ token ∈ first, t.FindsDisk token := by
    unfold first
    rw [List.forall_mem_cons, List.forall_mem_cons, List.forall_mem_cons,
      List.forall_mem_singleton]
    exact ⟨⟨"sda", [1], by decide +kernel, by decide⟩, ⟨"sda", [3], by decide +kernel, by decide⟩,
      ⟨"sdb", [1], by decide +kernel, by decide⟩, ⟨"sdb", [2], by decide +kernel, by decide⟩⟩
  have hsecond : ∀ token ∈ second, t.FindsDisk token := by
    unfold second
    rw [List.forall_mem_cons, List.forall_mem_cons, List.forall_mem_singleton]
    exact ⟨⟨"/dev/sdb", [2, 1, 2], by decide +kernel, by decide⟩,
      ⟨"sda", [], by decide +kernel, by decide⟩,
      ⟨"/dev/sda", [3, 1, 3], by decide +kernel, by decide⟩⟩
  have hsub : t.deletions first ⊆ t.deletions second := by decide +kernel
  have hsub' : t.deletions second ⊆ t.deletions first := by decide +kernel
  have hsame : ∀ x, x ∈ t.deletions first ↔ x ∈ t.deletions second :=
    fun x => ⟨fun hx => hsub hx, fun hx => hsub' hx⟩
  have hok : (applyTokens .delete first t).answer = .ok () := by decide +kernel
  have hcongr := applyTokens_delete_congr hfirst hsecond hsame
  have hstates := hcongr.2 hok
  exact ⟨hfirst, hsecond, hsame, hok, hcongr.1.mp hok, hstates.1, hstates.2, by decide +kernel⟩

end DiskPlan
