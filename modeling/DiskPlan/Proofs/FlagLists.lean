import DiskPlan.Proofs.AskedPartitions
import DiskPlan.Proofs.NewPartitions
import DiskPlan.Proofs.SuffixAnswers

/-!
# Lists of Flags

Lists of flags that mean the same, and the lists that partitions end up with.

A flag is in a list if its name is between two of the commas. This says all there is to say of
a list of names: flags are kept in the order of declaration, so sets of flags have one list
each, and two lists of names are read as the same list of flags exactly if they have the same
names in them, apart from those that stand for no flag. How a list can be varied without that
is in `Flag.Varies`.

A token can give a list of flags, even several, of which the last counts. On every way that
leads from there to a partition the list is handed on as it was read. A reused partition
without a new list keeps the one it has, a new one has no flags then.

## Main definitions

* `Flag.Varies`: Lists of names that only differ in what does not matter.
* `Kind.flagsGiven?`: The list of flags that a token gives.
* `Operation.partition?`: The partition that an operation is about.
* `WorksOn`: A token that succeeds, and its partition as the token leaves it.

## Theorems

* `Flag.parse_eq_iff`: Lists of names that are read as the same flags.
* `Flag.parse_flagText`: Flags are read back from their names.
* `Operation.flags_of_read`: The flags of a token come from its last list of them.
* `Operation.flags_of_applyToken`: They are the flags of the partition.
* `Flag.parse_isCanonical`: What flags are read, and which of them are stored.
-/

namespace DiskPlan

/-! ### Lists of names -/

/-- A separator between two texts divides the fields of the one from those of the other. The
    fields that meet at it stay apart, so no name is made of the last and the first of them. -/
theorem Text.fields_append {sep : Char} {s a b : String}
    (hs : s.toList = a.toList ++ sep :: b.toList) :
    fields sep s = fields sep a ++ fields sep b := by
  -- The splitting of lists of characters in the library knows about a separator in the middle.
  have hsplit : s.toList.splitOn sep = a.toList.splitOn sep ++ b.toList.splitOn sep := by
    rw [hs]
    exact List.splitOnP_append_cons _ _ (beq_self_eq_true sep)
  unfold fields
  rw [hsplit, List.map_append]

namespace Flag

variable {f : Flag} {a b : String} {names names' : List String}

/-- Two lists are put in the same order exactly if they have the same flags in them. The order of
    declaration is fixed, so nothing else of a list is left once it has been put in order. -/
theorem inOrder_eq_iff {flags flags' : List Flag} :
    inOrder flags = inOrder flags' ↔ ∀ f, f ∈ flags ↔ f ∈ flags' := by
  constructor
  · intro hsame f
    rw [← mem_inOrder, hsame, mem_inOrder]
  · intro hsame
    -- Both sides go through all flags there are, and ask of each whether it is in the list.
    refine List.filter_congr fun f _ => ?_
    rw [Bool.eq_iff_iff, List.contains_iff_mem, List.contains_iff_mem]
    exact hsame f

/-- Lists of names are read as the same flags exactly if they name the same flags. This is the
    one fact about reading that later theorems rest on: whatever is done to a list, it is enough
    to look at the names of flags in it. -/
theorem parse_eq_iff :
    parse a = parse b ↔ ∀ f : Flag, f.name ∈ Text.fields ',' a ↔ f.name ∈ Text.fields ',' b := by
  -- A flag has one name only, so it is read from a list exactly if its name stands there.
  have hread : ∀ (f : Flag) (names : String),
      f ∈ (Text.fields ',' names).filterMap ofName? ↔ f.name ∈ Text.fields ',' names :=
    fun f names => mem_inOrder.symm.trans mem_parse_iff
  unfold parse
  rw [inOrder_eq_iff]
  simp only [hread]

/-- Flags are read from both of two lists of names that are put together. The comma in between is
    needed, since without it the last name of the one and the first of the other would be one. -/
theorem mem_parse_append : f ∈ parse (a ++ "," ++ b) ↔ f ∈ parse a ∨ f ∈ parse b := by
  have hfields : Text.fields ',' (a ++ "," ++ b) = Text.fields ',' a ++ Text.fields ',' b := by
    apply Text.fields_append
    rw [String.toList_append, String.toList_append, List.append_assoc]
    rfl
  simp only [mem_parse_iff, hfields, List.mem_append]

/-- Flags are in the order of declaration. A list of flags that has been read is what is left of
    the list of all flags, and that list is in order. -/
theorem pairwise_parse (names : String) :
    (parse names).Pairwise fun f g => all.idxOf f < all.idxOf g := by
  have hall : all.Pairwise fun f g => all.idxOf f < all.idxOf g := by decide
  exact hall.sublist (parse_sublist names)

/-- Flags are read back from their names, in order. No name of a flag has a comma in it, so the
    names are the fields of the text, and each of them stands for the flag that it was written
    for. -/
theorem parse_flagText (flags : List Flag) : parse (Suffix.flagText flags) = inOrder flags := by
  have hcomma : ∀ name ∈ flags.map Flag.name, ',' ∉ name.toList := by
    intro name hname
    rcases List.mem_map.mp hname with ⟨f, _, rfl⟩
    cases f <;> decide
  cases flags with
  -- An empty list of names has one field, which is empty and no flag's name.
  | nil => decide
  | cons f rest =>
      have hfields : Text.fields ',' (Suffix.flagText (f :: rest)) = (f :: rest).map Flag.name :=
        Text.fields_of_intercalate String.toList_intercalate hcomma (List.cons_ne_nil _ _)
      unfold parse
      rw [hfields, List.filterMap_map]
      have hsame : (f :: rest).filterMap (ofName? ∘ name) = f :: rest := by
        rw [show ofName? ∘ name = some from funext ofName?_name, List.filterMap_some]
      rw [hsame]

/-- Lists of names that only differ in the order of the names, in how often they occur, and in
    names that stand for no flag. Each constructor is one such difference, and the last two make
    any number of them, in both directions, out of single ones. -/
inductive Varies : List String → List String → Prop
  | reorder {names names' : List String} (h : names'.Perm names) : Varies names names'
  | repeats {names : List String} {name : String} (h : name ∈ names) : Varies names (name :: names)
  | unknown {names : List String} {name : String} (h : ofName? name = none) :
      Varies names (name :: names)
  | empty {names : List String} : Varies names ("" :: names)
  | symm {names names' : List String} (h : Varies names names') : Varies names' names
  | trans {names names' names'' : List String} (hfirst : Varies names names')
      (hrest : Varies names' names'') : Varies names names''

/-- What lists that vary in this way have in common are the names of flags. The induction is on
    the way from one list to the other, and no step on it takes the name of a flag away or adds
    one. -/
theorem Varies.name_mem_iff (h : Varies names names') (f : Flag) :
    f.name ∈ names ↔ f.name ∈ names' := by
  -- A name that stands for no flag is not the name of the flag in question.
  have hother : ∀ {name : String} {names : List String}, ofName? name = none →
      (f.name ∈ names ↔ f.name ∈ name :: names) := by
    intro name names hname
    have hne : f.name ≠ name := by
      rintro rfl
      rw [ofName?_name] at hname
      exact absurd hname (Option.some_ne_none f)
    rw [List.mem_cons, or_iff_right hne]
  induction h with
  | reorder h => exact h.mem_iff.symm
  | repeats h =>
      rw [List.mem_cons]
      -- The name that is repeated was in the list before, so the flag is found there.
      exact ⟨Or.inr, fun hf => hf.elim (fun hsame => hsame ▸ h) id⟩
  | unknown h => exact hother h
  | empty => exact hother (by decide)
  | symm _ ih => exact ih.symm
  | trans _ _ hfirst hrest => exact hfirst.trans hrest

end Flag

/-! ### Tokens -/

/-- The suffix fields among the fields of a token. -/
def Kind.suffixesOf : Kind → List String → List String
  | .reuse, fields => fields.drop 3
  | .create, fields => fields.drop 5
  | .logical, fields => fields.drop 4
  | _, _ => []

/-- The list of flags that a token gives. Of several lists the last one counts, and fields for
    other keys may stand between them. -/
def Kind.flagsGiven? (kind : Kind) (token : String) : Option String :=
  Suffix.lastPayload? .flags (kind.suffixesOf (Text.fields ':' token))

/-- What suffix fields say of flags is in the last field for them. The list in that field is read
    as it stands there: nothing is added to it from the fields before. -/
theorem Suffix.flags_of_says {found : List (SuffixKey × String)} {s : Suffix} (h : Says found s) :
    s.flags = (lastPayload? .flags (found.map spelling)).map Flag.parse := by
  rw [says_iff.mp h, lastPayload?_map_spelling]
  rfl

namespace Operation

/-- The flags that an operation gives its partition. -/
def flags? : Operation → Option (List Flag)
  | onDisk _ (.reuse _ _ suffix) => suffix.flags
  | onDisk _ (.create _ _ _ _ suffix) => suffix.flags
  | onDisk _ _ => none
  | onGroup _ volume => volume.flags

variable {fields : List String} {op : Operation}

theorem flags_of_readReuse (h : (readReuse fields).operation = .ok op) :
    op.flags? = (Suffix.lastPayload? .flags (fields.drop 3)).map Flag.parse := by
  unfold readReuse at h
  split at h
  · -- The suffix is read first, and the fields in front of it are read after it. All of them have
    -- to be fine, but only the suffix has flags in it.
    split at h
    · exact absurd h (wrongCount_ne_ok _ _ _)
    · split at h
      · exact absurd h (by simp [Reading.flagless])
      · rename_i found hfound
        rcases bind_eq_ok_iff.mp h with ⟨suffix, hsuffix, h⟩
        rcases bind_eq_ok_iff.mp h with ⟨number, _, h⟩
        rcases bind_eq_ok_iff.mp h with ⟨content, _, h⟩
        obtain rfl := Except.ok.inj h
        obtain ⟨rfl, _⟩ := Fields.suffixes_eq_ok_iff.mp hfound
        exact Suffix.flags_of_says (Fields.mountedSuffix_eq_ok_iff.mp hsuffix).1
  · exact absurd h (wrongCount_ne_ok _ _ _)

/-- A token for a new partition is spelled out by the grammar, which names what its suffix says. -/
theorem flags_of_readCreate (h : (readCreate fields).operation = .ok op) :
    op.flags? = (Suffix.lastPayload? .flags (fields.drop 5)).map Flag.parse := by
  cases spelled_of_readCreate h with
  | create _ _ _ _ hsaid _ => exact Suffix.flags_of_says hsaid

theorem flags_of_readLogical (h : (readLogical fields).operation = .ok op) :
    op.flags? = (Suffix.lastPayload? .flags (fields.drop 4)).map Flag.parse := by
  -- As for a reused partition, except that a volume has no key that would need a mount point.
  unfold readLogical at h
  split at h
  · split at h
    · exact absurd h (wrongCount_ne_ok _ _ _)
    · split at h
      · exact absurd h (by simp [Reading.flagless])
      · rename_i found hfound
        rcases bind_eq_ok_iff.mp h with ⟨filesystem, _, h⟩
        rcases bind_eq_ok_iff.mp h with ⟨size, _, h⟩
        obtain rfl := Except.ok.inj h
        obtain ⟨rfl, _⟩ := Fields.suffixes_eq_ok_iff.mp hfound
        exact Suffix.flags_of_says (Suffix.says_ofFields found)
  · exact absurd h (wrongCount_ne_ok _ _ _)

/-- An operation gives the flags that are read from the last list of them in its token. Tokens of
    the other three kinds have no such list, and their operations give no flags. -/
theorem flags_of_read {kind : Kind} {token : String} (h : (read kind token).operation = .ok op) :
    op.flags? = (kind.flagsGiven? token).map Flag.parse := by
  cases kind with
  | reuse => exact flags_of_readReuse h
  | create => exact flags_of_readCreate h
  | logical => exact flags_of_readLogical h
  | relabel | delete | move =>
      have hasked := asked_of_read h
      cases hasked
      rfl

end Operation

/-! ### Partitions -/

/-- What is to be in a partition has no bearing on its flags. -/
theorem DiskAction.withContent_flags (content : Option Content) (p : Partition) :
    (withContent content p).flags = p.flags := by
  unfold withContent
  split <;> rfl

/-- A suffix without a list of flags leaves the partition with those that it has, which is not
    the same as a suffix with an empty list. -/
theorem DiskAction.withSuffix_flags (suffix : Suffix) (p : Partition) :
    (withSuffix suffix p).flags = suffix.flags.getD p.flags := by
  unfold withSuffix Partition.mountedAt
  cases suffix.mount <;> cases suffix.flags <;> cases suffix.keyId <;> rfl

/-- A reused partition has the flags that it is given, or else those that it had. It is found
    again under its number after the change, which keeps the number of every partition. -/
theorem DiskAction.flags_of_reuse {d : Disk} {number : Nat} {content : Option Content}
    {suffix : Suffix} (hok : ((reuse number content suffix).run d).answer = .ok ()) :
    ∃ p q, d.partition? number = some p ∧
      ((reuse number content suffix).run d).state.partition? number = some q ∧
      q.flags = suffix.flags.getD p.flags := by
  rw [run] at hok ⊢
  rcases d.change_cases number (withSuffix suffix ∘ withContent content) with
    ⟨before, p, after, hat, hchange⟩ | ⟨_, e, hchange⟩
  · -- The partition is changed where it stands, and the partitions before it have other numbers.
    have hidentity := (Edit.reuse number content suffix p).identity
    have hnext := Disk.partition?_exchange hat (Partition.number_of_identity hidentity) number
    rw [if_pos rfl] at hnext
    rw [hchange]
    refine ⟨p, _, Disk.partition?_eq_some_iff.mpr ⟨before, after, hat⟩, hnext, ?_⟩
    rw [withSuffix_flags, withContent_flags]
  · -- A partition that does not exist cannot be reused.
    rw [hchange] at hok
    exact absurd hok (by simp only [Outcome.fail, reduceCtorEq, not_false_eq_true])

/-- A new partition comes last, and has the flags that it is given, or else none. -/
theorem DiskAction.flags_of_create {d : Disk} {role : Role} {first? last? : Position}
    {content : Content} {suffix : Suffix}
    (hok : ((create role first? last? content suffix).run d).answer = .ok ()) :
    ∃ q, ((create role first? last? content suffix).run d).state.partitions.getLast? = some q ∧
      q.flags = suffix.flags.getD [] := by
  rcases run_create_of_ok hok with ⟨first, last, path, _, _, hstate⟩
  rw [hstate]
  exact ⟨_, List.getLast?_concat, rfl⟩

/-- A new volume comes last in its group, and has the flags that it is given, or else none. -/
theorem NewVolume.flags_of_run {v : NewVolume} {g : VolumeGroup} (hok : (v.run g).answer = .ok ()) :
    ∃ q, (v.run g).state.partitions.getLast? = some q ∧ q.flags = v.flags.getD [] := by
  have hchange := change_of_ok hok
  generalize (v.run g).state = g' at hchange
  cases hchange with
  | place _ hplace =>
      rw [(VolumeGroup.place_eq_ok hplace).2.2.2]
      exact ⟨_, List.getLast?_concat, rfl⟩

namespace Topology

variable {t : Topology} {kind : Kind} {token name : String}

/-- A token for a disk that succeeds has found the disk, which is then found again. The name of a
    disk is looked up among the paths, so it matters that no disk comes to stand before it and
    that its own path stays. -/
theorem disk?_applyToken {action : DiskAction}
    (hparse : Operation.parse kind token = .ok (.onDisk name action))
    (hok : (applyToken kind token t).answer = .ok ()) :
    ∃ d, t.disk? name = some d ∧ (action.run d).answer = .ok () ∧
      (applyToken kind token t).state.disk? name = some (action.run d).state := by
  rcases (applyToken_onDisk_eq_ok_iff hparse).mp hok with ⟨before, d, after, hat, hrun⟩
  refine ⟨d, find?_eq_some_iff_firstAt.mpr ⟨before, after, hat⟩, hrun, ?_⟩
  rw [(applyToken_onDisk_of_firstAt hparse hat).2]
  -- Actions do not change the path that the disk goes by.
  have hpath : (action.run d).state.path = d.path :=
    congrArg Prod.fst (DiskAction.Runs.cons hrun (.nil _)).device
  have hnamed : (action.run d).state.isNamed name = true := by
    unfold Disk.isNamed
    rw [hpath]
    exact hat.holds
  exact find?_eq_some_iff_firstAt.mpr ⟨before, after, hat.exchange hnamed⟩

/-- A token for a volume group that succeeds has found the group, which is then found again. -/
theorem group?_of_applyToken {volume : NewVolume}
    (hparse : Operation.parse kind token = .ok (.onGroup name volume))
    (hok : (applyToken kind token t).answer = .ok ()) :
    ∃ g, t.group? name = some g ∧ (volume.run g).answer = .ok () ∧
      (applyToken kind token t).state.group? name = some (volume.run g).state := by
  -- A group is found by its name as it is, and the run is opened on both sides at once.
  have hread := mapError_eq_ok_iff.mp hparse
  rw [applyToken_answer_of_ok hread] at hok
  rw [applyToken_state_of_ok hread]
  cases hfound : t.group? name with
  | none =>
      rcases (Operation.run_onGroup_of_none hfound volume).2 with ⟨f, hf⟩
      rw [hf] at hok
      exact absurd hok (by simp only [reduceCtorEq, not_false_eq_true])
  | some g =>
      rcases find?_eq_some_iff_firstAt.mp hfound with ⟨before, after, hat⟩
      rw [(Operation.run_onGroup_of_firstAt hat volume).2] at hok
      refine ⟨g, rfl, hok, ?_⟩
      rw [group?_run_onGroup hfound, if_pos rfl]

end Topology

namespace Operation

/-- The partition that an operation reuses, or that it has made. It is looked for in the topology
    that the operation leaves, where a new partition is the last one on its disk or in its group. -/
def partition? : Operation → Topology → Option Partition
  | onDisk name (.reuse number _ _), t => t.partition? name number
  | onDisk name (.create ..), t => (t.disk? name).bind fun d => d.partitions.getLast?
  | onDisk _ _, _ => none
  | onGroup name _, t => (t.group? name).bind fun g => g.partitions.getLast?

/-- The flags that its partition has already, before the operation: a new one has none. -/
def flagsBefore : Operation → Topology → List Flag
  | onDisk name (.reuse number _ _), t =>
    ((t.partition? name number).map Partition.flags).getD []
  | _, _ => []

/-- An operation that succeeds leaves its partition with the flags that it gives, or else with
    those that the partition has already. There is one case for each kind that gives flags, and
    in each of them the device is found first and the partition on it. -/
theorem flags_of_applyToken {op : Operation} {kind : Kind} {token : String} {t : Topology}
    (hkind : kind ∈ [Kind.reuse, .create, .logical]) (hparse : parse kind token = .ok op)
    (hok : (applyToken kind token t).answer = .ok ()) :
    ∃ q, op.partition? (applyToken kind token t).state = some q ∧
      q.flags = op.flags?.getD (op.flagsBefore t) := by
  -- The kind settles what the operation can be, since a token is read by its kind.
  cases asked_of_read (mapError_eq_ok_iff.mp hparse) with
  | relabel | delete | move => exact absurd hkind (by decide)
  | reuse name number _ _ =>
      rcases Topology.disk?_applyToken hparse hok with ⟨d, hd, hrun, hd'⟩
      rcases DiskAction.flags_of_reuse hrun with ⟨p, q, hp, hq, hflags⟩
      refine ⟨q, ?_, ?_⟩
      · rw [partition?, Topology.partition?, hd', Option.bind_some, hq]
      · rw [flagsBefore, Topology.partition?, hd, Option.bind_some, hp, hflags]
        rfl
  | create name _ _ _ _ _ =>
      rcases Topology.disk?_applyToken hparse hok with ⟨d, _, hrun, hd'⟩
      rcases DiskAction.flags_of_create hrun with ⟨q, hq, hflags⟩
      refine ⟨q, ?_, hflags⟩
      rw [partition?, hd', Option.bind_some, hq]
  | logical name volume =>
      rcases Topology.group?_of_applyToken hparse hok with ⟨g, _, hrun, hg'⟩
      rcases NewVolume.flags_of_run hrun with ⟨q, hq, hflags⟩
      refine ⟨q, ?_, hflags⟩
      rw [partition?, hg', Option.bind_some, hq]

end Operation

/-- A token that succeeds has worked on the partition that it reuses, or that it has made. Tokens
    of the kinds that give no flags work on no partition in this sense. -/
def WorksOn (kind : Kind) (token : String) (t : Topology) (q : Partition) : Prop :=
  (applyToken kind token t).answer = .ok () ∧
    ∃ op, Operation.parse kind token = .ok op ∧
      op.partition? (applyToken kind token t).state = some q

variable {kind : Kind} {token : String} {t : Topology} {q : Partition}

/-- Every token of one of the three kinds that succeeds has worked on a partition. -/
theorem exists_worksOn (hkind : kind ∈ [Kind.reuse, .create, .logical])
    (hok : (applyToken kind token t).answer = .ok ()) : ∃ q, WorksOn kind token t q := by
  rcases read_of_applyToken hok with ⟨op, hread⟩
  have hparse : Operation.parse kind token = .ok op := mapError_eq_ok_iff.mpr hread
  rcases Operation.flags_of_applyToken hkind hparse hok with ⟨q, hq, _⟩
  exact ⟨q, hok, op, hparse, hq⟩

/-- The partition has the flags of the last list in the token, if there is one. -/
theorem WorksOn.flags_eq (h : WorksOn kind token t q) :
    ∃ op, Operation.parse kind token = .ok op ∧
      q.flags = ((kind.flagsGiven? token).map Flag.parse).getD (op.flagsBefore t) := by
  rcases h with ⟨hok, op, hparse, hq⟩
  have hread := mapError_eq_ok_iff.mp hparse
  -- That there is a partition at all tells that the token is of one of the three kinds.
  have hkind : kind ∈ [Kind.reuse, .create, .logical] := by
    cases Operation.asked_of_read hread with
    | reuse | create | logical => decide
    | relabel | delete | move => exact absurd hq (Option.some_ne_none q).symm
  -- The partition is the one that the operation is known to leave, since only one is looked up.
  rcases Operation.flags_of_applyToken hkind hparse hok with ⟨q', hq', hflags⟩
  obtain rfl : q = q' := Option.some.inj (hq.symm.trans hq')
  refine ⟨op, hparse, ?_⟩
  rw [hflags, Operation.flags_of_read hread]

/-- What a partition had before does not matter once a list is given. -/
theorem WorksOn.flags_of_given (h : WorksOn kind token t q) {names : String}
    (hgiven : kind.flagsGiven? token = some names) : q.flags = Flag.parse names := by
  rcases h.flags_eq with ⟨op, _, hflags⟩
  rw [hflags, hgiven]
  rfl

namespace Flag

/-- The flags of a list are those that it names, so the flags of two lists that are put together
    are those of both. Neither the order of the names matters, nor how often they occur, nor any
    names that stand for no flag. Flags are read in the order of declaration, each once, and they
    are read back from their names. This is how the last list in a token for a partition gets
    there: tokens that succeed store the same flags exactly if their last lists name the same
    ones, and these are read back. -/
theorem parse_isCanonical :
    (∀ a (f : Flag), f ∈ parse a ↔ f.name ∈ Text.fields ',' a) ∧
    (∀ a b f, f ∈ parse (a ++ "," ++ b) ↔ f ∈ parse a ∨ f ∈ parse b) ∧
    (∀ a b, Varies (Text.fields ',' a) (Text.fields ',' b) → parse a = parse b) ∧
    (∀ a, inOrder (parse a) = parse a ∧
      (parse a).Pairwise fun f g => all.idxOf f < all.idxOf g) ∧
    (∀ a, parse (Suffix.flagText (parse a)) = parse a) ∧
    (∀ kind ∈ [Kind.reuse, .create, .logical], ∀ token t,
      (applyToken kind token t).answer = .ok () → ∃ q, WorksOn kind token t q) ∧
    (∀ kind token t q names, WorksOn kind token t q → kind.flagsGiven? token = some names →
      q.flags = parse names ∧ parse (Suffix.flagText q.flags) = q.flags) ∧
    (∀ kind token t q, WorksOn kind token t q → kind.flagsGiven? token = none →
      ∃ op, Operation.parse kind token = .ok op ∧ q.flags = op.flagsBefore t) ∧
    (∀ kind token t q names kind' token' t' q' names',
      WorksOn kind token t q → kind.flagsGiven? token = some names →
      WorksOn kind' token' t' q' → kind'.flagsGiven? token' = some names' →
      (q.flags = q'.flags ↔
        ∀ f : Flag, f.name ∈ Text.fields ',' names ↔ f.name ∈ Text.fields ',' names')) := by
  -- What has been read is in order, and to put it in order again changes nothing.
  have horder : ∀ a, inOrder (parse a) = parse a :=
    fun a => inOrder_eq_iff.mpr fun f => mem_inOrder
  -- The names of flags are read back in order, and they were in order before.
  have hback : ∀ a, parse (Suffix.flagText (parse a)) = parse a :=
    fun a => (parse_flagText (parse a)).trans (horder a)
  refine ⟨fun a f => mem_parse_iff, fun a b f => mem_parse_append, ?_,
    fun a => ⟨horder a, pairwise_parse a⟩, hback, ?_, ?_, ?_, ?_⟩
  · intro a b hvaries
    exact parse_eq_iff.mpr hvaries.name_mem_iff
  · intro kind hkind token t hok
    exact exists_worksOn hkind hok
  · intro kind token t q names hworks hgiven
    rw [hworks.flags_of_given hgiven]
    exact ⟨rfl, hback names⟩
  · intro kind token t q hworks hnone
    rcases hworks.flags_eq with ⟨op, hparse, hflags⟩
    rw [hnone] at hflags
    exact ⟨op, hparse, hflags⟩
  · -- Both partitions have what is read from their lists, so the question is about two texts only.
    intro kind token t q names kind' token' t' q' names' hworks hgiven hworks' hgiven'
    rw [hworks.flags_of_given hgiven, hworks'.flags_of_given hgiven']
    exact parse_eq_iff

/-- Of two lists of flags in a token the second one counts. It has a flag twice, an empty name
    and one that stands for no flag. Another token has the same flags in another order, and
    stores the same list on the partition that it reuses. -/
theorem parse_isCanonical_ofRepeated :
    let t : Topology := ⟨[.ofThree], []⟩
    let token := "sda:primary:9000:10999:ext4:flags=lvm:flags=boot,,nope,esp,boot"
    let token' := "sda:1:reuse:flags=esp,boot"
    Varies ["boot", "", "nope", "esp", "boot"] ["esp", "boot"] ∧
      ∃ q q', WorksOn .create token t q ∧ WorksOn .reuse token' t q' ∧
        q.flags = [esp, boot] ∧ q'.flags = [esp, boot] := by
  intro t token token'
  rcases parse_isCanonical with ⟨_, _, hvaries, _, _, hexists, hstored, _⟩
  have hvaried : Varies ["boot", "", "nope", "esp", "boot"] ["esp", "boot"] := by
    have hknown : Varies ["nope", "esp", "boot"] ["esp", "boot"] := .symm (.unknown (by decide))
    have hempty : Varies ["", "nope", "esp", "boot"] ["nope", "esp", "boot"] := .symm .empty
    have hrepeated : Varies ["boot", "", "nope", "esp", "boot"] ["", "nope", "esp", "boot"] :=
      .symm (.repeats (by decide))
    exact hrepeated.trans (hempty.trans hknown)
  have hgiven : Kind.create.flagsGiven? token = some "boot,,nope,esp,boot" := by decide +kernel
  have hgiven' : Kind.reuse.flagsGiven? token' = some "esp,boot" := by decide +kernel
  rcases hexists .create (by decide) token t (by decide +kernel) with ⟨q, hq⟩
  rcases hexists .reuse (by decide) token' t (by decide +kernel) with ⟨q', hq'⟩
  have hflags : q'.flags = [esp, boot] :=
    (hstored _ _ _ _ _ hq' hgiven').1.trans (by decide +kernel)
  have hnames := hvaries "boot,,nope,esp,boot" "esp,boot" hvaried
  refine ⟨hvaried, q, q', hq, hq', ?_, hflags⟩
  rw [(hstored _ _ _ _ _ hq hgiven).1, hnames, ← (hstored _ _ _ _ _ hq' hgiven').1]
  exact hflags

end Flag

end DiskPlan
