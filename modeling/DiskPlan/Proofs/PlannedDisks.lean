import DiskPlan.Proofs.Actions
import DiskPlan.Proofs.Refusal
import DiskPlan.Proofs.Stages

/-!
# The Disks of a Plan

What a plan that succeeds has made of each of its disks.

A plan goes through its kinds of operations in a fixed order, and in each of them
through all of its tokens, whichever disk they are for. Seen from one disk, it is a
run of actions: the new tables, the deletions, the moves, the reuses and the new
partitions of the tokens whose name stands for that disk. `Topology.Carries` is this
view of several disks at once. It puts the actions of a place in a row, and a name
stands for the same place throughout, since no action changes a path.

What is left to say of a plan is then said of one disk at a time, and does not mention
tokens any more: a run of actions in that order leaves a disk that `IsBuilt`.

## Main definitions

* `Topology.place?`: The place of the disk that a name stands for.
* `Topology.actionsAt`: What tokens ask for on the disk at a place.
* `Topology.Carries`: Actions carried out on the disks of a topology.
* `Disk.IsBuilt`: A disk with all that a plan asks for on it.

## Theorems

* `Topology.disk?_eq_getElem?`: A name stands for the disk that is found by it.
* `Topology.carries_run`, `Topology.carries_applyTokens`: What operations and tokens
  carry out.
* `registerDisks_eq_ok`, `registerDisks_of_found`: The disks that a plan begins with.
* `isBuilt_of_runs`: What a run of actions leaves of a disk.
* `configure_carries`: What a plan carries out.
* `configure_isBuilt`: What a plan leaves of its disks.
-/

namespace DiskPlan

namespace Topology

variable {t t' t'' : Topology}

/-! ### Places -/

/-- The place of the disk that a name stands for, which is the first one of that
    name. -/
def place? (t : Topology) (name : String) : Option Nat :=
  t.disks.findIdx? fun d => d.isNamed name

theorem disk?_eq_none_iff_place? {name : String} : t.disk? name = none ↔ t.place? name = none := by
  unfold disk? place?
  rw [List.find?_eq_none, List.findIdx?_eq_none_iff]
  simp only [Bool.not_eq_true]

/-- The disk that is found by a name is the one at the place of the name. -/
theorem disk?_eq_getElem? {name : String} {i : Nat} (h : t.place? name = some i) :
    t.disk? name = t.disks[i]? := by
  cases hfound : t.disk? name with
  | none =>
      rw [disk?_eq_none_iff_place?.mp hfound] at h
      exact absurd h (by simp only [reduceCtorEq, not_false_eq_true])
  | some d =>
      rcases find?_eq_some_iff_firstAt.mp hfound with ⟨before, after, hat⟩
      obtain rfl : before.length = i := Option.some.inj (hat.findIdx?_eq.symm.trans h)
      exact hat.getElem?_eq.symm

theorem place?_congr (h : t'.disks.map Disk.path = t.disks.map Disk.path) (name : String) :
    t'.place? name = t.place? name := by
  -- A name is matched against paths, and nothing else of a disk.
  have hpath : ∀ ds : List Disk, ds.findIdx? (fun d => d.isNamed name) =
      (ds.map Disk.path).findIdx? fun path => isPathNamed path name := by
    intro ds
    rw [List.findIdx?_map]
    rfl
  unfold place?
  rw [hpath, hpath, h]

/-! ### Actions at a place -/

/-- What an operation does to the disk at a place, if it is for that disk. -/
def actionAt? (t : Topology) (i : Nat) : Operation → Option DiskAction
  | .onDisk name action => if t.place? name = some i then some action else none
  | .onGroup _ _ => none

/-- What tokens of a kind ask for on the disk at a place, in their order. -/
def actionsAt (t : Topology) (i : Nat) (kind : Kind) (tokens : List String) : List DiskAction :=
  tokens.filterMap fun token => (Operation.parse kind token).toOption.bind (t.actionAt? i)

theorem actionsAt_congr (h : t'.disks.map Disk.path = t.disks.map Disk.path) (i : Nat)
    (kind : Kind) (tokens : List String) :
    t'.actionsAt i kind tokens = t.actionsAt i kind tokens := by
  have haction : t'.actionAt? i = t.actionAt? i := by
    funext op
    cases op with
    | onDisk name action =>
        simp only [actionAt?, place?_congr h]
    | onGroup _ _ => rfl
  unfold actionsAt
  rw [haction]

theorem actionsAt_cons {i : Nat} {kind : Kind} {token : String} {op : Operation}
    (hparse : Operation.parse kind token = .ok op) (rest : List String) :
    t.actionsAt i kind (token :: rest) = (t.actionAt? i op).toList ++ t.actionsAt i kind rest := by
  have hasked : (Operation.parse kind token).toOption.bind (t.actionAt? i) = t.actionAt? i op := by
    rw [hparse]
    rfl
  unfold actionsAt
  rw [List.filterMap_cons, hasked]
  cases t.actionAt? i op <;> rfl

/-- Tokens of a kind ask for actions of the kind. -/
theorem kind_of_mem_actionsAt {i : Nat} {kind : Kind} {tokens : List String}
    {action : DiskAction} (h : action ∈ t.actionsAt i kind tokens) : action.kind = kind := by
  rcases List.mem_filterMap.mp h with ⟨token, _, haction⟩
  rcases Option.bind_eq_some_iff.mp haction with ⟨op, hop, haction⟩
  have hasked : op.Asked kind := by
    cases hparse : Operation.parse kind token with
    | error f =>
        rw [hparse] at hop
        exact absurd hop (by simp only [Except.toOption, reduceCtorEq, not_false_eq_true])
    | ok op' =>
        rw [hparse] at hop
        obtain rfl : op' = op := Option.some.inj hop
        exact Operation.asked_of_read (mapError_eq_ok_iff.mp hparse)
  cases op with
  | onGroup _ _ => exact absurd haction (by simp only [actionAt?, reduceCtorEq, not_false_eq_true])
  | onDisk name action' =>
      simp only [actionAt?] at haction
      split at haction
      · obtain rfl : action' = action := Option.some.inj haction
        exact DiskAction.kind_of_asked hasked
      · exact absurd haction (by simp only [reduceCtorEq, not_false_eq_true])

/-! ### Carrying out -/

/-- Actions carried out on the disks of a topology: of each place those in a row that
    are for it. No disk is added, and none is lost. -/
structure Carries (actions : Nat → List DiskAction) (t t' : Topology) : Prop where
  length : t'.disks.length = t.disks.length
  runs : ∀ {i d d'}, t.disks[i]? = some d → t'.disks[i]? = some d' →
    DiskAction.Runs (actions i) d d'

variable {first second actions : Nat → List DiskAction}

theorem carries_of_disks_eq (h : t'.disks = t.disks) : Carries (fun _ => []) t t' := by
  refine ⟨congrArg List.length h, fun {i d d'} hd hd' => ?_⟩
  rw [h, hd] at hd'
  obtain rfl := Option.some.inj hd'
  exact .nil d

theorem Carries.trans (h : Carries first t t') (h' : Carries second t' t'') :
    Carries (fun i => first i ++ second i) t t'' := by
  refine ⟨h'.length.trans h.length, fun {i d d''} hd hd'' => ?_⟩
  -- The place has a disk in between too, since none is lost.
  have hlt : i < t'.disks.length := by
    rw [h.length]
    exact (List.getElem?_eq_some_iff.mp hd).1
  have hd' : t'.disks[i]? = some t'.disks[i] := List.getElem?_eq_getElem hlt
  exact DiskAction.runs_append_iff.mpr ⟨_, h.runs hd hd', h'.runs hd' hd''⟩

/-- Every disk stays where it is. -/
theorem Carries.paths (h : Carries actions t t') :
    t'.disks.map Disk.path = t.disks.map Disk.path := by
  refine List.ext_getElem? fun i => ?_
  rw [List.getElem?_map, List.getElem?_map]
  cases hd : t.disks[i]? with
  | none =>
      rw [List.getElem?_eq_none_iff, ← h.length, ← List.getElem?_eq_none_iff] at hd
      rw [hd]
  | some d =>
      cases hd' : t'.disks[i]? with
      | none =>
          rw [List.getElem?_eq_none_iff, h.length, ← List.getElem?_eq_none_iff, hd] at hd'
          exact absurd hd' (Option.some_ne_none d)
      | some d' => exact congrArg (fun x => some x.1) (h.runs hd hd').device

/-- An exchange of one disk carries out what leads from the one to the other. -/
theorem carries_exchange {before after : List Disk} {d d' : Disk} {as : List DiskAction}
    (hsplit : t.disks = before ++ d :: after) (h : DiskAction.Runs as d d') :
    Carries (fun i => if before.length = i then as else []) t
      { t with disks := before ++ d' :: after } := by
  have hset : before ++ d' :: after = t.disks.set before.length d' := by
    rw [hsplit]
    exact exchange_eq_set before after d d'
  refine ⟨?_, fun {i d₁ d₂} hd₁ hd₂ => ?_⟩
  · rw [hset, List.length_set]
  · rw [hset] at hd₂
    by_cases hi : before.length = i
    · subst hi
      have hlt := (List.getElem?_eq_some_iff.mp hd₁).1
      rw [List.getElem?_set_self hlt] at hd₂
      rw [hsplit, List.getElem?_append_right (Nat.le_refl _), Nat.sub_self,
        List.getElem?_cons_zero] at hd₁
      obtain rfl := Option.some.inj hd₁
      obtain rfl := Option.some.inj hd₂
      rw [if_pos rfl]
      exact h
    · -- The disks at other places stay as they are.
      rw [List.getElem?_set_ne hi, hd₁] at hd₂
      obtain rfl := Option.some.inj hd₂
      rw [if_neg hi]
      exact .nil _

/-- An operation that succeeds carries out its action where it is for. -/
theorem carries_run {op : Operation} (hok : (op.run t).answer = .ok ()) :
    Carries (fun i => (t.actionAt? i op).toList) t (op.run t).state := by
  cases op with
  | onGroup name volume => exact carries_of_disks_eq (Operation.disks_run_onGroup name volume t)
  | onDisk name action =>
      cases hfound : t.disk? name with
      | none =>
          rcases (Operation.run_onDisk_of_none hfound action).2 with ⟨f, hf⟩
          exact absurd (hf.symm.trans hok) (by simp only [reduceCtorEq, not_false_eq_true])
      | some d =>
          rcases find?_eq_some_iff_firstAt.mp hfound with ⟨before, after, hat⟩
          rcases Operation.run_onDisk_of_firstAt hat action with ⟨hstate, hanswer⟩
          -- The action is asked for at the place of the disk that was found, and only there.
          have hactions : (fun i => (t.actionAt? i (.onDisk name action)).toList) =
              fun i => if before.length = i then [action] else [] := by
            funext i
            simp only [actionAt?, place?, hat.findIdx?_eq, Option.some.injEq]
            split <;> rfl
          rw [hanswer] at hok
          rw [hstate, hactions]
          exact carries_exchange hat.split (.cons hok (.nil _))

/-- Tokens that succeed carry out what they ask for. -/
theorem carries_applyTokens {kind : Kind} {tokens : List String}
    (hok : (applyTokens kind tokens t).answer = .ok ()) :
    Carries (fun i => t.actionsAt i kind tokens) t (applyTokens kind tokens t).state := by
  induction tokens generalizing t with
  | nil => exact carries_of_disks_eq rfl
  | cons token rest ih =>
      rw [applyTokens] at hok ⊢
      rcases Outcome.andThen_unit_eq_ok_iff.mp hok with ⟨htoken, hrest⟩
      rw [Outcome.andThen_state_of_ok htoken]
      rcases read_of_applyToken htoken with ⟨op, hread⟩
      have hparse : Operation.parse kind token = .ok op := mapError_eq_ok_iff.mpr hread
      rw [applyToken_answer_of_ok hread] at htoken
      rw [applyToken_state_of_ok hread] at hrest ⊢
      have hfirst := carries_run htoken
      -- The names in the other tokens stand for the same places as before.
      have hsecond := ih hrest
      simp only [actionsAt_congr hfirst.paths] at hsecond
      simp only [actionsAt_cons hparse]
      exact hfirst.trans hsecond

theorem carries_stage {r : Requests} {kind : Kind} (hok : (r.stage kind t).answer = .ok ()) :
    Carries (fun i => t.actionsAt i kind (r.tokens kind)) t (r.stage kind t).state := by
  unfold Requests.stage at hok ⊢
  split at hok
  · rename_i hempty
    rw [List.isEmpty_iff] at hempty
    rw [hempty]
    exact carries_of_disks_eq rfl
  · rename_i hnonempty
    rw [if_neg hnonempty]
    exact carries_applyTokens hok

theorem carries_stages {r : Requests} {kinds : List Kind}
    (hok : (r.stages kinds t).answer = .ok ()) :
    Carries (fun i => kinds.flatMap fun kind => t.actionsAt i kind (r.tokens kind)) t
      (r.stages kinds t).state := by
  induction kinds generalizing t with
  | nil => exact carries_of_disks_eq rfl
  | cons kind rest ih =>
      rw [Requests.stages] at hok ⊢
      rcases Outcome.andThen_unit_eq_ok_iff.mp hok with ⟨hstage, hrest⟩
      rw [Outcome.andThen_state_of_ok hstage]
      have hfirst := carries_stage hstage
      have hsecond := ih hrest
      -- As with tokens, names stand for the same places in every stage.
      simp only [actionsAt_congr hfirst.paths] at hsecond
      exact hfirst.trans hsecond

end Topology

/-! ### Registration -/

/-- The disks that a plan begins with are found by their names, in order. -/
theorem registerDisks_eq_ok {probe : Probe} {names : List String} {t : Topology}
    (hok : (registerDisks probe names t).answer = .ok ()) :
    ∃ found, List.Forall₂ (fun name d => (probe.lookup name).answer = .ok (some d)) names found ∧
      (registerDisks probe names t).state.disks = t.disks ++ found := by
  induction names generalizing t with
  | nil => exact ⟨[], .nil, (List.append_nil _).symm⟩
  | cons name rest ih =>
      rw [registerDisks] at hok ⊢
      rcases Outcome.andThen_eq_ok_iff.mp hok with ⟨looked, hlooked, hrest⟩
      rw [Outcome.andThen_state_of_ok hlooked]
      cases looked with
      | none => exact absurd hrest (by simp only [Outcome.fail, reduceCtorEq, not_false_eq_true])
      | some d =>
          rcases Outcome.andThen_unit_eq_ok_iff.mp hrest with ⟨hadded, hothers⟩
          rcases ih hothers with ⟨found, hfound, hstate⟩
          refine ⟨d :: found, .cons hlooked hfound, ?_⟩
          rw [List.append_cons]
          exact hstate

/-- Disks that are all found are registered. -/
theorem registerDisks_of_found {probe : Probe} {names : List String} {found : List Disk}
    (h : List.Forall₂ (fun name d => (probe.lookup name).answer = .ok (some d)) names found)
    (t : Topology) :
    (registerDisks probe names t).answer = .ok () ∧
      (registerDisks probe names t).state = { t with disks := t.disks ++ found } := by
  induction h generalizing t with
  | nil => exact ⟨rfl, by rw [List.append_nil]; rfl⟩
  | @cons name d rest _ hlooked _ ih =>
      rcases ih { t with disks := t.disks ++ [d] } with ⟨hanswer, hstate⟩
      have hlifted : ((probe.lookup name).lift fun _ => t).answer = .ok (some d) := hlooked
      rw [registerDisks]
      constructor
      · exact Outcome.andThen_eq_ok_iff.mpr ⟨_, hlifted, Outcome.andThen_eq_ok_iff.mpr
          ⟨(), rfl, hanswer⟩⟩
      · rw [Outcome.andThen_state_of_ok hlifted, List.append_cons]
        exact hstate

/-- The disks of a layout are as they are found: none of them has a new table, and
    every partition is there already. -/
def Disk.IsFound (d : Disk) : Prop :=
  d.relabeled = false ∧ ∀ p ∈ d.partitions, p.provenance = .existing

theorem isFound_of_load {path contents : String} {probe : Probe}
    (hload : (Layout.load path contents).answer = .ok probe) {name : String} {d : Disk}
    (h : (probe.lookup name).answer = .ok (some d)) : d.IsFound := by
  rcases toDisk?_of_load hload h with ⟨layout, _, hlayout⟩
  rcases toDisk?_eq_ok hlayout with ⟨_, hrelabeled, hpartitions⟩
  refine ⟨hrelabeled, fun p hp => ?_⟩
  rcases hpartitions p hp with ⟨source, hsource⟩
  exact (toPartition_eq_ok hsource).2.1

/-! ### Disks with all that is asked for -/

namespace Disk

variable {actions : Kind → List DiskAction} {found d : Disk}

/-- The greatest number of some partitions, zero if there are none. -/
def greatestNumber (ps : List Partition) : Int :=
  (ps.map Partition.number).max?.getD 0

/-- A disk with all that the actions of a plan ask for on it, by kind. First come the
    partitions that were found and are kept, which are none of them under a new table,
    and then the new ones. -/
structure IsBuilt (d found : Disk) (actions : Kind → List DiskAction) : Prop where
  device : d.device = found.device
  relabeled : d.relabeled = true ↔ actions .relabel ≠ []
  table : d.table = (DiskAction.lastTable? (actions .relabel)).or found.table
  partitions : ∃ kept new, d.partitions = kept ++ new ∧
    kept.map Partition.identity =
      (if d.relabeled then [] else found.partitions.map Partition.identity) ∧
    (∀ p ∈ kept, p.provenance = .existing) ∧
    DiskAction.Creates d (greatestNumber kept + 1) (actions .create) new ∧
    ∀ p ∈ new, p.provenance = .new ∧ p.removed = false
  untouched : d.relabeled = true →
    ∀ kind ∈ DiskAction.editKinds, ∀ action ∈ actions kind, action = .delete []

/-- What has the identity of something that was found was found itself. -/
theorem existing_of_identities {kept ps : List Partition} (hps : ∀ p ∈ ps, p.provenance = .existing)
    (h : kept.map Partition.identity = ps.map Partition.identity) :
    ∀ p ∈ kept, p.provenance = .existing :=
  forall_of_identities (fun _ _ hidentity hp =>
    (Partition.provenance_of_identity hidentity).trans hp) h hps

/-- A run of the actions of a plan leaves a disk that has all of them. -/
theorem isBuilt_of_runs (hfound : found.IsFound)
    (hkind : ∀ kind, ∀ action ∈ actions kind, action.kind = kind)
    (h : DiskAction.Runs (diskKinds.flatMap actions) found d) : d.IsBuilt found actions := by
  -- The kinds of a plan: tables first, then edits, then new partitions.
  have hstages : diskKinds.flatMap actions =
      actions .relabel ++ (DiskAction.editKinds.flatMap actions ++ actions .create) := by
    simp only [diskKinds, DiskAction.editKinds, List.flatMap_cons, List.flatMap_nil,
      List.append_nil, List.append_assoc]
  rw [hstages] at h
  rcases DiskAction.runs_append_iff.mp h with ⟨d₁, htables, h⟩
  rcases DiskAction.runs_append_iff.mp h with ⟨d₂, hedits, hcreates⟩
  have hedit := DiskAction.isEdit_of_mem hkind
  rcases htables.relabels (hkind .relabel) hfound.1 with ⟨hrelabeled₁, htable₁, hpartitions₁⟩
  rcases hedits.edits hedit with ⟨hidentities, htable₂, hrelabeled₂⟩
  have hdevice := hcreates.device.trans (hedits.device.trans htables.device)
  rcases hcreates.creates (hkind .create) with ⟨new, rfl, hnew⟩
  -- The next number after the edits is the one behind the greatest that is kept.
  have hnew : DiskAction.Creates { d₂ with partitions := d₂.partitions ++ new }
      (greatestNumber d₂.partitions + 1) (actions .create) new := hnew.congr rfl
  have hexisting : ∀ p ∈ d₁.partitions, p.provenance = .existing := by
    rw [hpartitions₁]
    split
    · exact fun _ hp => absurd hp List.not_mem_nil
    · exact hfound.2
  refine ⟨hdevice, ?_, htable₂.trans htable₁, ⟨d₂.partitions, new, rfl, ?_, ?_, hnew, hnew.built⟩,
    fun hrelabeled kind hmem action haction => ?_⟩
  · exact hrelabeled₂ ▸ hrelabeled₁
  · change _ = if d₂.relabeled then [] else _
    rw [hidentities, hpartitions₁, hrelabeled₂]
    split <;> rfl
  · exact existing_of_identities hexisting hidentities
  · -- The edits have found no partitions to work on.
    have hempty : d₁.partitions = [] := by
      rw [hpartitions₁, ← hrelabeled₂]
      exact if_pos hrelabeled
    exact hedits.eq_delete_nil hempty hedit action (List.mem_flatMap.mpr ⟨kind, hmem, haction⟩)

end Disk

/-! ### Plans -/

/-- A plan that succeeds carries out what its tokens ask for on the disks that are found.
    Groups and their volumes come after the disks and do not change them. -/
theorem configure_carries {probe : Probe} {r : Requests} (h : (configure probe r).answer = .ok ()) :
    ∃ found, List.Forall₂ (fun name d => (probe.lookup name).answer = .ok (some d)) r.disks found ∧
      Topology.Carries
        (fun i => diskKinds.flatMap fun kind =>
          (configure probe r).state.actionsAt i kind (r.tokens kind))
        ⟨found, []⟩ (configure probe r).state := by
  have hprepare := (configure_eq_ok_iff.mp h).1
  rcases Outcome.andThen_unit_eq_ok_iff.mp hprepare with ⟨hregistered, hstages⟩
  rcases registerDisks_eq_ok hregistered with ⟨found, hfound, hdisks⟩
  have hcarries := Topology.carries_stages hstages
  have hdisks : (registerDisks probe r.disks .empty).state.disks = found := hdisks
  have hplanned : (configure probe r).state.disks =
      (r.stages diskKinds (registerDisks probe r.disks .empty).state).state.disks := by
    rw [configure_disks h]
    exact congrArg Topology.disks (Outcome.andThen_state_of_ok hregistered)
  -- No path has changed, so names stand for the same places in the end as at first.
  have hpaths : (configure probe r).state.disks.map Disk.path =
      (registerDisks probe r.disks .empty).state.disks.map Disk.path := by
    rw [hplanned]
    exact hcarries.paths
  simp only [Topology.actionsAt_congr hpaths]
  refine ⟨found, hfound, ?_, fun {i d d'} hd hd' => ?_⟩
  · rw [hplanned, ← hdisks]
    exact hcarries.length
  · rw [← hdisks] at hd
    rw [hplanned] at hd'
    exact hcarries.runs hd hd'

/-- Every disk of a plan is one that was found, with all that is asked for on it. -/
theorem configure_isBuilt {path contents : String} {probe : Probe}
    (hload : (Layout.load path contents).answer = .ok probe) {r : Requests}
    (h : (configure probe r).answer = .ok ()) :
    ∃ found, List.Forall₂ (fun name d => (probe.lookup name).answer = .ok (some d)) r.disks found ∧
      (configure probe r).state.disks.length = found.length ∧
      ∀ i (d₀ d : Disk), found[i]? = some d₀ → (configure probe r).state.disks[i]? = some d →
        d.IsBuilt d₀ fun kind => (configure probe r).state.actionsAt i kind (r.tokens kind) := by
  rcases configure_carries h with ⟨found, hfound, hcarries⟩
  -- As found, no disk has a new table, and no partition is new.
  have hIsFound : ∀ d ∈ found, d.IsFound :=
    forall_mem_of_forall₂ hfound fun _ _ _ hlookup => isFound_of_load hload hlookup
  refine ⟨found, hfound, hcarries.length, fun i d₀ d hd₀ hd => ?_⟩
  exact Disk.isBuilt_of_runs (hIsFound d₀ (List.mem_of_getElem? hd₀))
    (fun kind _ haction => Topology.kind_of_mem_actionsAt haction) (hcarries.runs hd₀ hd)

/-- A layout of a disk with partitions 1 and 3, and of one without a table. -/
def Layout.ofGap : String :=
  "\x7b\"disks\":[\x7b\"device_path\":\"sda\",\"sectors\":40000,\"table\":\"gpt\"," ++
    "\"partitions\":[\x7b\"number\":1,\"start_sector\":5000,\"end_sector\":9999\x7d," ++
    "\x7b\"number\":3,\"start_sector\":10000,\"end_sector\":11999\x7d]\x7d," ++
    "\x7b\"device_path\":\"nvme0n1\",\"sectors\":40000\x7d]\x7d"

/-- The disks that the layout describes. -/
def Disk.ofGap : List Disk :=
  [{ Disk.ofThree with
      sectors := 40000
      partitions := [{ Partition.found 1 5000 9999 with path := "/dev/sda1" },
        { Partition.found 3 10000 11999 with path := "/dev/sda3" }] },
    { Disk.ofThree with
      path := "/dev/nvme0n1"
      sectors := 40000
      table := none
      partitions := [] }]

/-- The layout is read as these disks. -/
theorem Layout.load_ofGap :
    (load "layout.json" ofGap).answer = .ok (.static Disk.ofGap) := by
  have hread : (parse ofGap >>= fun layout => layout.mapM DiskLayout.toDisk?) =
      .ok (Disk.ofGap.map some) := by decide +kernel
  exact load_eq_ok "layout.json" hread

/-- A plan with a new partition behind one that is to be removed, and with two on a disk
    that gets two tables. -/
def Requests.ofGap : Requests where
  disks := ["sda", "nvme0n1"]
  tables := ["nvme0n1:msdos", "nvme0n1:gpt"]
  deletes := ["sda:3"]
  moves := []
  reuses := ["/dev/sda:1:ext4"]
  creates := ["nvme0n1:primary:start:50%:ext4", "sda:primary:25%:end:ext4",
    "nvme0n1:primary:60%:end:ext4"]
  logicals := []

theorem configure_isBuilt_ofGap :
    let plan := configure (.static Disk.ofGap) .ofGap
    (Layout.load "layout.json" Layout.ofGap).answer = .ok (.static Disk.ofGap) ∧
      plan.answer = .ok () ∧
      plan.state.disks.map (fun d => (d.table, d.relabeled,
          d.partitions.map fun p => (p.path, p.provenance, p.removed))) =
        [(some .gpt, false, [("/dev/sda1", .existing, false), ("/dev/sda3", .existing, true),
            ("/dev/sda4", .new, false)]),
          (some .gpt, true, [("/dev/nvme0n1p1", .new, false), ("/dev/nvme0n1p2", .new, false)])] ∧
      ∃ found : List Disk, plan.state.disks.length = found.length ∧
        ∀ i (d₀ d : Disk), found[i]? = some d₀ → plan.state.disks[i]? = some d →
          d.IsBuilt d₀ fun kind => plan.state.actionsAt i kind (Requests.ofGap.tokens kind) := by
  intro plan
  have hplan : plan.answer = .ok () := by decide +kernel
  rcases configure_isBuilt Layout.load_ofGap hplan with ⟨found, _, hlength, hbuilt⟩
  exact ⟨Layout.load_ofGap, hplan, by decide +kernel, found, hlength, hbuilt⟩

end DiskPlan
