import DiskPlan.Proofs.Change
import DiskPlan.Proofs.Reading
import Mathlib.Data.List.Induction

/-!
# Sessions

Any sequence of calls on a topology, whether each of them succeeds or not.

A plan is made in a fixed order and ends with the first failure. Its guarantees do
not rest on either. A session makes calls in any order: tokens of any kind, and the
making of volume groups. Nothing is rolled back, so a call that fails leaves the
topology that it made on the way, and the session goes on from there.

`Reaches` is what a session can do at most. It forgets the tokens and keeps the
changes, so a fact that one change keeps holds after every session by one
induction, done here: `forall₂_disks_of_reaches` carries a fact about a disk and the way
it was at first, of which `disks_of_reaches` is the case of a fact about single disks,
and `group?_of_reaches` carries one about the group of a name.

## Main definitions

* `Call`: A call on a topology.
* `Topology.after`: The topology after a sequence of calls.
* `Topology.afterTokens`: The topology after a run of single tokens.
* `Operation.Change`, `Kind.Change`: What an operation or a token can do.
* `Topology.Step`, `Topology.Reaches`: One change of a topology, and several.
* `Topology.Makes`: How far groups are made.

## Theorems

* `Operation.run_cases`: An operation changes its device, or nothing.
* `applyToken_state_of_ok`, `applyToken_state_of_error`: Where a token leads.
* `applyToken_onDisk_of_firstAt`, `applyToken_onDisk_eq_ok_iff`: What a token for a disk
  comes to.
* `applyTokens_changes`: What tokens of a kind do at most.
* `Kind.groups_of_changes`, `Kind.disks_of_logical_changes`: What a kind of tokens
  leaves alone.
* `Topology.addGroups_makes`, `Topology.addGroups_state`: Groups are added in order, as far
  as it goes.
* `Topology.after_reaches`, `Topology.afterTokens_reaches`: A session makes steps.
* `Topology.forall₂_disks_of_reaches`, `Topology.disks_of_reaches`: What every change of
  a disk keeps, a session keeps.
* `Topology.group?_of_reaches`: What every new volume keeps, a session keeps.
-/

namespace DiskPlan

open Relation

/-- A call on a topology: a list of tokens of one kind, or the making of volume
    groups. -/
inductive Call where
  | apply (kind : Kind) (tokens : List String)
  | initializeGroups
  deriving DecidableEq, Repr

/-- A call carried out. -/
def Call.run : Call → Topology → Outcome Topology Unit
  | apply kind tokens, t => applyTokens kind tokens t
  | initializeGroups, t => t.initializeGroups

/-- The topology after a sequence of calls, each of them made whether or not those
    before it succeeded. -/
def Topology.after (t : Topology) (calls : List Call) : Topology :=
  calls.foldl (fun t call => (call.run t).state) t

namespace Operation

/-- What an operation can do to a topology: its device is changed in its place. -/
inductive Change : Operation → Topology → Topology → Prop
  | onDisk {name : String} {action : DiskAction} {t : Topology} {before after : List Disk}
      {d d' : Disk} (hat : FirstAt (fun d => d.isNamed name) t.disks before d after)
      (hchange : ReflTransGen action.Change d d') :
      Change (.onDisk name action) t { t with disks := before ++ d' :: after }
  | onGroup {name : String} {volume : NewVolume} {t : Topology}
      {before after : List VolumeGroup} {g g' : VolumeGroup}
      (hat : FirstAt (fun g => g.name == name) t.groups before g after)
      (hchange : volume.Change g g') :
      Change (.onGroup name volume) t { t with groups := before ++ g' :: after }

/-- An operation on a disk that is not found fails and leaves everything as it was. -/
theorem run_onDisk_of_none {name : String} {t : Topology} (h : t.disk? name = none)
    (action : DiskAction) :
    (run (.onDisk name action) t).state = t ∧
      ∃ f, (run (.onDisk name action) t).answer = .error f := by
  simp only [run, Topology.onDisk, h]
  exact ⟨rfl, _, rfl⟩

/-- An operation on a disk that is found does to it what its action does, whether it succeeds or
    fails. The disks in front of it do not have the name, so none of them is taken instead. -/
theorem run_onDisk_of_firstAt {name : String} {t : Topology} {before after : List Disk} {d : Disk}
    (hat : FirstAt (fun d => d.isNamed name) t.disks before d after) (action : DiskAction) :
    (run (.onDisk name action) t).state =
        { t with disks := before ++ (action.run d).state :: after } ∧
      (run (.onDisk name action) t).answer = (action.run d).answer := by
  have hfound : t.disk? name = some d := find?_eq_some_iff_firstAt.mpr ⟨before, after, hat⟩
  simp only [run, Topology.onDisk, hfound, Outcome.lift, updateFirst_eq hat, and_self]

/-- A volume in a group that is not found fails and leaves everything as it was. -/
theorem run_onGroup_of_none {name : String} {t : Topology} (h : t.group? name = none)
    (volume : NewVolume) :
    (run (.onGroup name volume) t).state = t ∧
      ∃ f, (run (.onGroup name volume) t).answer = .error f := by
  simp only [run, Topology.onGroup, h]
  exact ⟨rfl, _, rfl⟩

/-- A volume in a group that is found is placed in it. Groups are found like disks, only by their
    names as they are. -/
theorem run_onGroup_of_firstAt {name : String} {t : Topology} {before after : List VolumeGroup}
    {g : VolumeGroup} (hat : FirstAt (fun g => g.name == name) t.groups before g after)
    (volume : NewVolume) :
    (run (.onGroup name volume) t).state =
        { t with groups := before ++ (volume.run g).state :: after } ∧
      (run (.onGroup name volume) t).answer = (volume.run g).answer := by
  have hfound : t.group? name = some g := find?_eq_some_iff_firstAt.mpr ⟨before, after, hat⟩
  simp only [run, Topology.onGroup, hfound, Outcome.lift, updateFirst_eq hat, and_self]

/-- An operation changes its device, or nothing. -/
theorem run_cases (op : Operation) (t : Topology) :
    (op.run t).state = t ∨ op.Change t (op.run t).state := by
  cases op with
  | onDisk name action =>
      cases hfound : t.disk? name with
      | none => exact Or.inl (run_onDisk_of_none hfound action).1
      | some d =>
          rcases find?_eq_some_iff_firstAt.mp hfound with ⟨before, after, hat⟩
          rw [(run_onDisk_of_firstAt hat action).1]
          exact Or.inr (.onDisk hat (action.run_changes d))
  | onGroup name volume =>
      cases hfound : t.group? name with
      | none => exact Or.inl (run_onGroup_of_none hfound volume).1
      | some g =>
          rcases find?_eq_some_iff_firstAt.mp hfound with ⟨before, after, hat⟩
          rw [(run_onGroup_of_firstAt hat volume).1]
          -- A volume that is refused leaves its group as it was, so nothing has changed at all.
          rcases volume.run_changes g with hchange | hsame
          · exact Or.inr (.onGroup hat hchange)
          · rw [hsame, ← hat.split]
            exact Or.inl rfl

/-- Volumes leave the disks alone. -/
theorem disks_run_onGroup (name : String) (volume : NewVolume) (t : Topology) :
    (run (.onGroup name volume) t).state.disks = t.disks := by
  rcases run_cases (.onGroup name volume) t with hsame | hchange
  · rw [hsame]
  · generalize (run (.onGroup name volume) t).state = t' at hchange
    cases hchange with
    | onGroup _ _ => rfl

end Operation

/-- What a token of a kind can do to a topology. -/
def Kind.Change (kind : Kind) (t t' : Topology) : Prop :=
  ∃ op : Operation, op.Asked kind ∧ op.Change t t'

/-! ### Tokens -/

/-- A token that cannot be read leaves the topology alone. -/
theorem applyToken_state_of_error {kind : Kind} {token : String} {f : Failure}
    (h : (Operation.read kind token).operation = .error f) (t : Topology) :
    (applyToken kind token t).state = t := by
  simp only [applyToken, Reading.run, Outcome.within_state, Outcome.logging_state,
    Outcome.ofExcept, h, Outcome.andThen]

/-- A token that is read leads where its operation leads. What is logged of it and what a failure
    records have no part in that. -/
theorem applyToken_state_of_ok {kind : Kind} {token : String} {op : Operation}
    (h : (Operation.read kind token).operation = .ok op) (t : Topology) :
    (applyToken kind token t).state = (op.run t).state := by
  simp only [applyToken, Reading.run, Outcome.within_state, Outcome.logging_state,
    Outcome.ofExcept, h, Outcome.andThen]

/-- A token that is read succeeds exactly if its operation does. -/
theorem applyToken_answer_of_ok {kind : Kind} {token : String} {op : Operation}
    (h : (Operation.read kind token).operation = .ok op) (t : Topology) :
    (applyToken kind token t).answer = .ok () ↔ (op.run t).answer = .ok () := by
  simp only [applyToken, Reading.run, Outcome.within, Outcome.logging, Outcome.ofExcept, h,
    Outcome.andThen, mapError_eq_ok_iff]

/-- A token for a disk that is found does to it what its action does. -/
theorem applyToken_onDisk_of_firstAt {kind : Kind} {token name : String} {action : DiskAction}
    {t : Topology} {before after : List Disk} {d : Disk}
    (hparse : Operation.parse kind token = .ok (.onDisk name action))
    (hat : FirstAt (fun d => d.isNamed name) t.disks before d after) :
    ((applyToken kind token t).answer = .ok () ↔ (action.run d).answer = .ok ()) ∧
      (applyToken kind token t).state =
        { t with disks := before ++ (action.run d).state :: after } := by
  have hread : (Operation.read kind token).operation = .ok (.onDisk name action) :=
    mapError_eq_ok_iff.mp hparse
  rcases Operation.run_onDisk_of_firstAt hat action with ⟨hstate, hanswer⟩
  rw [applyToken_answer_of_ok hread, applyToken_state_of_ok hread, hanswer, hstate]
  exact ⟨Iff.rfl, rfl⟩

/-- A token for a disk is carried out exactly if the disk is found and its action is carried
    out there. -/
theorem applyToken_onDisk_eq_ok_iff {kind : Kind} {token name : String} {action : DiskAction}
    {t : Topology} (hparse : Operation.parse kind token = .ok (.onDisk name action)) :
    (applyToken kind token t).answer = .ok () ↔
      ∃ before d after, FirstAt (fun d => d.isNamed name) t.disks before d after ∧
        (action.run d).answer = .ok () := by
  constructor
  · intro hok
    cases hfound : t.disk? name with
    | none =>
        rcases (Operation.run_onDisk_of_none hfound action).2 with ⟨f, hf⟩
        rw [applyToken_answer_of_ok (mapError_eq_ok_iff.mp hparse), hf] at hok
        exact absurd hok (by simp only [reduceCtorEq, not_false_eq_true])
    | some d =>
        rcases find?_eq_some_iff_firstAt.mp hfound with ⟨before, after, hat⟩
        exact ⟨before, d, after, hat, (applyToken_onDisk_of_firstAt hparse hat).1.mp hok⟩
  · rintro ⟨before, d, after, hat, hok⟩
    exact (applyToken_onDisk_of_firstAt hparse hat).1.mpr hok

/-- A token makes a change of its kind, or none. -/
theorem applyToken_changes (kind : Kind) (token : String) (t : Topology) :
    ReflTransGen kind.Change t (applyToken kind token t).state := by
  cases hread : (Operation.read kind token).operation with
  | error f =>
      rw [applyToken_state_of_error hread]
  | ok op =>
      rw [applyToken_state_of_ok hread]
      rcases op.run_cases t with hsame | hchange
      · rw [hsame]
      · exact .single ⟨op, Operation.asked_of_read hread, hchange⟩

/-- Tokens of a kind make the changes of the kind, as many as they get to. The first that fails
    may still have changed something, which is why this is about the state and not about the
    answer. -/
theorem applyTokens_changes (kind : Kind) (tokens : List String) (t : Topology) :
    ReflTransGen kind.Change t (applyTokens kind tokens t).state := by
  induction tokens generalizing t with
  | nil => exact .refl
  | cons token rest ih =>
      rw [applyTokens]
      refine Outcome.andThen_state_of (applyToken_changes kind token t) fun _ _ => ?_
      exact (applyToken_changes kind token t).trans (ih _)

/-- Only logical volumes change volume groups. -/
-- The induction is on the changes. A change of a disk leaves the groups as they are, and a change
-- of a group is not one of this kind.
theorem Kind.groups_of_changes {kind : Kind} {t t' : Topology} (hkind : kind ≠ .logical)
    (h : ReflTransGen kind.Change t t') : t'.groups = t.groups := by
  induction h with
  | refl => rfl
  | tail _ hstep ih =>
      rcases hstep with ⟨op, hasked, hchange⟩
      cases hchange with
      | onDisk _ _ => exact ih
      | onGroup _ _ =>
          cases hasked with
          | logical _ _ => exact absurd rfl hkind

/-- Logical volumes leave the disks alone. -/
theorem Kind.disks_of_logical_changes {t t' : Topology}
    (h : ReflTransGen Kind.logical.Change t t') : t'.disks = t.disks := by
  induction h with
  | refl => rfl
  | tail _ hstep ih =>
      rcases hstep with ⟨op, hasked, hchange⟩
      cases hasked with
      | logical _ _ =>
          cases hchange with
          | onGroup _ _ => exact ih

namespace Topology

/-! ### Steps -/

/-- One change of a topology in a session. -/
inductive Step : Topology → Topology → Prop
  | operation {kind : Kind} {t t' : Topology} (hchange : kind.Change t t') : Step t t'
  | groups {t : Topology} {gs : List VolumeGroup} (hadded : gs <+: t.missingGroups) :
      Step t { t with groups := t.groups ++ gs }

/-- Several changes of a topology. -/
abbrev Reaches : Topology → Topology → Prop :=
  ReflTransGen Step

/-- Two actions in a row reach what they reach one after the other, as far as they get. -/
theorem reaches_andThen {α β : Type} {t : Topology} {o : Outcome Topology α}
    {next : Topology → α → Outcome Topology β} (ho : t.Reaches o.state)
    (hnext : ∀ (s : Topology) (a : α), s.Reaches (next s a).state) :
    t.Reaches (o.andThen next).state :=
  Outcome.andThen_state_of (P := t.Reaches) ho fun a _ => ho.trans (hnext o.state a)

/-- How far groups are made, with the answer: all of them, if each can be told of with its size,
    and otherwise those up to the first that cannot, which is made all the same. -/
inductive Makes (gs : List VolumeGroup) :
    List VolumeGroup → List VolumeGroup → Except Failure Unit → Prop
  | all (hall : ∀ g ∈ gs, Decimal.isWritable g.sectors = true) : Makes gs gs [] (.ok ())
  | stopped {before after : List VolumeGroup} {g : VolumeGroup} (hsplit : gs = before ++ g :: after)
      (hbefore : ∀ h ∈ before, Decimal.isWritable h.sectors = true)
      (hg : Decimal.isWritable g.sectors = false) :
      Makes gs (before ++ [g]) after (.error (.numeral .writing))

/-- What is made and what is not are the groups that were to be made, in their order. -/
theorem Makes.append_eq {gs added rest : List VolumeGroup} {answer : Except Failure Unit}
    (h : Makes gs added rest answer) : added ++ rest = gs := by
  cases h with
  | all _ => exact List.append_nil _
  | stopped hsplit _ _ => rw [hsplit, List.append_assoc, List.singleton_append]

/-- If nothing fails, all of the groups are made. -/
theorem Makes.of_ok {gs added rest : List VolumeGroup} (h : Makes gs added rest (.ok ())) :
    added = gs ∧ rest = [] := by
  cases h with
  | all _ => exact ⟨rfl, rfl⟩

/-- Groups are added in order, behind those that are there. The groups that are there take part
    in this only as what stands in front, so the induction goes on from any topology. -/
theorem addGroups_makes (gs : List VolumeGroup) (t : Topology) :
    ∃ added rest, Makes gs added rest (addGroups gs t).answer ∧
      (addGroups gs t).state = { t with groups := t.groups ++ added } := by
  induction gs generalizing t with
  | nil => exact ⟨[], [], .all fun _ hg => absurd hg List.not_mem_nil, by
      simp only [addGroups, Outcome.done, List.append_nil]⟩
  | cons g gs ih =>
      unfold addGroups
      dsimp only
      split
      · rename_i hg
        rcases ih { t with groups := t.groups ++ [g] } with ⟨added, rest, hmakes, hstate⟩
        refine ⟨g :: added, rest, ?_, ?_⟩
        · -- The answer is the one of the remaining groups, which is all that is left of them here.
          change Makes (g :: gs) (g :: added) rest (addGroups gs _).answer
          generalize (addGroups gs _).answer = answer at hmakes ⊢
          cases hmakes with
          | all hall => exact .all (List.forall_mem_cons.mpr ⟨hg, hall⟩)
          | stopped hsplit hbefore hstop =>
              exact .stopped (congrArg (g :: ·) hsplit) (List.forall_mem_cons.mpr ⟨hg, hbefore⟩)
                hstop
        · rw [Outcome.logging_state, hstate, List.append_assoc, List.singleton_append]
      · -- A group that cannot be told of is added all the same, and the work ends.
        rename_i hg
        refine ⟨[g], gs, ?_, rfl⟩
        exact @Makes.stopped _ [] gs g rfl (fun _ hh => absurd hh List.not_mem_nil)
          (Bool.not_eq_true _ ▸ hg)

/-- What is added is a first part of what was to be added, and all of it if nothing fails. -/
theorem addGroups_state (gs : List VolumeGroup) (t : Topology) :
    ∃ added, added <+: gs ∧ (addGroups gs t).state = { t with groups := t.groups ++ added } ∧
      ((addGroups gs t).answer = .ok () → added = gs) := by
  rcases addGroups_makes gs t with ⟨added, rest, hmakes, hstate⟩
  refine ⟨added, ⟨rest, hmakes.append_eq⟩, hstate, fun hok => ?_⟩
  rw [hok] at hmakes
  exact hmakes.of_ok.1

/-- Groups that are all added can all be told of. -/
theorem isWritable_of_addGroups {gs : List VolumeGroup} {t : Topology}
    (hok : (addGroups gs t).answer = .ok ()) : ∀ g ∈ gs, Decimal.isWritable g.sectors = true := by
  rcases addGroups_makes gs t with ⟨added, rest, hmakes, _⟩
  rw [hok] at hmakes
  cases hmakes with
  | all hall => exact hall

/-- Making the groups is a step, however far it gets. -/
theorem initializeGroups_reaches (t : Topology) : t.Reaches t.initializeGroups.state := by
  rcases addGroups_state t.missingGroups t with ⟨added, hadded, hstate, _⟩
  unfold initializeGroups
  rw [hstate]
  exact .single (.groups hadded)

/-- A token makes steps of a session. -/
theorem applyToken_reaches (kind : Kind) (token : String) (t : Topology) :
    t.Reaches (applyToken kind token t).state :=
  ReflTransGen.mono (fun _ _ hchange => .operation hchange) _ _ (applyToken_changes kind token t)

/-- So do several tokens of a kind. -/
theorem applyTokens_reaches (kind : Kind) (tokens : List String) (t : Topology) :
    t.Reaches (applyTokens kind tokens t).state :=
  ReflTransGen.mono (fun _ _ hchange => .operation hchange) _ _ (applyTokens_changes kind tokens t)

/-- A session makes steps. -/
theorem after_reaches (t : Topology) (calls : List Call) : t.Reaches (t.after calls) := by
  induction calls generalizing t with
  | nil => exact .refl
  | cons call rest ih =>
      -- A call makes steps whether it succeeds or not, so its answer is not looked at.
      have hcall : t.Reaches (call.run t).state := by
        cases call with
        | apply kind tokens => exact applyTokens_reaches kind tokens t
        | initializeGroups => exact initializeGroups_reaches t
      exact hcall.trans (ih (call.run t).state)

/-- The topology after tokens of any kinds, one after the other, whatever becomes of
    each of them. -/
def afterTokens (t : Topology) (tokens : List (Kind × String)) : Topology :=
  tokens.foldl (fun t token => (applyToken token.1 token.2 t).state) t

/-- A run of tokens with one more at its end goes on where the others led. Facts about runs are
    proved from this end, since it is the last token that finds the topology changed. -/
theorem afterTokens_concat (t : Topology) (tokens : List (Kind × String)) (kind : Kind)
    (token : String) :
    t.afterTokens (tokens ++ [(kind, token)]) =
      (applyToken kind token (t.afterTokens tokens)).state := by
  unfold afterTokens
  rw [List.foldl_append, List.foldl_cons, List.foldl_nil]

/-- Tokens of one kind make its changes, failing ones among them. -/
theorem afterTokens_changes (kind : Kind) (tokens : List String) (t : Topology) :
    ReflTransGen kind.Change t (t.afterTokens (tokens.map fun token => (kind, token))) := by
  induction tokens using List.reverseRecOn with
  | nil => exact .refl
  | append_singleton tokens token ih =>
      rw [List.map_append, List.map_singleton, afterTokens_concat]
      exact ih.trans (applyToken_changes kind token _)

/-- Single tokens of any kinds make steps of a session. -/
theorem afterTokens_reaches (t : Topology) (tokens : List (Kind × String)) :
    t.Reaches (t.afterTokens tokens) := by
  induction tokens using List.reverseRecOn with
  | nil => exact .refl
  | append_singleton tokens token ih =>
      rw [afterTokens_concat t tokens token.1 token.2]
      exact ih.trans (applyToken_reaches token.1 token.2 _)

/-- What every change of a disk keeps of the way it was at first, every disk keeps in a
    session. No disk is added or lost, so each is compared with the one in its place. -/
theorem forall₂_disks_of_reaches {R : Disk → Disk → Prop}
    (hR : ∀ {kind name action} {d₀ d d' : Disk}, (Operation.onDisk name action).Asked kind →
      action.Change d d' → R d₀ d → R d₀ d')
    {t t' : Topology} (h : t.Reaches t') (ht : ∀ d ∈ t.disks, R d d) :
    List.Forall₂ R t.disks t'.disks := by
  induction h with
  -- No disk has changed, so each is compared with itself.
  | refl => exact List.forall₂_same.mpr ht
  | tail _ hstep ih =>
      cases hstep with
      -- New groups do not touch the disks.
      | groups _ => exact ih
      | operation hchange =>
          rcases hchange with ⟨op, hasked, hchange⟩
          cases hchange with
          | onGroup _ _ => exact ih
          | onDisk hat hchanges =>
              refine hat.forall₂_exchange (fun d₀ hd => ?_) ih
              -- One operation can change its disk several times before it fails.
              clear ih hat
              induction hchanges with
              | refl => exact hd
              | tail _ hchange ih => exact hR hasked hchange ih

/-- What every change of a disk keeps, every disk keeps in a session. -/
theorem disks_of_reaches {P : Disk → Prop}
    (hP : ∀ {kind name action} {d d' : Disk}, (Operation.onDisk name action).Asked kind →
      action.Change d d' → P d → P d')
    {t t' : Topology} (h : t.Reaches t') (ht : ∀ d ∈ t.disks, P d) : ∀ d ∈ t'.disks, P d := by
  -- Such a fact does not look at what the disks were at first.
  have hdisks : List.Forall₂ (fun _ d => P d) t.disks t'.disks :=
    forall₂_disks_of_reaches (fun hasked hchange => hP hasked hchange) h ht
  exact forall_mem_of_forall₂ hdisks fun _ _ _ hd => hd

/-- A group that takes the place of the first of its name is found in its stead, and
    the others are found as before. -/
theorem group?_exchange {t : Topology} {name' : String} {before after : List VolumeGroup}
    {g g' : VolumeGroup} (hat : FirstAt (fun g => g.name == name') t.groups before g after)
    (hname : g'.name = g.name) (name : String) :
    ({ t with groups := before ++ g' :: after } : Topology).group? name =
      -- There are two cases, since a group may have been looked for under another name than the
      -- one that was exchanged.
      if name' = name then some g' else t.group? name := by
  have hname' : g.name = name' := beq_iff_eq.mp hat.holds
  by_cases hsame : name' = name
  · subst hsame
    rw [if_pos rfl]
    refine find?_eq_some_iff_firstAt.mpr ⟨before, after, hat.exchange ?_⟩
    exact beq_iff_eq.mpr (hname.trans hname')
  · have hother : (g.name == name) = false := by
      rw [hname']
      exact beq_eq_false_iff_ne.mpr hsame
    rw [if_neg hsame]
    unfold group?
    rw [hat.split]
    -- The group has the other name before and after, so the search passes it by both times.
    refine find?_exchange hother ?_
    rw [hname]
    exact hother

/-- What every volume that is placed keeps, the group of a name keeps in a session. It
    stays the first of its name, since groups that are made come after it. -/
theorem group?_of_reaches {P : VolumeGroup → Prop}
    (hP : ∀ {v : NewVolume} {g g' : VolumeGroup}, v.Change g g' → P g → P g')
    {t t' : Topology} (h : t.Reaches t') {name : String} (ht : ∃ g, t.group? name = some g ∧ P g) :
    ∃ g, t'.group? name = some g ∧ P g := by
  induction h with
  | refl => exact ht
  | tail _ hstep ih =>
      rcases ih with ⟨g, hg, hPg⟩
      cases hstep with
      -- Groups that are made stand behind the others, so the one that is found stays the first.
      | groups _ =>
          refine ⟨g, ?_, hPg⟩
          unfold group? at hg ⊢
          rw [List.find?_append, hg, Option.some_or]
      | operation hchange =>
          rcases hchange with ⟨op, _, hchange⟩
          cases hchange with
          | onDisk _ _ => exact ⟨g, hg, hPg⟩
          | @onGroup name' _ _ before after g₁ g₂ hat hchange =>
              have hname : g₂.name = g₁.name := by
                cases hchange with
                | place _ _ => rfl
              -- A volume that is placed leaves the name of its group alone.
              rw [group?_exchange hat hname]
              by_cases hsame : name' = name
              · subst hsame
                have hfound := find?_eq_some_iff_firstAt.mpr ⟨before, after, hat⟩
                obtain rfl : g = g₁ := Option.some.inj (hg.symm.trans hfound)
                exact ⟨g₂, if_pos rfl, hP hchange hPg⟩
              · exact ⟨g, by rw [if_neg hsame, hg], hPg⟩

end Topology

/-! ### A disk to make calls on -/

/-- A partition with a number and a range, as it is found on a disk. -/
def Partition.found (number first last : Int) : Partition where
  path := "/dev/sda"
  number := number
  first := first
  last := last
  role := .primary
  filesystem := none
  provenance := .existing
  target := none
  name := none
  mount := none
  keyId := none
  flags := []
  membership := none
  removed := false

/-- A disk of three partitions, the first two side by side. -/
def Disk.ofThree : Disk where
  path := "/dev/sda"
  sectors := 20000
  sectorSize := 512
  model := .ofString "Unknown"
  table := some .gpt
  partitions := [.found 1 5000 5999, .found 2 6000 6999, .found 3 8000 8999]
  relabeled := false

end DiskPlan
