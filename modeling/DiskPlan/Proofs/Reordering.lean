import DiskPlan.Proofs.PlannedDisks
import DiskPlan.Proofs.Volumes
import Mathlib.Data.List.Perm.Basic

/-!
# Reordering Tokens

Tokens for different devices do not get in each other's way.

A token works on one device, which it finds by a name. It reads nothing of the others
and changes nothing of them, and no change of a device changes its name. So the device
that a token finds is at the same place whatever other tokens have done before, and
whether the token succeeds there, and what it leaves, is up to the tokens for the same
device. A topology is seen here as a store of devices at places: a token that succeeds
puts one device back, and what is put back at different places may be put in any order.

Two neighbours for different devices can therefore be exchanged, and exchanges of
neighbours make every order in which the tokens for each device are in the order that
they had. That last step is an induction on the given list: its first token is moved to
the front of the other list, past tokens that are all for other devices.

## Main definitions

* `Target`, `Device`: A place of a device, and what is there.
* `Topology.target?`: The place of the device that a token is for.
* `Topology.Reorders`: Another order of tokens, the same for each device.
* `Hits`: A token that succeeds on the device at a place.
* `Leads`: Tokens that succeed, with the topology they end in.

## Theorems

* `Topology.device?_exchange_of_ne`, `Topology.exchange_comm`: Places are independent.
* `Operation.run_of_target`, `Operation.run_of_no_target`: An operation on its device.
* `Hits.exchange_iff`: A token does not see what happens at other places.
* `Leads.swap`, `Leads.bubble`: Neighbours exchanged, and a token moved to the front.
* `applyTokens_of_reorders`: Every such order ends in the same topology.
-/

namespace DiskPlan

/-! ### Devices at places -/

/-- What is the same of an element and of what takes its place is the same throughout. Here it is
    the name of a device, which is why no change can hide a device from a later token. -/
theorem map_set_of_eq {α β : Type} {f : α → β} {as : List α} {i : Nat} {a b : α}
    (ha : as[i]? = some a) (hf : f b = f a) : (as.set i b).map f = as.map f := by
  rcases List.getElem?_eq_some_iff.mp ha with ⟨hlt, rfl⟩
  rw [List.map_set, hf, ← List.map_set, List.set_getElem_self]

/-- A place of a device: one among the disks, or one among the volume groups. Places are numbers
    and not names, since two disks may share a name, and then only the first is found by it. -/
inductive Target where
  | disk (place : Nat)
  | group (place : Nat)
  deriving DecidableEq, Repr

/-- A device of a topology. -/
inductive Device where
  | disk (d : Disk)
  | group (g : VolumeGroup)
  deriving DecidableEq, Repr

/-- What a device is found by. -/
def Device.name : Device → String
  | disk d => d.path
  | group g => g.name

namespace Topology

variable {t : Topology} {x y : Target}

/-- The device at a place, if there is one. -/
def device? (t : Topology) : Target → Option Device
  | .disk i => t.disks[i]?.map .disk
  | .group i => t.groups[i]?.map .group

/-- A topology with another device at a place. A device of the other sort has no place
    there. -/
def exchange (t : Topology) : Target → Device → Topology
  | .disk i, .disk d => { t with disks := t.disks.set i d }
  | .group i, .group g => { t with groups := t.groups.set i g }
  | _, _ => t

/-- What stands at other places stays. A disk and a group never share a place, whatever their
    numbers, so only places of the same sort have to be told apart. -/
theorem device?_exchange_of_ne (hne : x ≠ y) (v : Device) :
    (t.exchange x v).device? y = t.device? y := by
  cases x with
  | disk i =>
      cases v with
      | group _ => rfl
      | disk d =>
          cases y with
          | group _ => rfl
          | disk j =>
              have hij : i ≠ j := fun h => hne (congrArg Target.disk h)
              exact congrArg (Option.map Device.disk) (List.getElem?_set_ne hij)
  | group i =>
      cases v with
      | disk _ => rfl
      | group g =>
          cases y with
          | disk _ => rfl
          | group j =>
              have hij : i ≠ j := fun h => hne (congrArg Target.group h)
              exact congrArg (Option.map Device.group) (List.getElem?_set_ne hij)

/-- Devices at different places may be exchanged in any order. This is where the order of two
    tokens gets lost. -/
theorem exchange_comm (hne : x ≠ y) (v w : Device) :
    (t.exchange x v).exchange y w = (t.exchange y w).exchange x v := by
  cases x with
  | disk i =>
      cases y with
      | group j => cases v <;> cases w <;> rfl
      | disk j =>
          have hij : i ≠ j := fun h => hne (congrArg Target.disk h)
          cases v with
          | group _ => rfl
          | disk d =>
              cases w with
              | group _ => rfl
              | disk d' =>
                  exact congrArg (fun ds => { t with disks := ds }) (List.set_comm d d' hij)
  | group i =>
      cases y with
      | disk j => cases v <;> cases w <;> rfl
      | group j =>
          have hij : i ≠ j := fun h => hne (congrArg Target.group h)
          cases v with
          | disk _ => rfl
          | group g =>
              cases w with
              | disk _ => rfl
              | group g' =>
                  exact congrArg (fun gs => { t with groups := gs }) (List.set_comm g g' hij)

end Topology

/-! ### Tokens and their devices -/

namespace Operation

variable {op : Operation} {t : Topology} {x : Target}

/-- The place of the device that an operation is for. -/
def target? (t : Topology) : Operation → Option Target
  | .onDisk name _ => (t.place? name).map .disk
  | .onGroup name _ => (t.groups.findIdx? fun g => g.name == name).map .group

/-- An operation on a device. One of the other sort is left alone, which does not occur: the
    place of an operation and the device at it are of the same sort. -/
def act : Operation → Device → Outcome Device Unit
  | .onDisk _ action, .disk d => (action.run d).lift .disk
  | .onGroup _ volume, .group g => (volume.run g).lift .group
  | _, v => .done v ()

/-- No operation changes what its device is found by. -/
theorem act_name (op : Operation) (v : Device) : (op.act v).state.name = v.name := by
  cases op with
  | onDisk _ action =>
      cases v with
      | group _ => rfl
      | disk d =>
          -- One action is a row of changes, and none of them changes the path.
          change (action.run d).state.path = d.path
          have hchanges := action.run_changes d
          generalize (action.run d).state = d' at hchanges ⊢
          induction hchanges with
          | refl => rfl
          | tail _ hchange ih => exact (congrArg Prod.fst hchange.device).trans ih
  | onGroup _ volume =>
      cases v with
      | disk _ => rfl
      | group g => exact volume.run_name g

/-- An operation does its work on the device that it is for, and puts it back. So all that an
    operation reads and writes of a topology is one device at one place. -/
theorem run_of_target (h : op.target? t = some x) :
    ∃ v, t.device? x = some v ∧ (op.run t).answer = (op.act v).answer ∧
      (op.run t).state = t.exchange x (op.act v).state := by
  cases op with
  | onDisk name action =>
      rcases Option.map_eq_some_iff.mp h with ⟨i, hplace, rfl⟩
      -- The disk that is found is the one at the first place with the name.
      rcases List.findIdx?_eq_some_iff_getElem.mp hplace with ⟨hlt, hnamed, hfirst⟩
      have hfound : t.disk? name = t.disks[i]? := t.disk?_eq_getElem? hplace
      rw [List.getElem?_eq_getElem hlt] at hfound
      rcases find?_eq_some_iff_firstAt.mp hfound with ⟨before, after, hat⟩
      obtain rfl : before.length = i := Option.some.inj (hat.findIdx?_eq.symm.trans hplace)
      refine ⟨.disk t.disks[before.length], ?_, (run_onDisk_of_firstAt hat action).2, ?_⟩
      · exact congrArg (Option.map Device.disk) (List.getElem?_eq_getElem hlt)
      · rw [(run_onDisk_of_firstAt hat action).1, exchange_eq_set, ← hat.split]
        rfl
  | onGroup name volume =>
      rcases Option.map_eq_some_iff.mp h with ⟨i, hplace, rfl⟩
      cases hfound : t.group? name with
      | none =>
          have hnone : (t.groups.findIdx? fun g => g.name == name) = none := by
            rw [List.findIdx?_eq_none_iff]
            simpa using List.find?_eq_none.mp hfound
          exact absurd (hnone.symm.trans hplace) (by simp only [reduceCtorEq, not_false_eq_true])
      | some g =>
          rcases find?_eq_some_iff_firstAt.mp hfound with ⟨before, after, hat⟩
          obtain rfl : before.length = i := Option.some.inj (hat.findIdx?_eq.symm.trans hplace)
          refine ⟨.group g, ?_, (run_onGroup_of_firstAt hat volume).2, ?_⟩
          · exact congrArg (Option.map Device.group) hat.getElem?_eq
          · rw [(run_onGroup_of_firstAt hat volume).1, exchange_eq_set, ← hat.split]
            rfl

/-- An operation without a device fails and changes nothing, so tokens that succeed are all for
    some device. -/
theorem run_of_no_target (h : op.target? t = none) :
    (op.run t).state = t ∧ ∃ f, (op.run t).answer = .error f := by
  cases op with
  | onDisk name action =>
      refine run_onDisk_of_none (List.find?_eq_none.mpr fun d hd => ?_) action
      rw [List.findIdx?_eq_none_iff.mp (Option.map_eq_none_iff.mp h) d hd]
      exact Bool.false_ne_true
  | onGroup name volume =>
      refine run_onGroup_of_none (List.find?_eq_none.mpr fun g hg => ?_) volume
      rw [List.findIdx?_eq_none_iff.mp (Option.map_eq_none_iff.mp h) g hg]
      exact Bool.false_ne_true

/-- No place changes its name when a device is exchanged for one of the same name, so
    operations are for the same places as before. -/
theorem target?_exchange {v w : Device} (hv : t.device? x = some v) (hname : w.name = v.name)
    (op : Operation) : op.target? (t.exchange x w) = op.target? t := by
  cases x with
  | disk i =>
      rcases Option.map_eq_some_iff.mp hv with ⟨d, hd, rfl⟩
      cases w with
      -- A group has no place among the disks, so nothing is put there.
      | group _ => rfl
      | disk d' =>
          have hpaths : (t.disks.set i d').map Disk.path =
              t.disks.map Disk.path := map_set_of_eq hd hname
          cases op with
          | onDisk name _ =>
              exact congrArg (Option.map Target.disk) (Topology.place?_congr hpaths name)
          | onGroup _ _ => rfl
  | group i =>
      rcases Option.map_eq_some_iff.mp hv with ⟨g, hg, rfl⟩
      cases w with
      | disk _ => rfl
      | group g' =>
          cases op with
          | onDisk _ _ => rfl
          | onGroup name _ =>
              have hnames : (t.groups.set i g').map VolumeGroup.name =
                  t.groups.map VolumeGroup.name := map_set_of_eq hg hname
              -- The search looks at the names of the groups alone.
              have hfind : ∀ gs : List VolumeGroup, gs.findIdx? (fun g => g.name == name) =
                  (gs.map VolumeGroup.name).findIdx? fun own => own == name := by
                intro gs
                rw [List.findIdx?_map]
                rfl
              change ((t.groups.set i g').findIdx? _).map _ = (t.groups.findIdx? _).map _
              rw [hfind, hfind, hnames]

end Operation

/-- The place of the device that a token of a kind is for. -/
def Topology.target? (t : Topology) (kind : Kind) (token : String) : Option Target :=
  (Operation.parse kind token).toOption.bind (Operation.target? t)

/-- Another order of tokens, in which the tokens for each device are in the order that they had.
    The devices are those of one topology, before any of the tokens; tokens that are for none of
    them have no order to keep. -/
structure Topology.Reorders (t : Topology) (kind : Kind) (tokens tokens' : List String) :
    Prop where
  perm : tokens'.Perm tokens
  kept : ∀ x, tokens'.filter (fun token => t.target? kind token = some x) =
    tokens.filter fun token => t.target? kind token = some x

/-! ### Tokens that succeed -/

/-- A token that succeeds on the device at a place: the operation that it asks for, the
    place, and the device. -/
structure Hits (kind : Kind) (token : String) (t : Topology) (op : Operation) (x : Target)
    (v : Device) : Prop where
  asked : Operation.parse kind token = .ok op
  target : op.target? t = some x
  device : t.device? x = some v
  succeeds : (op.act v).answer = .ok ()

section Tokens

variable {kind : Kind} {token : String} {t : Topology} {op : Operation} {x y : Target}
  {v w : Device}

/-- Every token that succeeds does so on a device. -/
theorem exists_hits_of_ok (h : (applyToken kind token t).answer = .ok ()) :
    ∃ op x v, Hits kind token t op x v := by
  rcases read_of_applyToken h with ⟨op, hread⟩
  rw [applyToken_answer_of_ok hread] at h
  -- A token that succeeds has a device, and what it does there succeeds.
  cases htarget : op.target? t with
  | none =>
      rcases (Operation.run_of_no_target htarget).2 with ⟨f, hf⟩
      exact absurd (hf.symm.trans h) (by simp only [reduceCtorEq, not_false_eq_true])
  | some x =>
      rcases Operation.run_of_target htarget with ⟨v, hv, hanswer, _⟩
      exact ⟨op, x, v, mapError_eq_ok_iff.mpr hread, htarget, hv, hanswer.symm.trans h⟩

namespace Hits

/-- A token that succeeds on a device is for the place of that device. -/
theorem target?_eq (h : Hits kind token t op x v) : t.target? kind token = some x := by
  unfold Topology.target?
  rw [h.asked]
  exact h.target

/-- A token that succeeds on a device puts it back as its operation leaves it. -/
theorem applied (h : Hits kind token t op x v) :
    (applyToken kind token t).answer = .ok () ∧
      (applyToken kind token t).state = t.exchange x (op.act v).state := by
  have hread : (Operation.read kind token).operation = .ok op := mapError_eq_ok_iff.mp h.asked
  rcases Operation.run_of_target h.target with ⟨v', hv', hanswer, hstate⟩
  obtain rfl : v = v' := Option.some.inj (h.device.symm.trans hv')
  rw [applyToken_state_of_ok hread, applyToken_answer_of_ok hread]
  exact ⟨hanswer.trans h.succeeds, hstate⟩

/-- Whether a token succeeds on a device is the same before and after another device is
    exchanged for one of the same name. -/
theorem exchange_iff {u : Device} (hne : x ≠ y) (hv : t.device? x = some v)
    (hname : w.name = v.name) :
    Hits kind token (t.exchange x w) op y u ↔ Hits kind token t op y u := by
  -- Neither the place of the token nor the device at it has changed.
  have htarget := Operation.target?_exchange hv hname op
  have hdevice := Topology.device?_exchange_of_ne (t := t) hne w
  constructor
  · rintro ⟨hasked, hat, hu, hok⟩
    exact ⟨hasked, htarget.symm.trans hat, hdevice.symm.trans hu, hok⟩
  · rintro ⟨hasked, hat, hu, hok⟩
    exact ⟨hasked, htarget.trans hat, hdevice.trans hu, hok⟩

end Hits

/-- Tokens are for the same places whatever tokens have done before. A token that fails may have
    changed its device as well, but never what that device is found by. -/
theorem target?_applyToken (kind : Kind) (token : String) (t : Topology) (other : String) :
    (applyToken kind token t).state.target? kind other = t.target? kind other := by
  unfold Topology.target?
  refine congrArg _ (funext fun op' => ?_)
  cases hread : (Operation.read kind token).operation with
  -- A token that cannot be read does nothing at all.
  | error f => rw [applyToken_state_of_error hread]
  | ok op =>
      rw [applyToken_state_of_ok hread]
      cases htarget : op.target? t with
      | none => rw [(Operation.run_of_no_target htarget).1]
      | some x =>
          rcases Operation.run_of_target htarget with ⟨v, hv, _, hstate⟩
          rw [hstate]
          exact Operation.target?_exchange hv (op.act_name v) op'

/-- A token leaves all devices alone but the one that it is for, also if it fails. -/
theorem device?_applyToken (h : t.target? kind token ≠ some x) :
    (applyToken kind token t).state.device? x = t.device? x := by
  cases hread : (Operation.read kind token).operation with
  | error f => rw [applyToken_state_of_error hread]
  | ok op =>
      have htoken : t.target? kind token = op.target? t := by
        unfold Topology.target?
        rw [show Operation.parse kind token = .ok op from mapError_eq_ok_iff.mpr hread]
        rfl
      rw [applyToken_state_of_ok hread]
      cases htarget : op.target? t with
      | none => rw [(Operation.run_of_no_target htarget).1]
      | some y =>
          rcases Operation.run_of_target htarget with ⟨v, _, _, hstate⟩
          rw [hstate]
          -- If it were put back at this place, the token would be for it.
          refine Topology.device?_exchange_of_ne (fun hxy => h ?_) _
          rw [htoken, htarget, hxy]

end Tokens

/-! ### Orders of tokens -/

/-- Tokens of a kind that all succeed, with the topology that they end in. -/
def Leads (kind : Kind) (tokens : List String) (t t' : Topology) : Prop :=
  (applyTokens kind tokens t).answer = .ok () ∧ (applyTokens kind tokens t).state = t'

namespace Leads

variable {kind : Kind} {a b token : String} {before after rest tokens tokens' : List String}
  {t t' : Topology}

/-- Tokens that all succeed are a token that succeeds and others that succeed after it. -/
theorem cons_iff :
    Leads kind (token :: rest) t t' ↔
      (applyToken kind token t).answer = .ok () ∧
        Leads kind rest (applyToken kind token t).state t' := by
  unfold Leads
  rw [applyTokens, Outcome.andThen_unit_eq_ok_iff, and_assoc]
  refine and_congr_right fun hok => ?_
  rw [Outcome.andThen_state_of_ok hok]

/-- Neighbours that are for different devices can be exchanged. -/
theorem swap (h : Leads kind (a :: b :: rest) t t')
    (hne : t.target? kind a ≠ t.target? kind b) : Leads kind (b :: a :: rest) t t' := by
  rcases cons_iff.mp h with ⟨haok, h⟩
  rcases cons_iff.mp h with ⟨hbok, hrest⟩
  rcases exists_hits_of_ok haok with ⟨op, x, v, ha⟩
  rcases exists_hits_of_ok hbok with ⟨op', y, w, hb⟩
  -- The places of the two tokens can be compared before and after the first of them alike.
  have hxy : x ≠ y := by
    rintro rfl
    refine hne (ha.target?_eq.trans ?_)
    rw [← hb.target?_eq, target?_applyToken]
  -- The second token succeeds on its device as it was at first, and so does the first
  -- token after it.
  rw [hb.applied.2, ha.applied.2] at hrest
  rw [ha.applied.2] at hb
  have hb : Hits kind b t op' y w :=
    (Hits.exchange_iff hxy ha.device (op.act_name v)).mp hb
  have ha' : Hits kind a (applyToken kind b t).state op x v := by
    rw [hb.applied.2]
    exact (Hits.exchange_iff hxy.symm hb.device (op'.act_name w)).mpr ha
  refine cons_iff.mpr ⟨hb.applied.1, cons_iff.mpr ⟨ha'.applied.1, ?_⟩⟩
  rw [ha'.applied.2, hb.applied.2, Topology.exchange_comm hxy.symm]
  exact hrest

/-- A token can be moved to the front past tokens for other devices, one neighbour at a time. The
    induction is on the tokens that are passed. -/
theorem bubble (h : Leads kind (before ++ token :: after) t t')
    (hothers : ∀ b ∈ before, t.target? kind b ≠ t.target? kind token) :
    Leads kind (token :: (before ++ after)) t t' := by
  induction before generalizing t with
  | nil => exact h
  | cons b before ih =>
      rw [List.forall_mem_cons] at hothers
      rcases cons_iff.mp h with ⟨hbok, hrest⟩
      have hmoved := ih hrest fun c hc => by
        rw [target?_applyToken, target?_applyToken]
        exact hothers.2 c hc
      exact swap (cons_iff.mpr ⟨hbok, hmoved⟩) hothers.1

/-- Tokens that succeed are all for some device. The place can be told from the topology before
    any of them, since it does not change on the way. -/
theorem exists_target (h : Leads kind tokens t t') :
    ∀ token ∈ tokens, ∃ x, t.target? kind token = some x := by
  induction tokens generalizing t with
  | nil => exact fun _ hmem => absurd hmem List.not_mem_nil
  | cons token rest ih =>
      rcases cons_iff.mp h with ⟨hok, hrest⟩
      rcases exists_hits_of_ok hok with ⟨op, x, v, hhits⟩
      refine List.forall_mem_cons.mpr ⟨⟨x, hhits.target?_eq⟩, fun other hmem => ?_⟩
      rw [← target?_applyToken kind token t other]
      exact ih hrest other hmem

/-- Tokens in another order, the same for each device, succeed as well and lead to the same
    topology. The induction is on the new order; what is left of the old one is again an order of
    the same kind. -/
theorem reorder (h : Leads kind tokens t t') (hreorders : t.Reorders kind tokens tokens') :
    Leads kind tokens' t t' := by
  induction tokens' generalizing tokens t with
  | nil =>
      obtain rfl := hreorders.perm.nil_eq
      exact h
  | cons token rest ih =>
      -- The first token is the first one for its device in the old order too.
      rcases h.exists_target token (hreorders.perm.subset List.mem_cons_self) with ⟨x, hx⟩
      have hkept := hreorders.kept x
      rw [List.filter_cons_of_pos (by rw [hx]; exact decide_eq_true rfl)] at hkept
      rcases List.filter_eq_cons_iff.mp hkept.symm with ⟨before, after, rfl, hbefore, _, hafter⟩
      have hothers : ∀ b ∈ before, t.target? kind b ≠ t.target? kind token := by
        intro b hb heq
        exact hbefore b hb (by rw [heq, hx]; exact decide_eq_true rfl)
      rcases cons_iff.mp (h.bubble hothers) with ⟨hok, hrest⟩
      refine cons_iff.mpr ⟨hok, ih hrest ⟨?_, fun y => ?_⟩⟩
      · -- Without the first token both orders have the same tokens.
        exact (hreorders.perm.trans List.perm_middle).cons_inv
      · -- Without it, the tokens for its device and those for the others stay in order.
        simp only [target?_applyToken]
        by_cases hxy : x = y
        · subst hxy
          rw [List.filter_append, List.filter_eq_nil_iff.mpr hbefore, List.nil_append]
          exact hafter.symm
        · -- A token for one device does not count among those for another.
          have hskip : ∀ others : List String,
              (token :: others).filter (fun b => t.target? kind b = some y) =
                others.filter fun b => t.target? kind b = some y := by
            refine fun _ => List.filter_cons_of_neg ?_
            rw [hx, decide_eq_true_eq, Option.some.injEq]
            exact hxy
          have hkept' := hreorders.kept y
          rw [hskip, List.filter_append, hskip, ← List.filter_append] at hkept'
          exact hkept'

end Leads

/-- Tokens in any order that keeps the order of those for the same device succeed if they
    do in one, and end in the same topology; and no token changes a device other than the
    one that it is for. -/
theorem applyTokens_of_reorders (kind : Kind) (t : Topology) :
    (∀ tokens tokens', (applyTokens kind tokens t).answer = .ok () →
      t.Reorders kind tokens tokens' →
        (applyTokens kind tokens' t).answer = .ok () ∧
          (applyTokens kind tokens' t).state = (applyTokens kind tokens t).state) ∧
      ∀ token x, t.target? kind token ≠ some x →
        (applyToken kind token t).state.device? x = t.device? x :=
  ⟨fun _ _ hok hreorders => Leads.reorder ⟨hok, rfl⟩ hreorders,
    fun _ _ hother => device?_applyToken hother⟩

/-- Two disks of three partitions each. -/
def Topology.ofTwo : Topology :=
  ⟨[.ofThree, { Disk.ofThree with path := "/dev/sdb" }], []⟩

/-- New partitions on two disks, taken in turns. -/
def tokensInTurns : List String :=
  ["sda:primary:9000:9999:ext4", "sdb:primary:60%:80%:xfs", "/dev/sda:primary:60%:80%:swap",
    "/dev/sdb:primary:9000:9999:ext4"]

/-- The same partitions, one disk after the other. -/
def tokensByDisk : List String :=
  ["sdb:primary:60%:80%:xfs", "/dev/sdb:primary:9000:9999:ext4",
    "sda:primary:9000:9999:ext4", "/dev/sda:primary:60%:80%:swap"]

/-- The two lists have the same tokens, and those for each disk stand in the same order. -/
theorem reorders_ofTwo : Topology.ofTwo.Reorders .create tokensInTurns tokensByDisk := by
  refine ⟨by decide, fun x => ?_⟩
  have htargets : tokensInTurns.map (Topology.ofTwo.target? .create) =
      [some (.disk 0), some (.disk 1), some (.disk 0), some (.disk 1)] := by decide +kernel
  simp only [tokensInTurns, List.map_cons, List.map_nil, List.cons.injEq] at htargets
  rcases htargets with ⟨h₁, h₂, h₃, h₄, _⟩
  simp only [tokensInTurns, tokensByDisk, List.filter_cons, List.filter_nil, h₁, h₂, h₃, h₄,
    Option.some.injEq, decide_eq_true_eq]
  -- No place is that of both disks.
  by_cases hx : Target.disk 0 = x
  · subst hx
    rfl
  · rw [if_neg hx, if_neg hx, if_neg hx, if_neg hx]

/-- The order of the tokens for one disk matters: it gives the new partitions their
    numbers. -/
theorem applyTokens_of_reorders_ofTwo :
    (applyTokens .create tokensInTurns .ofTwo).answer = .ok () ∧
      Topology.ofTwo.Reorders .create tokensInTurns tokensByDisk ∧
      (applyTokens .create tokensByDisk .ofTwo).answer = .ok () ∧
      (applyTokens .create tokensByDisk .ofTwo).state =
        (applyTokens .create tokensInTurns .ofTwo).state ∧
      (applyTokens .create tokensByDisk.reverse .ofTwo).answer = .ok () ∧
      (applyTokens .create tokensByDisk.reverse .ofTwo).state ≠
        (applyTokens .create tokensInTurns .ofTwo).state := by
  have hok : (applyTokens .create tokensInTurns .ofTwo).answer = .ok () := by decide +kernel
  have hsame := (applyTokens_of_reorders .create .ofTwo).1 _ _ hok reorders_ofTwo
  exact ⟨hok, reorders_ofTwo, hsame.1, hsame.2, by decide +kernel, by decide +kernel⟩

end DiskPlan
