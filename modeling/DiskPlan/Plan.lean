import DiskPlan.Operation.Effect
import DiskPlan.Probe

/-!
# Plans

The disks and volume groups that a list of requests leads to.

A plan is made in a fixed order, whatever the order of the requests: the disks
are looked up, then relabeled, then partitions are deleted, moved, reused and
created, then the volume groups are made, and logical volumes come last, since
they can only be placed in groups that exist. Each stretch is a stage of the
log, and one that no request asks for leaves no trace. The first failure ends
it all.

## Main definitions

* `Requests`: The names of disks and the tokens of each kind.
* `registerDisks`: The disks of a plan.
* `Requests.stage`: The requests of one kind as a stage.
* `configure`: The plan that requests lead to.
-/

namespace DiskPlan

/-- The names of disks and the tokens of each kind of operation. -/
structure Requests where
  disks : List String
  tables : List String
  deletes : List String
  moves : List String
  reuses : List String
  creates : List String
  logicals : List String
  deriving DecidableEq, Repr

/-- The disks with the given names, after those of a topology. -/
def registerDisks (probe : Probe) : List String → Topology → Outcome Topology Unit
  | [], t => .done t ()
  | name :: rest, t =>
    ((probe.lookup name).lift fun _ => t).andThen fun t found =>
      match found with
      -- The failure names the disk as it was asked for.
      | none => .fail t (.ofLookup (.diskNotFound name))
      | some d => (t.addDisk d).andThen fun t _ => registerDisks probe rest t

namespace Requests

/-- The tokens of a kind. -/
def tokens (r : Requests) : Kind → List String
  | .relabel => r.tables
  | .delete => r.deletes
  | .move => r.moves
  | .reuse => r.reuses
  | .create => r.creates
  | .logical => r.logicals

/-- The stage in which disks are looked up. -/
def registration (r : Requests) : Stage :=
  ⟨.pipeline, "register", [("disks", Event.texts r.disks)]⟩

/-- The stage of a kind of operation. -/
def operations (r : Requests) (kind : Kind) : Stage :=
  ⟨.pipeline, kind.name, [("tokens", .int (r.tokens kind).length)]⟩

/-- The requests of one kind on a topology, as a stage if there are any. -/
def stage (r : Requests) (kind : Kind) (t : Topology) : Outcome Topology Unit :=
  if (r.tokens kind).isEmpty then .done t ()
  else (applyTokens kind (r.tokens kind) t).bracket (r.operations kind)

/-- The requests of several kinds on a topology, one kind after the other. -/
def stages (r : Requests) : List Kind → Topology → Outcome Topology Unit
  | [], t => .done t ()
  | kind :: rest, t => (r.stage kind t).andThen fun t _ => r.stages rest t

end Requests

/-- The kinds of operations that come before the volume groups are made. -/
def diskKinds : List Kind := [.relabel, .delete, .move, .reuse, .create]

/-- The stage in which volume groups are made. -/
def groupStage : Stage := ⟨.pipeline, "volume groups", []⟩

/-- The names of the volume groups of a topology, sorted. -/
def sortedGroupNames (t : Topology) : List String :=
  (t.groups.map VolumeGroup.name).mergeSort fun a b => decide (a ≤ b)

/-- The event that closes a plan. -/
def configured (t : Topology) : Event :=
  .disksConfigured t.disks.length (sortedGroupNames t)

/-- The plan that requests lead to, with disks from a probe. -/
def configure (probe : Probe) (r : Requests) : Outcome Topology Unit :=
  ((registerDisks probe r.disks .empty).bracket r.registration).andThen fun t _ =>
    (r.stages diskKinds t).andThen fun t _ =>
      (t.initializeGroups.bracket groupStage).andThen fun t _ =>
        (r.stage .logical t).andThen fun t _ =>
          (Outcome.done t ()).logging [configured t]

end DiskPlan
