import DiskPlan.Install.Config
import DiskPlan.Install.Monitor
import DiskPlan.Topology

/-!
# Installations

The installation that a plan would be followed by, step by step, without
touching a disk.

Every step is a stage of the log and reports when it begins and when it is done.
Before a step begins it is asked whether the installation is cancelled, so a
step that is running is never cut short. A test run ends once the disks have
been partitioned. A problem ends the installation and is told once.

What each step would do is logged. Partitioning goes through the disks and then
the volume groups and reports after each of them which part of all devices is
done.

## Main definitions

* `Installation`: What is installed, and what befalls the installation.
* `Progress`: How far an installation is.
* `Topology.events`: What partitioning would do to each device.
* `Installation.step`: One step.
* `Installation.run`: The steps in their order.
-/

namespace DiskPlan

/-- What is installed, and what befalls the installation: whether it is a test
    run, the statuses on which somebody cancels it, and the steps that fail. -/
structure Installation where
  topology : Topology
  config : InstallConfig
  testOnly : Bool
  cancels : Status → Bool
  fault : Step → Option StepProblem

/-- How far an installation is: whether it is cancelled, the steps that were
    begun, and the statuses and the problems that were told. -/
structure Progress where
  cancelled : Bool
  entered : List Step
  statuses : List Status
  problems : List StepProblem
  deriving DecidableEq, Repr

namespace Progress

/-- Nothing done yet, perhaps cancelled already. -/
def start (cancelled : Bool) : Progress := ⟨cancelled, [], [], []⟩

/-- A step that is begun. -/
def enter (p : Progress) (s : Step) : Progress :=
  { p with entered := p.entered ++ [s] }

/-- A problem that is told. -/
def tell (p : Progress) (problem : StepProblem) : Progress :=
  { p with problems := p.problems ++ [problem] }

end Progress

/-- What partitioning would do to a partition. A partition that is kept as it is
    is not mentioned. -/
def Partition.event? (p : Partition) : Option Event :=
  if p.removed then some (.wouldRemove p.path)
  else p.target.map fun fs => .wouldFormat p.path fs p.mount

/-- The writing of a new partition table. -/
def Disk.tableEvent? (d : Disk) : Option Event :=
  if d.relabeled then d.table.map fun table => .wouldWriteTable d.path table else none

/-- What partitioning would do to a disk. -/
def Disk.events (d : Disk) : List Event :=
  d.tableEvent?.toList ++ d.partitions.filterMap Partition.event?

/-- The creation of a volume group. -/
def VolumeGroup.event (g : VolumeGroup) : Event :=
  .wouldCreateGroup g.name g.physicalVolumes (g.partitions.map Partition.name)

/-- What partitioning would do to each device, the disks first. -/
def Topology.events (t : Topology) : List (List Event) :=
  t.disks.map Disk.events ++ t.groups.map fun g => [g.event]

namespace Installation

/-- A status that is told, and that may make somebody cancel. -/
def report (i : Installation) (s : Step) (percent : Int) (p : Progress) :
    Outcome Progress Unit :=
  let status := Status.of s percent
  .done { p with
    statuses := p.statuses ++ [status]
    cancelled := p.cancelled || i.cancels status } ()

/-- The devices of a plan from an index on, each with a report after it. -/
def describeDevices (i : Installation) (count : Nat) :
    Nat → List (List Event) → Progress → Outcome Progress Unit
  | _, [], p => .done p ()
  | index, events :: rest, p =>
    ((i.report .partition ((index + 1) * 100 / count : Nat) p).logging events).andThen fun p _ =>
      i.describeDevices count (index + 1) rest p

/-- What a step would do. -/
def describe (i : Installation) (s : Step) (p : Progress) : Outcome Progress Unit :=
  let c := i.config
  match s with
  | .init => (Outcome.done p ()).logging [.wouldInstall c.image c.hostname c.keyboard c.language]
  | .partition => i.describeDevices i.topology.events.length 0 i.topology.events p
  | .extract => (Outcome.done p ()).logging [.wouldExtract c.image]
  | .configure => (Outcome.done p ()).logging [.wouldConfigure c.manifest c.language]
  | .bootloader => (Outcome.done p ()).logging [.wouldInstallBootloader]

/-- The work of a step, unless it fails. -/
def work (i : Installation) (s : Step) (p : Progress) : Outcome Progress Unit :=
  let p := p.enter s
  match i.fault s with
  | some problem => .fail p (.install problem)
  | none => i.describe s p

/-- The stage of a step. -/
def stage (i : Installation) (s : Step) : Stage :=
  ⟨.install, s.title, [("hostname", .text i.config.hostname)]⟩

/-- A step from its first report to its last. -/
def stagedWork (i : Installation) (s : Step) (p : Progress) : Outcome Progress Unit :=
  ((i.report s 0 p).andThen fun p _ =>
    (i.work s p).andThen fun p _ =>
      i.report s 100 p).bracket (i.stage s)

/-- An outcome in which a problem of a step, if there is one, is told. -/
def told (o : Outcome Progress Unit) : Outcome Progress Unit :=
  match o.answer with
  | .error (.install problem) => { o with state := o.state.tell problem }
  | _ => o

/-- A step, unless the installation is cancelled. -/
def step (i : Installation) (s : Step) (p : Progress) : Outcome Progress Unit :=
  told (if p.cancelled then .fail p (.install (.cancelled s)) else i.stagedWork s p)

/-- Whether an installation ends after a step. -/
def endsAfter (i : Installation) (s : Step) : Bool :=
  i.testOnly && s == .partition

/-- The steps of a list in their order. -/
def runSteps (i : Installation) : List Step → Progress → Outcome Progress Unit
  | [], p => .done p ()
  | s :: rest, p =>
    (i.step s p).andThen fun p _ =>
      -- A test run ends well, with the later steps not even begun.
      if i.endsAfter s then (Outcome.done p ()).logging [.partitioningTested]
      else i.runSteps rest p

/-- The steps of an installation in their order. -/
def run (i : Installation) (p : Progress) : Outcome Progress Unit :=
  i.runSteps Step.all p

end Installation

end DiskPlan
