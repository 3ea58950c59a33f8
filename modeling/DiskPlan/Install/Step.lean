/-!
# Steps of an Installation

The five steps of an installation in their order, and how one of them ends an
installation early.

## Main definitions

* `Step`: A step of an installation.
* `StepProblem`: A step that failed, or that was not begun because the
  installation was cancelled.
-/

namespace DiskPlan

/-- A step of an installation. -/
inductive Step where
  | init
  | partition
  | extract
  | configure
  | bootloader
  deriving DecidableEq, Repr

namespace Step

/-- Every step, in the order of execution. -/
def all : List Step := [init, partition, extract, configure, bootloader]

/-- What a step does, in words. -/
def title : Step → String
  | init => "Initializing"
  | partition => "Partitioning disk"
  | extract => "Extracting filesystem"
  | configure => "Configuring installation"
  | bootloader => "Installing bootloader"

/-- The name of a step. -/
def name : Step → String
  | init => "INIT"
  | partition => "PARTITION"
  | extract => "EXTRACT"
  | configure => "CONFIGURE"
  | bootloader => "BOOTLOADER"

/-- The step with a name. -/
def ofName? (s : String) : Option Step :=
  all.find? fun step => step.name == s

end Step

/-- How a step ends an installation early. -/
inductive StepProblem where
  | failed (step : Step) (reason : String)
  | cancelled (step : Step)
  deriving DecidableEq, Repr

namespace StepProblem

/-- The step that an installation ended at. -/
def step : StepProblem → Step
  | failed step _ => step
  | cancelled step => step

/-- The name of a kind of end. -/
def name : StepProblem → String
  | failed .. => "InstallError"
  | cancelled _ => "InstallCancelled"

/-- What is told about an installation that ended early. -/
def message : StepProblem → String
  | failed step reason => step.title ++ ": " ++ reason
  | cancelled step => step.title ++ ": install was cancelled"

end StepProblem

end DiskPlan
