import DiskPlan.Failure

/-!
# Watching an Installation

Who is told how an installation goes, and how it is cancelled.

Listeners are told in the order in which they were registered. A cancellation
is a request, seen the next time that someone asks.

## Main definitions

* `Status`: How far a step is.
* `Monitor`: The listeners of an installation.
* `Notice`: What a listener is told.
* `Monitor.report`, `Monitor.reportProblem`: What the listeners are told.
* `Monitor.check`: Whether the installation may go on.

## Theorems

* `clamp_le`, `le_clamp`: A percentage stays between 0 and 100.
-/

namespace DiskPlan

/-- How far a step is. -/
structure Status where
  step : Step
  percent : Int
  deriving DecidableEq, Repr

namespace Status

/-- A number moved into the range of a percentage. -/
def clamp (percent : Int) : Int :=
  max 0 (min 100 percent)

/-- The status of a step with a percentage. -/
def of (step : Step) (percent : Int) : Status := ⟨step, clamp percent⟩

theorem clamp_le (percent : Int) : clamp percent ≤ 100 := by
  unfold clamp
  omega

theorem le_clamp (percent : Int) : 0 ≤ clamp percent := by
  unfold clamp
  omega

end Status

/-- What a listener is told. -/
inductive Notice where
  | status (listener : String) (status : Status)
  | problem (listener : String) (problem : StepProblem)
  deriving DecidableEq, Repr

/-- The listeners of an installation, and whether it is cancelled. -/
structure Monitor where
  statusListeners : List String
  problemListeners : List String
  cancelled : Bool
  deriving DecidableEq, Repr

namespace Monitor

/-- No listeners. -/
def empty : Monitor := ⟨[], [], false⟩

/-- A listener to statuses after the others. -/
def onStatus (m : Monitor) (label : String) : Monitor :=
  { m with statusListeners := m.statusListeners ++ [label] }

/-- A listener to problems after the others. -/
def onProblem (m : Monitor) (label : String) : Monitor :=
  { m with problemListeners := m.problemListeners ++ [label] }

/-- A request to cancel. -/
def cancel (m : Monitor) : Monitor :=
  { m with cancelled := true }

/-- What the listeners are told about a status. -/
def report (m : Monitor) (s : Status) : List Notice :=
  m.statusListeners.map fun label => .status label s

/-- What the listeners are told about a problem. -/
def reportProblem (m : Monitor) (p : StepProblem) : List Notice :=
  m.problemListeners.map fun label => .problem label p

/-- A step may only begin if the installation is not cancelled. -/
def check (m : Monitor) (step : Step) : Except StepProblem Unit :=
  if m.cancelled then .error (.cancelled step) else .ok ()

end Monitor

end DiskPlan
