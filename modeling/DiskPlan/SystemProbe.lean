import DiskPlan.DeviceListing
import DiskPlan.Probe
import DiskPlan.Settings

/-!
# The Probe of a Running System

Disks as a system tool lists them.

The tool is run once for each disk, with a limit on its time. A run that fails,
takes too long or cannot begin finds no disk; only the first of these is logged,
since the others say nothing about the device. A command that no system can be
given ends the work. Of the listing the first device counts.

## Main definitions

* `Invocation`: A command and the time it is given.
* `Execution`: How a run of a command ended.
* `CommandResult`: What a run of a command leaves behind.
* `SystemProbe.run`: A run of a command.
* `SystemProbe.probe`: The probe of a running system.
* `SystemProbe.ofSystem`: The probe for a system with a given name.
-/

namespace DiskPlan

/-- A command and the time it is given. -/
structure Invocation where
  command : List String
  timeoutSeconds : Int
  deriving DecidableEq, Repr

/-- How a run of a command ended. -/
inductive Execution where
  | finished (status : Int) (output errors : String)
  | timedOut
  | unavailable (reason : String)
  | refused (m : Misfit)
  deriving DecidableEq, Repr

/-- What a run of a command leaves behind. -/
structure CommandResult where
  status : Int
  output : String
  errors : String
  deriving DecidableEq, Repr

namespace CommandResult

/-- Whether a run succeeded. -/
def succeeded (r : CommandResult) : Bool :=
  r.status == 0

/-- A run in words: its status and the beginning of its command. -/
def describe (status : Int) (command : String) : String :=
  "CommandResult(rc=" ++ Decimal.text status ++ ", cmd='" ++ Text.first 50 command ++ "...')"

/-- A command as one text. -/
def commandText (command : List String) : String :=
  " ".intercalate command

end CommandResult

namespace SystemProbe

/-- The columns of the listing. -/
def columns : String := "NAME,PATH,SIZE,START,TYPE,PTTYPE,FSTYPE,LOG-SEC,MODEL"

/-- The run of the tool that lists a disk. -/
def invocation (s : ProbeSettings) (name : String) : Invocation where
  command := [s.command.fileName, "-J", "-b", "-o", columns, devicePath name]
  timeoutSeconds := s.timeoutSeconds

/-- What a run leaves behind, depending on how it ended. -/
def resultOf (i : Invocation) : Execution → Except Failure CommandResult
  | .finished status output errors => .ok ⟨status, output, errors⟩
  | .timedOut => .ok ⟨-1, "", "Command timed out after " ++ Decimal.text i.timeoutSeconds ++ "s"⟩
  | .unavailable reason => .ok ⟨-1, "", reason⟩
  | .refused m => .error (.misfit m)

/-- What is logged about a run once it has ended. -/
def failureEvents (i : Invocation) : Execution → List Event
  | .finished status _ errors =>
    if status = 0 then [] else [.commandFailed i.command status (Text.first 500 errors)]
  | _ => []

/-- A run of a command. -/
def run (execute : Invocation → Execution) (i : Invocation) : Outcome Unit CommandResult :=
  (Outcome.ofExcept () (resultOf i (execute i))).logging
    (.commandStarted i.command :: failureEvents i (execute i))

/-- The first disk of a listing, if there is one. -/
def listedDisk? (output : String) : Except Failure (Option Disk) := do
  match ← DeviceListing.firstElement? (← DeviceListing.blocks output) with
  | none => return none
  | some v => return some (← DeviceListing.disk v)

/-- What is logged about a disk that was found. -/
def probed (d : Disk) : Event :=
  .diskProbed d.path d.sectors d.partitions.length

/-- The probe of a running system, given how commands are run. -/
def probe (execute : Invocation → Execution) (s : ProbeSettings) : Probe where
  name := "linux"
  lookup name :=
    (run execute (invocation s name)).andThen fun _ r =>
      -- A tool that fails says that there is no such disk.
      if !r.succeeded then
        .done () none
      else
        (Outcome.ofExcept () (listedDisk? r.output)).andThen fun _ found =>
          (Outcome.done () found).logging (found.map probed).toList

/-- The probe for a system with a given name, in any case. -/
def ofSystem (execute : Invocation → Execution) (s : ProbeSettings) (system : String) :
    Except Failure Probe :=
  let system := Text.lower system
  if system = "linux" then .ok (probe execute s)
  else .error (.ofProblem (.unsupportedPlatform system))

end SystemProbe

end DiskPlan
