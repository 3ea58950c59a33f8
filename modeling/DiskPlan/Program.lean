import DiskPlan.CommandLine
import DiskPlan.Console
import DiskPlan.Install
import DiskPlan.Json.Writer
import DiskPlan.Layout
import DiskPlan.Log
import DiskPlan.PlanTable
import DiskPlan.SystemProbe
import DiskPlan.Topology.Export

/-!
# The Program

The command from its arguments to its exit, as a function of the world around
it.

The command reads its settings, opens its log, checks what is to be installed,
finds the disks, makes the plan, shows it and goes through the installation. A
problem that a person can mend is told in one line on the error output and ends
the command with status 1. A failure that is nobody's problem, such as a layout
file that is not JSON or a directory that the log cannot be kept in, is passed on
as it is.

With JSON output the standard output holds the plan and nothing else, so all
messages go to the error output and the display of progress is disabled. What is
logged is kept apart from both, and how it is shown is up to the settings.

How a table is laid out, how the progress of an installation is drawn and how the
options are explained is not decided here. All that is known of the display is
what it is given, and whether it is disabled.

## Main definitions

* `Display`: What results look like on the standard output.
* `World`: What surrounds a run of the command.
* `Ending`: How a run ends.
* `Run`: A run of the command.
* `Program.run`: The run for a list of arguments.
-/

namespace DiskPlan

/-- What results look like on the standard output: a table with a title, the
    progress of an installation, given whether it is disabled and the statuses that
    were told, and the explanation of the options. -/
structure Display where
  table : String → List (List String) → String
  progress : Bool → List Status → String
  help : String

namespace Display

/-- A display that shows nothing. -/
def blank : Display := ⟨fun _ _ => "", fun _ _ => "", ""⟩

end Display

/-- What surrounds a run of the command: directories, files, the name of the
    system, how commands are run, the steps of the installation that fail, the
    display, and why a directory is not made or a file not opened for writing. -/
structure World where
  surroundings : Surroundings
  file? : String → Option String
  system : String
  execute : Invocation → Execution
  fault : Step → Option StepProblem
  display : Display := .blank
  makeDirectory : Path → Option Refusal := fun _ => none
  openFile : Path → Option Refusal := fun _ => none

/-- How a run ends: with a status, because the command was misused, or with a
    failure that is passed on. -/
inductive Ending where
  | exited (status : Nat)
  | misused
  | failed (f : Failure)

/-- A run of the command: its output, what it logged and, once they are known,
    the settings of the log, and its end. -/
structure Run where
  output : String
  errors : String
  log : List Event
  logSettings : Option LogSettings
  ending : Ending

namespace Run

/-- A run that writes to the standard output and ends well. -/
def answered (output : String) : Run := ⟨output, "", [], none, .exited 0⟩

/-- A run that ends with a line on the error output. -/
def refused (message : String) : Run :=
  ⟨"", Console.alert "diskspec" message, [], none, .exited 1⟩

/-- A run that ends with a failure that is passed on. -/
def passedOn (f : Failure) : Run := ⟨"", "", [], none, .failed f⟩

/-- A run with events logged before it. -/
def logging (events : List Event) (r : Run) : Run :=
  { r with log := events ++ r.log }

/-- A run whose log is kept in a given way. -/
def keeping (s : LogSettings) (r : Run) : Run :=
  { r with logSettings := some s }

/-- What a run leaves on the console of the log. -/
def logText (r : Run) : String :=
  (r.logSettings.map fun s => s.consoleText r.log).getD ""

end Run

namespace Program

/-- The name and the version of the command. -/
def versionLine : String := "diskspec, version 1.0.0\n"

/-- The parameters of the installation that a command names. -/
def installConfig (c : Command) : Checked InstallConfig :=
  InstallConfig.ofJson (.object
    [("squashfs", .text c.squashfs), ("hostname", .text c.hostname),
      ("keyboard", .text c.keyboard), ("lang", .text c.lang), ("remove", .text c.remove)])

/-- The first step into a value, in words. -/
def placeText (i : Issue) : String :=
  match i.location with
  | .field name :: _ => name
  | .item index :: _ => index.repr
  | [] => ""

/-- What is told about the first issue with the parameters. -/
def configMessage (issues : List Issue) : String :=
  "invalid install configuration: "
    ++ ": ".intercalate ((issues.take 1).flatMap fun i => [placeText i, i.expected.message])

/-- How a command is run. One that no system can be given is not run at all. -/
def execute (w : World) (s : ProbeSettings) (i : Invocation) : Execution :=
  if !s.command.isEncodable then .refused (.unencodable s.command)
  else if i.command.any Path.holdsNull then .refused (.refused .nullCharacter)
  else w.execute i

/-- Where disks come from: the layout file of a command, or the system. -/
def probe (w : World) (s : Settings) (c : Command) : Outcome Unit Probe :=
  match c.layout.bind fun path => (w.file? path).map fun contents => (path, contents) with
  | some (path, contents) => Layout.load path contents
  | none => .ofExcept () (SystemProbe.ofSystem (execute w s.probe) s.probe w.system)

/-- What a run shows of a plan before the installation. -/
def planText (d : Display) (c : Command) (t : Topology) : Except Failure String :=
  if c.asJson then
    -- A number beyond the limit on numerals leaves nothing to show.
    if t.toJson.isWritable then .ok (t.toJson.indented ++ "\n") else .error (.numeral .writing)
  else if c.quiet then
    .ok ""
  else do
    return d.table Row.tableTitle (Row.headings :: (← t.tableCells))

/-- Text among the messages of a run, which leave the standard output to the plan
    if that is JSON. -/
def withMessage (c : Command) (message : String) (r : Run) : Run :=
  if c.asJson then { r with errors := r.errors ++ message }
  else { r with output := r.output ++ message }

/-- The end of a run, once the installation has gone through its steps. Its progress is
    shown behind the plan, unless the command is quiet or shows the plan as JSON. -/
def concluded (d : Display) (c : Command) (shown : String) (o : Outcome Progress Unit) : Run :=
  let told := String.join (o.state.problems.map fun p => Console.warning "Error" p.message)
  let shown := shown ++ d.progress (c.quiet || c.asJson) o.state.statuses
  match o.answer with
  | .ok () =>
    withMessage c (Console.line "install was successful") ⟨shown, told, o.log, none, .exited 0⟩
  | .error (.install p) =>
    withMessage c (Console.note "install failed" p.message) ⟨shown, told, o.log, none, .exited 1⟩
  | .error f => ⟨shown, told, o.log, none, .failed f⟩

/-- A run from the plan on. -/
def runInstall (w : World) (s : Settings) (c : Command) (config : InstallConfig)
    (t : Topology) : Run :=
  match planText w.display c t with
  | .error f => .passedOn f
  | .ok shown =>
    let installation : Installation :=
      { topology := t
        config := config
        testOnly := c.testOnly || s.testOnly
        cancels := fun _ => false
        fault := w.fault }
    concluded w.display c shown (installation.run (.start false))

/-- A run from the probe on. -/
def runPlan (w : World) (s : Settings) (c : Command) (config : InstallConfig)
    (p : Probe) : Run :=
  let plan := configure p c.requests
  let rest : Run := match plan.answer with
    | .error (.problem r) => .refused ("invalid disk configuration: " ++ r.message)
    | .error f => .passedOn f
    | .ok () => runInstall w s c config plan.state
  rest.logging plan.log

/-- A run from the settings on. -/
def runCommand (w : World) (c : Command) (s : Settings) : Run :=
  match installConfig c with
  | .halted f => .passedOn f
  | .issues list => .refused (configMessage list)
  | .value config =>
    let found := probe w s c
    let rest : Run := match found.answer with
      | .error (.problem r) => .refused r.message
      | .error f => .passedOn f
      | .ok p => runPlan w s c config p
    rest.logging found.log

/-- The settings file that a command reads: the one that it names, or the usual
    one, which need not exist. -/
def settingsFile (w : World) (c : Command) : String :=
  c.config.getD (Settings.usualFile w.surroundings).text

/-- How the log of a command is kept. A quiet command shows none. -/
def logSettings (c : Command) (s : Settings) : LogSettings :=
  { s.log with toConsole := s.log.toConsole && !c.quiet }

/-- The settings of a command. -/
def settings (w : World) (c : Command) : Except Failure Settings :=
  Settings.load w.surroundings (w.file? (settingsFile w c))

/-- Why the log of a command cannot be kept, if it cannot. The directories that it
    needs are made before its file is opened. -/
def logRefusal? (w : World) (s : Settings) : Option Refusal :=
  (s.neededDirectories.findSome? w.makeDirectory).or
    (if s.log.toFile then w.openFile s.log.file else none)

/-- The run of the command for a list of arguments. -/
def run (w : World) (args : List String) : Run :=
  match CommandLine.parse (fun path => (w.file? path).isSome) args with
  | .misused => ⟨"", "", [], none, .misused⟩
  | .version => .answered versionLine
  | .help => .answered w.display.help
  | .impossiblePath => .passedOn (.misfit (.refused .nullCharacter))
  | .command c =>
    match settings w c with
    | .error f => .passedOn f
    | .ok s =>
      match logRefusal? w s with
      | some refusal => .passedOn (.misfit (.refused refusal))
      | none => (runCommand w c s).keeping (logSettings c s)

end Program

end DiskPlan
