import DiskPlan.Program

/-!
# The Command

The command as a process: arguments, files and streams.

Everything is decided by `Program.run`. This module only reads the files that
the arguments name, gathers the directories and the name of the system, makes what
the log needs, lays tables out, writes what the run wrote and logged, and exits with
its status. It runs no other command, so without a layout file no disk is found.

## Main definitions

* `main`: The command as a process.
-/

namespace DiskPlan

/-- The contents of a file, none if there is no such file. -/
def readFile? (path : String) : IO (Option String) := do
  try
    return some (← IO.FS.readFile path)
  catch _ =>
    return none

/-- The directories that a process is in. -/
def surroundingsOf : IO Surroundings := do
  let home := (← IO.getEnv "HOME").getD "/"
  let users := (← readFile? "/etc/passwd").getD ""
  return {
    home := .parse home
    userHome? := Surroundings.listedHome? users
    workingDirectory := .parse (← IO.currentDir).toString }

/-- The files that a run may read, with their contents. -/
def readFiles (env : Surroundings) (args : List String) : IO (List (String × String)) := do
  let named := match CommandLine.parse (fun _ => true) args with
    | .command c => CommandLine.filesOf c
    | _ => []
  let contents ← ((Settings.usualFile env).text :: named).mapM fun path =>
    return (path, ← readFile? path)
  return contents.filterMap fun f => f.2.map fun s => (f.1, s)

/-- Rows with their columns lined up. -/
def linedUp (rows : List (List String)) : String :=
  let widths := rows.foldl (fun widths row =>
    widths.zipWith (fun width cell => max width cell.length) row) (Row.headings.map fun _ => 0)
  let lineOf (row : List String) :=
    "  ".intercalate (row.zipWith (fun cell width =>
      cell ++ String.ofList (List.replicate (width - cell.length) ' ')) widths) ++ "\n"
  String.join (rows.map lineOf)

/-- A display without a terminal: a line for each row of a table, for each status and for
    each option. -/
def plainDisplay : Display where
  table := fun title rows => title ++ "\n" ++ linedUp rows
  progress := fun disabled statuses =>
    if disabled then ""
    else String.join (statuses.map fun s => s.step.title ++ " " ++ s.percent.repr ++ "%\n")
  help := String.join (Switch.all.map fun s => s.long ++ "\n")

/-- What the system says to an action that it refuses. -/
def refusalOf? (act : IO Unit) : IO (Option Refusal) := do
  try
    act
    return none
  catch e =>
    return some ⟨"OSError", e.toString⟩

/-- What the log of a command needs, made and opened as far as the system does not refuse it. -/
def openLog (w : World) (args : List String) : IO World := do
  match CommandLine.parse (fun path => (w.file? path).isSome) args with
  | .command c =>
    match Program.settings w c with
    | .error _ => return w
    | .ok s =>
      let directory? ← refusalOf? do
        for directory in s.neededDirectories do
          IO.FS.createDirAll directory.text
      let file? ← refusalOf? do
        if s.log.toFile then
          discard (IO.FS.Handle.mk s.log.file.text .append)
      return { w with makeDirectory := fun _ => directory?, openFile := fun _ => file? }
  | _ => return w

/-- The world of a process that has read its files. -/
def worldOf (env : Surroundings) (files : List (String × String)) : IO World := do
  let system := (← readFile? "/proc/sys/kernel/ostype").getD ""
  return {
    surroundings := env
    file? := fun path => (files.find? fun f => f.1 == path).map Prod.snd
    system := Text.stripped system
    execute := fun _ => .unavailable "commands are not run"
    fault := fun _ => none
    display := plainDisplay }

/-- The log of a run, added to its file. -/
def keepLog (r : Run) : IO Unit := do
  match r.logSettings.bind fun s => (s.fileText r.log).map fun lines => (s.file.text, lines) with
  | none => return
  | some (path, lines) => (← IO.FS.Handle.mk path .append).putStr lines

end DiskPlan

/-- The command as a process. -/
def main (args : List String) : IO UInt32 := do
  let env ← DiskPlan.surroundingsOf
  let world ← DiskPlan.openLog (← DiskPlan.worldOf env (← DiskPlan.readFiles env args)) args
  let run := DiskPlan.Program.run world args
  DiskPlan.keepLog run
  IO.eprint run.logText
  IO.print run.output
  IO.eprint run.errors
  match run.ending with
  | .exited status => return UInt32.ofNat status
  | .misused =>
    IO.eprintln "diskspec: the options were not understood, see --help"
    return 2
  | .failed f =>
    IO.eprintln (": ".intercalate (f.name :: f.message?.toList))
    return 1
