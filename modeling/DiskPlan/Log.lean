import DiskPlan.Event
import DiskPlan.Json.Writer
import DiskPlan.Settings

/-!
# The Log

The lines that events leave on the console and in the file of the log.

The console shows the events that are as grave as the level that was set, and
the file receives every event, so that a run that went wrong can be looked into
afterwards. A line is either an object of JSON or a text for people, with the
level, the words, the part of the program, and the fields.

## Main definitions

* `LogSettings.admits`: Whether an event is grave enough for the console.
* `Record.line`: The line of an event.
* `LogSettings.consoleText`: What events leave on the console.
* `LogSettings.fileText`: What events leave in the file.
-/

namespace DiskPlan

/-- The place of a level among the names of the levels. -/
def Level.rank : Level → Nat
  | debug => 0
  | info => 1
  | warning => 2
  | error => 3

namespace Record

/-- A text, filled up with blanks. -/
def padded (width : Nat) (s : String) : String :=
  s ++ String.ofList (List.replicate (width - s.length) ' ')

/-- The value of a field, without quotes if it is a text. -/
def valueText : Json → String
  | .text s => s
  | v => v.compact

/-- An event as a line for people. -/
def plainLine (r : Record) : String :=
  " ".intercalate
    (("[" ++ padded 9 r.level.name ++ "]") :: padded 30 r.event
      :: ("[" ++ r.source.name ++ "]")
      :: r.fields.map fun f => f.1 ++ "=" ++ valueText f.2)

/-- An event as an object on one line. -/
def jsonLine (r : Record) : String :=
  (Json.object
    (r.fields ++ [("event", .text r.event), ("logger", .text r.source.name),
      ("level", .text r.level.name)])).compact

/-- The line of an event. -/
def line (asJson : Bool) (r : Record) : String :=
  (if asJson then r.jsonLine else r.plainLine) ++ "\n"

end Record

namespace LogSettings

/-- Whether an event of a level is grave enough for the console. -/
def admits (s : LogSettings) (l : Level) : Bool :=
  levels.idxOf s.level ≤ l.rank

/-- The file of the log. -/
def file (s : LogSettings) : Path :=
  s.directory.join (.parse "diskspec.log")

/-- What events leave on the console. -/
def consoleText (s : LogSettings) (events : List Event) : String :=
  if s.toConsole then
    let records := (events.map Event.record).filter fun r => s.admits r.level
    String.join (records.map (Record.line s.asJson))
  else
    ""

/-- What events leave in the file, if one is kept. -/
def fileText (s : LogSettings) (events : List Event) : Option String :=
  if s.toFile then some (String.join (events.map fun e => e.record.line s.asJson)) else none

end LogSettings

end DiskPlan
