import DiskPlan.Checked
import DiskPlan.Json.Reader
import DiskPlan.Json.Writer
import DiskPlan.Path

/-!
# Settings

What a person may set once for all runs, and the file it is kept in.

Every setting has a usual value, so an empty file is a valid one, and so is a
file that does not exist. The directory of the log may be given relative to the
home directory or to the working directory and is kept resolved. Saving writes
every setting, with the usual ones.

## Main definitions

* `Settings`: Every setting.
* `Surroundings`: The directories that a path is resolved in.
* `Settings.load`: The settings of a file.
* `Settings.save`: The text of a settings file.
-/

namespace DiskPlan

/-- The directories that a path is resolved in: the home of whoever asks, the
    homes of users by name, and the working directory. -/
structure Surroundings where
  home : Path
  userHome? : String → Option Path
  workingDirectory : Path

/-- The home that a name after `~` stands for. -/
def Surroundings.homeOf? (env : Surroundings) (user : String) : Option Path :=
  if user = "" then some env.home else env.userHome? user

/-- The home of a user in a list of users, which has a user on each line with the
    name in the first of its fields and the home in the sixth. -/
def Surroundings.listedHome? (users user : String) : Option Path :=
  ((Text.fields '\n' users).map (Text.fields ':')).findSome? fun entry =>
    if entry.head? = some user then entry[5]?.map Path.parse else none

/-- How much is logged, and where. -/
structure LogSettings where
  level : String
  toFile : Bool
  toConsole : Bool
  asJson : Bool
  directory : Path
  deriving DecidableEq, Repr

/-- How disks are looked up. -/
structure ProbeSettings where
  command : Label
  timeoutSeconds : Int
  deriving DecidableEq, Repr

/-- Every setting. -/
structure Settings where
  log : LogSettings
  probe : ProbeSettings
  testOnly : Bool
  deriving DecidableEq, Repr

namespace LogSettings

/-- The names of the levels of a log. -/
def levels : List String := ["DEBUG", "INFO", "WARNING", "ERROR", "CRITICAL"]

/-- The usual directory of the log. -/
def usualDirectory (env : Surroundings) : Path :=
  env.home.join (.parse ".diskspec/logs")

/-- The usual settings of the log. -/
def usual (env : Surroundings) : LogSettings where
  level := "INFO"
  toFile := false
  toConsole := true
  asJson := false
  directory := usualDirectory env

/-- A path that is refused for a null character in it. -/
def nullRefused : Checked Path :=
  .expected (.rule "embedded null byte")

/-- A directory, resolved. A home that is not known leaves it without a meaning,
    unless no user can have the name that it is asked for by. -/
def directoryOfText (env : Surroundings) (s : String) : Checked Path :=
  let path := Path.parse s
  match path.resolve? env.homeOf? env.workingDirectory with
  | none =>
    -- Of such a path only the name of the user is looked at.
    if path.parts.head?.any Path.holdsNull then nullRefused else .halted (.misfit .unknownHome)
  | some directory => if Path.holdsNull s then nullRefused else .value directory

/-- A directory in a file. -/
def directoryOfJson (env : Surroundings) : Json → Checked Path
  | .text s => directoryOfText env s
  | .label l => directoryOfText env l.fileName
  | v => .halted (.misfit (.unfit v .path))

/-- The settings of the log in a file. -/
def ofJson (env : Surroundings) (v : Json) : Checked LogSettings :=
  (Checked.object v).refine fun fields =>
    mk <$> Checked.fieldOr "level" (usual env).level (Checked.oneOf levels) fields
      <*> Checked.fieldOr "file_enabled" (usual env).toFile Checked.boolean fields
      <*> Checked.fieldOr "console_enabled" (usual env).toConsole Checked.boolean fields
      <*> Checked.fieldOr "json_format" (usual env).asJson Checked.boolean fields
      <*> Checked.fieldOr "log_directory" (usual env).directory (directoryOfJson env) fields

/-- The settings of the log as JSON. -/
def toJson (s : LogSettings) : Json :=
  .object
    [("level", .text s.level),
      ("file_enabled", .bool s.toFile),
      ("console_enabled", .bool s.toConsole),
      ("json_format", .bool s.asJson),
      ("log_directory", .text s.directory.text)]

end LogSettings

namespace ProbeSettings

/-- The usual way to look disks up. -/
def usual : ProbeSettings := ⟨.ofString "lsblk", 30⟩

/-- The way to look disks up in a file. -/
def ofJson (v : Json) : Checked ProbeSettings :=
  (Checked.object v).refine fun fields =>
    mk <$> Checked.fieldOr "lsblk" usual.command Checked.label fields
      <*> Checked.fieldOr "timeout_seconds" usual.timeoutSeconds timeout fields
where
  /-- A number of seconds. -/
  timeout (v : Json) : Checked Int :=
    ((Checked.integer v).ensure (1 ≤ ·) (.atLeast 1)).ensure (· ≤ 600) (.atMost 600)

/-- The way to look disks up as JSON. -/
def toJson (s : ProbeSettings) : Json :=
  .object [("lsblk", .ofLabel s.command), ("timeout_seconds", .int s.timeoutSeconds)]

end ProbeSettings

namespace Settings

/-- The usual place of the settings file. -/
def usualFile (env : Surroundings) : Path :=
  env.home.join (.parse ".diskspec/config.json")

/-- The usual settings. -/
def usual (env : Surroundings) : Settings := ⟨.usual env, .usual, false⟩

/-- Whether an installation is only to be tested. -/
def testOnlyOfJson (v : Json) : Checked Bool :=
  (Checked.object v).refine (Checked.fieldOr "test_mode" false Checked.boolean)

/-- The settings of a file. -/
def ofJson (env : Surroundings) (v : Json) : Checked Settings :=
  (Checked.object v).refine fun fields =>
    mk <$> Checked.fieldOr "logging" (usual env).log (LogSettings.ofJson env) fields
      <*> Checked.fieldOr "probe" (usual env).probe ProbeSettings.ofJson fields
      <*> Checked.fieldOr "installer" (usual env).testOnly testOnlyOfJson fields

/-- The settings as JSON. -/
def toJson (s : Settings) : Json :=
  .object
    [("logging", s.log.toJson),
      ("probe", s.probe.toJson),
      ("installer", .object [("test_mode", .bool s.testOnly)])]

/-- The settings of a file with given contents, or the usual ones without a
    file. -/
def load (env : Surroundings) : Option String → Except Failure Settings
  | none => .ok (usual env)
  | some contents =>
    match Json.parse contents with
    | .error e => .error (.ofFault contents e)
    | .ok v => (ofJson env v).result

/-- The text of a settings file. -/
def save (s : Settings) : String :=
  s.toJson.indented

/-- The directories that have to exist before anything is logged. -/
def neededDirectories (s : Settings) : List Path :=
  if s.log.toFile then [s.log.directory] else []

end Settings

end DiskPlan
