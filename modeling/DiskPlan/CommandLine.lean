import DiskPlan.Plan
import DiskPlan.Table

/-!
# The Command Line

The options of the command and the grammar they are given in.

An option is named by a long name after two dashes or by a letter after one.
Letters can be bundled after one dash, and the value of the last one may follow
it directly. A long name takes its value after an equals sign or from the next
argument, whatever that begins with. Two dashes on their own end the options. Of
an option that takes one value the last value counts.

The command takes nothing but options, so an argument that is none is an error,
like an unknown option, a missing value and a missing option. `--version` and
`--help` answer before anything is found missing, but not before the options
have been read.

The values of options are looked at in the order in which the options first
appear, before anything is found missing. A file that is to be read has to
exist. A path that no file can have is a fault of another kind, whatever the
option needs it for.

## Main definitions

* `Switch`: An option.
* `CommandLine.scan`: The options of a list of arguments.
* `Command`: What the command is asked to do.
* `CommandLine.parse`: The meaning of a list of arguments.
-/

namespace DiskPlan

/-- An option of the command. -/
inductive Switch where
  | squashfs
  | hostname
  | keyboard
  | lang
  | remove
  | block
  | newTable
  | new
  | use
  | delete
  | move
  | logical
  | test
  | layout
  | config
  | json
  | quiet
  | version
  | help
  deriving DecidableEq, Repr

namespace Switch

/-- Every option. -/
def all : List Switch :=
  [squashfs, hostname, keyboard, lang, remove, block, newTable, new, use, delete, move, logical,
    test, layout, config, json, quiet, version, help]

/-- The long name of an option. -/
def long : Switch → String
  | squashfs => "--squashfs"
  | hostname => "--hostname"
  | keyboard => "--keyboard"
  | lang => "--lang"
  | remove => "--remove"
  | block => "--block"
  | newTable => "--new-table"
  | new => "--new"
  | use => "--use"
  | delete => "--delete"
  | move => "--move"
  | logical => "--logical"
  | test => "--test"
  | layout => "--layout"
  | config => "--config"
  | json => "--json"
  | quiet => "--quiet"
  | version => "--version"
  | help => "--help"

/-- The letter of an option, if it has one. -/
def letter? : Switch → Option Char
  | squashfs => some 's'
  | hostname => some 'h'
  | keyboard => some 'k'
  | lang => some 'l'
  | remove => some 'r'
  | block => some 'b'
  | newTable => some 't'
  | new => some 'n'
  | use => some 'u'
  | delete => some 'd'
  | move => some 'm'
  | config => some 'c'
  | quiet => some 'q'
  | logical | test | layout | json | version | help => none

/-- Whether an option takes a value. -/
def takesValue : Switch → Bool
  | test | json | quiet | version | help => false
  | _ => true

/-- Whether the value of an option is a path. -/
def namesPath : Switch → Bool
  | squashfs | remove | layout | config => true
  | _ => false

/-- Whether the value of an option is the path of a file that the command
    reads. -/
def namesFile : Switch → Bool
  | layout | config => true
  | _ => false

/-- The option with a long name. -/
def ofLong? : String → Option Switch := ofNameIn? long all

/-- The option with a letter. -/
def ofLetter? (c : Char) : Option Switch :=
  all.find? fun s => s.letter? == some c

end Switch

namespace CommandLine

/-- An option that was given, with its value; an option that takes no value has
    the empty one. -/
abbrev Given := Switch × String

/-- The options in one argument, and the one that takes its value from the next
    argument. -/
structure Scanned where
  given : List Given
  waiting : Option Switch

/-- The options that a bundle of letters names, none if a letter is unknown. -/
def scanLetters : List Char → Option Scanned
  | [] => some ⟨[], none⟩
  | c :: rest =>
    match Switch.ofLetter? c with
    | none => none
    | some s =>
      if s.takesValue then
        -- The rest of the bundle is the value, an equals sign included.
        if rest.isEmpty then some ⟨[], some s⟩ else some ⟨[(s, String.ofList rest)], none⟩
      else
        (scanLetters rest).map fun found => { found with given := (s, "") :: found.given }

/-- The options in one argument that begins with a dash. -/
def scanArgument (arg : String) : Option Scanned :=
  match Switch.ofLong? (Text.cut '=' arg).1, (Text.cut '=' arg).2 with
  | some s, some value => if s.takesValue then some ⟨[(s, value)], none⟩ else none
  | some s, none => some (if s.takesValue then ⟨[], some s⟩ else ⟨[(s, "")], none⟩)
  | none, _ => if (Text.after? "--" arg).isSome then none else scanLetters (arg.toList.drop 1)

/-- Whether an argument is read for options. -/
def isOptional (arg : String) : Bool :=
  arg.toList.head? == some '-' && arg != "-"

/-- The options of a list of arguments and the arguments that are none, if the
    options follow the grammar. -/
def scan : List String → Option (List Given × List String)
  | [] => some ([], [])
  | arg :: rest =>
    if arg = "--" then
      some ([], rest)
    else if isOptional arg then
      match scanArgument arg with
      | none => none
      | some ⟨given, none⟩ => (scan rest).map fun found => (given ++ found.1, found.2)
      | some ⟨given, some s⟩ =>
        match rest with
        | [] => none
        | value :: rest => (scan rest).map fun found => (given ++ (s, value) :: found.1, found.2)
    else
      (scan rest).map fun found => (found.1, arg :: found.2)

/-- The values of an option, in their order. -/
def values (s : Switch) (given : List Given) : List String :=
  (given.filter fun g => g.1 == s).map Prod.snd

/-- The value of an option that takes one, the last if there are several. -/
def value? (s : Switch) (given : List Given) : Option String :=
  (values s given).getLast?

/-- Whether an option was given. -/
def has (s : Switch) (given : List Given) : Bool :=
  given.any fun g => g.1 == s

end CommandLine

/-- What the command is asked to do. -/
structure Command where
  squashfs : String
  hostname : String
  keyboard : String
  lang : String
  remove : String
  requests : Requests
  layout : Option String
  config : Option String
  testOnly : Bool
  asJson : Bool
  quiet : Bool

/-- The meaning of a list of arguments. -/
inductive CommandLine where
  | misused
  | version
  | help
  | impossiblePath
  | command (c : Command)

namespace CommandLine

/-- The requests that options make. -/
def requests (given : List Given) : Requests where
  disks := values .block given
  tables := values .newTable given
  deletes := values .delete given
  moves := values .move given
  reuses := values .use given
  creates := values .new given
  logicals := values .logical given

/-- The command that options make, none if one is missing. -/
def command? (given : List Given) : Option Command := do
  let squashfs ← value? .squashfs given
  let hostname ← value? .hostname given
  let keyboard ← value? .keyboard given
  let lang ← value? .lang given
  let remove ← value? .remove given
  guard (has .block given)
  return {
    squashfs := squashfs
    hostname := hostname
    keyboard := keyboard
    lang := lang
    remove := remove
    requests := requests given
    layout := value? .layout given
    config := value? .config given
    testOnly := has .test given
    asJson := has .json given
    quiet := has .quiet given }

/-- The files that a command reads. -/
def filesOf (c : Command) : List String :=
  c.layout.toList ++ c.config.toList

/-- What can be wrong with the value of an option: no file can have the path, or
    no file has it. -/
inductive PathFault where
  | impossible
  | missing
  deriving DecidableEq, Repr

/-- What is wrong with the value of an option, given which files exist. -/
def pathFault? (isFile : String → Bool) (s : Switch) (value : String) : Option PathFault :=
  if s.namesPath && Path.holdsNull value then some .impossible
  else if s.namesFile && !isFile value then some .missing
  else none

/-- The first fault in the values of options, in the order of the options. -/
def firstFault? (isFile : String → Bool) (given : List Given) : Option PathFault :=
  (given.map Prod.fst).findSome? fun s => (value? s given).bind (pathFault? isFile s)

/-- The option that answers at once, the first if both are given. -/
def answer? (given : List Given) : Option Switch :=
  (given.map Prod.fst).find? fun s => s == .version || s == .help

/-- The meaning of a list of arguments, given which files exist. -/
def parse (isFile : String → Bool) (args : List String) : CommandLine :=
  match scan args with
  | none => .misused
  | some (given, others) =>
    match answer? given with
    | some .version => .version
    | some _ => .help
    | none =>
      match firstFault? isFile given with
      | some .impossible => .impossiblePath
      | some .missing => .misused
      | none =>
        match command? given with
        | some c => if others.isEmpty then .command c else .misused
        | none => .misused

end CommandLine

end DiskPlan
