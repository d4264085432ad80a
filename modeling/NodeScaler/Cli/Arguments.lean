import NodeScaler.Text.Integer

/-!
# Arguments of the command line

Arguments are options and one command. Options that concern every command may stand in
front of the command or behind it; behind it they count more. A value stands behind an equals
sign or is the next argument, which then must not look like an option. An option may be given
once on each side of the command; only discovery strings add up. Asking for the version or
for help ends the reading on the spot, and so does the first mistake.
-/

namespace NodeScaler.Cli

/-- What the program is told to do. -/
inductive Command where
  /-- To show the node groups, in a format. -/
  | status (format : String)
  /-- To add nodes to the node group. -/
  | scaleUp (delta : Int)
  /-- To look at the node groups every so many seconds. -/
  | watch (interval : Nat)
deriving DecidableEq, Repr

/-- What the arguments say. -/
structure Arguments where
  /-- The path of the cloud config. -/
  cloudConfig : Option String
  /-- The cluster name for a cloud config that has none. -/
  clusterName : Option String
  /-- The discovery strings. -/
  nodes : List String
  /-- Messages are written in JSON. -/
  logJson : Bool
  /-- The command. -/
  command : Command
deriving DecidableEq, Repr

/-- How the reading of arguments ends. -/
inductive Invocation where
  /-- There is something to do. -/
  | run (arguments : Arguments)
  /-- The version is asked for. -/
  | version
  /-- Help is asked for. -/
  | help
  /-- There is a mistake. -/
  | misuse
deriving DecidableEq, Repr

/-! ## Options -/

/-- The side of the command on which an argument stands, with the command behind it. -/
inductive Level where
  /-- In front of the command. -/
  | root
  /-- Behind `status`. -/
  | status
  /-- Behind `scale-up`. -/
  | scaleUp
  /-- Behind `watch`. -/
  | watch
deriving DecidableEq, Repr

/-- The options with a value. -/
inductive Valued where
  /-- The path of the cloud config. -/
  | cloudConfig
  /-- The cluster name. -/
  | clusterName
  /-- A discovery string. -/
  | nodes
  /-- The format of the status. -/
  | format
  /-- The number of nodes to add. -/
  | delta
  /-- The seconds between two looks. -/
  | interval
deriving DecidableEq, Repr

/-- All options. -/
inductive Switch where
  /-- An option with a value. -/
  | valued (option : Valued)
  /-- Messages in JSON. -/
  | logJson
  /-- The version. -/
  | version
  /-- Help. -/
  | help
deriving DecidableEq, Repr

/-- The option of a long name. -/
def long? : Level → String → Option Switch
  | _, "cloud-config" => some (.valued .cloudConfig)
  | _, "cluster-name" => some (.valued .clusterName)
  | _, "nodes" => some (.valued .nodes)
  | _, "log-json" => some .logJson
  | _, "help" => some .help
  | .root, "version" => some .version
  | .status, "format" => some (.valued .format)
  | .scaleUp, "delta" => some (.valued .delta)
  | .watch, "interval" => some (.valued .interval)
  | _, _ => none

/-- The option of a letter. -/
def short? : Level → Char → Option Switch
  | _, 'h' => some .help
  | .root, 'V' => some .version
  | .status, 'f' => some (.valued .format)
  | _, _ => none

/-- The command of a name. -/
def level? : String → Option Level
  | "status" => some .status
  | "scale-up" => some .scaleUp
  | "watch" => some .watch
  | _ => none

/-! ## Values -/

/-- The options given on one side of the command. -/
structure Given where
  /-- The path of the cloud config. -/
  cloudConfig : Option String
  /-- The cluster name. -/
  clusterName : Option String
  /-- The discovery strings. -/
  nodes : List String
  /-- Messages in JSON. -/
  logJson : Bool
  /-- The format of the status. -/
  format : Option String
  /-- The number of nodes to add. -/
  delta : Option Int
  /-- The seconds between two looks. -/
  interval : Option Nat
deriving DecidableEq, Repr

namespace Given

/-- No option is given. -/
def nothing : Given := ⟨none, none, [], false, none, none, none⟩

/-- Adds the value of an option. A path must not be empty, numbers must be numbers of their
width, and the seconds at least one. -/
def add (given : Given) (value : String) : Valued → Option Given
  | .cloudConfig =>
    if given.cloudConfig.isSome || value = "" then none
    else some { given with cloudConfig := some value }
  | .clusterName =>
    if given.clusterName.isSome then none else some { given with clusterName := some value }
  | .nodes => some { given with nodes := given.nodes ++ [value] }
  | .format => if given.format.isSome then none else some { given with format := some value }
  | .delta => do
    guard given.delta.isNone
    return { given with delta := some (← Text.readSigned? 32 value.toList) }
  | .interval => do
    guard given.interval.isNone
    let seconds ← Text.readUnsigned? 64 value.toList
    guard (0 < seconds)
    return { given with interval := some seconds }

/-- The format of the status, unless another is given. -/
def defaultFormat : String := "text"

/-- The seconds between two looks, unless others are given. -/
def defaultInterval : Nat := 10

/-- The command with its options, if all that it needs are given. -/
def command? (given : Given) : Level → Option Command
  | .root => none
  | .status => some (.status (given.format.getD defaultFormat))
  | .scaleUp => given.delta.map .scaleUp
  | .watch => some (.watch (given.interval.getD defaultInterval))

/-- The arguments from both sides of the command. -/
def arguments (front back : Given) (command : Command) : Arguments where
  cloudConfig := back.cloudConfig.or front.cloudConfig
  clusterName := back.clusterName.or front.clusterName
  nodes := if back.nodes.isEmpty then front.nodes else back.nodes
  logJson := front.logJson || back.logJson
  command := command

end Given

/-! ## Reading -/

/-- What a single argument is. -/
inductive Shape where
  /-- The end of the options. -/
  | divider
  /-- A long option, perhaps with a value. -/
  | long (name : String) (value : Option String)
  /-- Letters behind a hyphen: the first one and the rest. -/
  | short (letter : Char) (rest : List Char)
  /-- Anything else. -/
  | word
deriving DecidableEq, Repr

/-- The shape of an argument. A single hyphen is a word. -/
def shape (argument : String) : Shape :=
  match argument.toList with
  | ['-', '-'] => .divider
  | '-' :: '-' :: rest =>
    let value := match rest.dropWhile (· ≠ '=') with
      | _ :: value => some (String.ofList value)
      | [] => none
    .long (String.ofList (rest.takeWhile (· ≠ '='))) value
  | '-' :: letter :: rest => .short letter rest
  | _ => .word

/-- The value that is attached to a letter. -/
def attached : List Char → Option String
  | [] => none
  | '=' :: value => some (String.ofList value)
  | value => some (String.ofList value)

/-- What is known while arguments are read. -/
structure Progress where
  /-- The side of the command. -/
  level : Level
  /-- The options in front of the command. -/
  front : Given
  /-- The options on this side. -/
  given : Given
  /-- The option whose value comes next. -/
  pending : Option Valued
deriving DecidableEq, Repr

/-- Takes an option, with the value attached to it, if any. -/
def takeOption (progress : Progress) (value : Option String) :
    Switch → Except Invocation Progress
  | .valued option =>
    match value with
    | none => .ok { progress with pending := some option }
    | some value =>
      match progress.given.add value option with
      | some given => .ok { progress with given }
      | none => .error .misuse
  | .logJson =>
    if value.isSome || progress.given.logJson then .error .misuse
    else .ok { progress with given := { progress.given with logJson := true } }
  | .version => .error (if value.isSome then .misuse else .version)
  | .help => .error (if value.isSome then .misuse else .help)

/-- Takes an option of one letter; for an option without value, what follows the letter does
not matter any more. -/
def takeLetter (progress : Progress) (rest : List Char) : Switch → Except Invocation Progress
  | .valued option => takeOption progress (attached rest) (.valued option)
  | switch => takeOption progress none switch

/-- Takes the value of the option that waits for it. -/
def takeValue (progress : Progress) (option : Valued) (argument : String) :
    Except Invocation Progress :=
  match shape argument, progress.given.add argument option with
  | .word, some given => .ok { progress with given, pending := none }
  | _, _ => .error .misuse

/-- How the reading ends at the last argument. -/
def finish (progress : Progress) : Invocation :=
  match progress.pending, progress.given.command? progress.level with
  | none, some command => .run (progress.front.arguments progress.given command)
  | _, _ => .misuse

/-- How the reading ends behind the word `help`: a command may follow it. -/
def finishHelp : List String → Invocation
  | [] => .help
  | [name] => if (level? name).isSome || name = "help" then .help else .misuse
  | _ => .misuse

/-- Reads arguments. -/
def read (progress : Progress) : List String → Invocation
  | [] => finish progress
  | argument :: rest =>
    match progress.pending with
    | some option =>
      match takeValue progress option argument with
      | .ok progress => read progress rest
      | .error ending => ending
    | none =>
      match shape argument with
      | .divider => if rest.isEmpty then finish progress else .misuse
      | .long name value =>
        match (long? progress.level name).map (takeOption progress value) with
        | some (.ok progress) => read progress rest
        | some (.error ending) => ending
        | none => .misuse
      | .short letter letters =>
        match (short? progress.level letter).map (takeLetter progress letters) with
        | some (.ok progress) => read progress rest
        | some (.error ending) => ending
        | none => .misuse
      | .word =>
        if progress.level = .root then
          match level? argument with
          | some level => read ⟨level, progress.given, .nothing, none⟩ rest
          | none => if argument = "help" then finishHelp rest else .misuse
        else .misuse

/-- Reads all arguments of the command line. -/
def Invocation.ofArguments (arguments : List String) : Invocation :=
  read ⟨.root, .nothing, .nothing, none⟩ arguments

end NodeScaler.Cli
