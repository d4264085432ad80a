import NodeScaler.Cli.Arguments
import NodeScaler.Cli.Report
import NodeScaler.Provider.Startup
import NodeScaler.Text.Quoted

/-!
# A run of the program

A run reads its arguments, starts up, and carries out one command. It ends with an exit
code: zero if all went well, one if something failed, two if the arguments are wrong. A
failure is reported in one line, from what the program was doing down to the first cause.
A line that is not JSON may go to a terminal, so it holds no controls that could steer one.
-/

namespace NodeScaler.Cli

/-- The name of the program. -/
def programName : String := "vsphere-autoscaler"

/-- Its version. -/
def version : String := "0.1.0"

/-- What a run finds around it. -/
structure Environment where
  /-- The contents of the file at a path. -/
  file : String → Except FileFailure (List UInt8)
  /-- The setting that selects the backend. -/
  backend : Option (List UInt8)
  /-- The time until the program is interrupted while it watches, if it is. -/
  interrupt : Option Duration

/-- How a run ends. -/
structure RunEnding where
  /-- The exit code. -/
  exitCode : Nat
  /-- What is written. -/
  output : String
  /-- The message of the failure, if there is one. -/
  failure : Option String
  /-- The message is written in JSON. -/
  logJson : Bool
deriving DecidableEq, Repr

/-- A failure: what was being done, and the causes behind it. -/
abbrev Failure := List String

/-- The message of a failure. -/
def failureText (failure : Failure) : String :=
  programName ++ " failed: " ++ ": ".intercalate failure

/-- How a character stands in a line for a terminal: bell, backspace, form feed, escape and
delete by their number, and likewise the controls beyond ASCII. -/
def terminalChar (c : Char) : List Char :=
  if ['\x07', '\x08', '\x0c', '\x1b', '\x7f'].contains c then
    ['\\', 'x', Nat.digitChar (c.toNat / 16), Nat.digitChar (c.toNat % 16)]
  else if Text.isWithin [(0x80, 0x9F)] c then
    ['\\', 'u', '\x7b'] ++ Text.hexadecimal c.toNat ++ ['\x7d']
  else [c]

/-- The line that reports a failure. In JSON every character can be told, and none is
replaced. -/
def failureLine (logJson : Bool) (failure : Failure) : String :=
  if logJson then failureText failure
  else String.ofList ((failureText failure).toList.flatMap terminalChar)

/-- A failure with what was being done in front. -/
def during (doing : String) (error : ProviderError) : Failure := doing :: error.chain

/-- What is given at the start. -/
def options (environment : Environment) (arguments : Arguments) : StartOptions where
  config := arguments.cloudConfig.map fun path => ⟨path, environment.file path⟩
  clusterName := arguments.clusterName
  specs := arguments.nodes
  backend := environment.backend
  limits := .none

/-- Finds the status of a group. -/
def groupStatus (provisioner : Provisioner Http) (group : NodeGroup) :
    Attempt (Targets.sum Http) Failure GroupStatus := do
  let nodes ← (group.nodes provisioner).right.mapError
    (during s!"could not get nodes of {group.spec.name}")
  return ⟨group.spec, ← ExceptT.lift group.target, nodes⟩

/-- Shows the node groups. -/
def status (running : Running) (format : String) : Attempt (Targets.sum Http) Failure String := do
  return reportText format (← running.provider.groups.mapM (groupStatus running.provisioner))

/-- Adds nodes to the first node group. -/
def scaleUp (running : Running) (delta : Int) : Attempt (Resizing Http) Failure String :=
  match running.provider.groups with
  | [] => throw ["no node group configured"]
  | group :: _ => do
    (group.increase running.provisioner delta).mapError
      (during s!"could not increase size of {group.spec.name}")
    return ""

/-- Watches until the program is interrupted. What the looks at the node groups find does
not change how the run ends. -/
def watch (interrupt : Option Duration) : Attempt (Resizing Http) Failure String :=
  match interrupt with
  | some after => do
    Attempt.pause after
    return ""
  | none => ExceptT.lift Plan.stall

/-- Carries out a command; the result is what is written. -/
def perform (environment : Environment) (running : Running) :
    Command → Attempt (Resizing Http) Failure String
  | .status format => (status running format).right
  | .scaleUp delta => scaleUp running delta
  | .watch _ => watch environment.interrupt

/-- Starts up and carries out the command. -/
def execute (environment : Environment) (arguments : Arguments) :
    Attempt (Resizing Http) Failure String := do
  let running ← ((options environment arguments).start.mapError
    (during "failed to create vsphere cloud provider")).right
  perform environment running arguments.command

/-- A run with given arguments. -/
def run (environment : Environment) (arguments : List String) :
    Plan (Resizing Http) RunEnding :=
  match Invocation.ofArguments arguments with
  | .misuse => return ⟨2, "", none, false⟩
  | .help => return ⟨0, "", none, false⟩
  | .version => return ⟨0, programName ++ " " ++ version ++ "\n", none, false⟩
  | .run arguments => do
    match ← (execute environment arguments).run with
    | .ok output => return ⟨0, output, none, arguments.logJson⟩
    | .error failure => return ⟨1, "", some (failureLine arguments.logJson failure),
        arguments.logJson⟩

end NodeScaler.Cli
