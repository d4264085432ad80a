import NodeScaler.Cli.Run
import NodeScaler.Http.Redirect

/-!
# The program

The outermost layer reads the arguments, the environment and the cloud config, and writes
what a run has to say.

It has no connection to a network, so every request ends in a connection that breaks, and a run
gets no further than the login. What lies behind the login is run against scripted servers only,
in memory.
-/

namespace NodeScaler.Cli

/-- The failure of a file for an error of the operating system. -/
def fileFailure : IO.Error → FileFailure
  | .noFileOrDirectory .. => .missing
  | .inappropriateType _ 21 _ => .directory
  | .permissionDenied _ code words | .inappropriateType _ code words
  | .invalidArgument _ code words | .noSuchThing _ code words | .resourceExhausted _ code words
  | .resourceBusy code words | .hardwareFault code words | .otherError code words =>
    .other words code.toNat
  | failure => .other (toString failure) 0

/-- Reads the file at a path. -/
def readFile (path : String) : IO (Except FileFailure (List UInt8)) := do
  try
    return .ok (← IO.FS.readBinFile path).toList
  catch failure => return .error (fileFailure failure)

/-- The message of a failure as it is written. -/
def logLine (inJson : Bool) (message : String) : String :=
  if inJson then
    (Json.Value.ofFields [("level", .ofText "ERROR"), ("message", .ofText message)]).text
  else "ERROR " ++ message

/-- Finds what a run needs to know; the file is read beforehand. -/
def findEnvironment (arguments : List String) : IO Environment := do
  let backend ← IO.getEnv Backend.variableName
  let path := match Invocation.ofArguments arguments with
    | .run arguments => arguments.cloudConfig
    | _ => none
  let contents ← match path with
    | some path => readFile path
    | none => pure (.error .missing)
  return {
    file := fun _ => contents
    backend := backend.map fun setting => setting.toUTF8.toList
    interrupt := none }

/-- Every connection breaks. -/
def disconnected : Handler Wire Unit := fun _ state => (.broken .zero, state)

end NodeScaler.Cli

open NodeScaler in
/-- Runs the program. -/
def main (arguments : List String) : IO UInt32 := do
  let environment ← Cli.findEnvironment arguments
  let client := (Redirects.standard Redirects.wholeAddress).client Cli.disconnected
  let handler := Locking.uncontended.sum (Targets.answer.sum client)
  match ((Cli.run environment arguments).run handler ((), [], ())).value with
  | none => return 1
  | some ending =>
    IO.print ending.output
    match ending.failure with
    | some message => IO.println (Cli.logLine ending.logJson message)
    | none => pure ()
    return UInt32.ofNat ending.exitCode
