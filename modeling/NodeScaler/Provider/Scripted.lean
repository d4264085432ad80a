import NodeScaler.Plan.Run
import NodeScaler.Provider.Provisioner

/-!
# Scripted provisioners

A scripted provisioner answers every kind of call from a list of prepared replies. A call
takes the first reply off its list, except that the last one stays; an empty list answers
with nothing. A reply may take its time. Calls are noted when they begin, and noted again
when they end if they took time.
-/

namespace NodeScaler

/-- A prepared reply. -/
structure Reply (α : Type) where
  /-- The time that passes before it is given. -/
  delay : Duration
  /-- What is given. -/
  result : Except ProviderError α

namespace Scripted

/-- A call to a provisioner. -/
inductive Call where
  /-- The number of members of a group. -/
  | size (group : String)
  /-- To make machines for a group. -/
  | create (group : String) (count : Nat)
  /-- The provider identifiers of the members of a group. -/
  | nodes (group : String)
  /-- The names of the members of a group. -/
  | names (group : String)
deriving DecidableEq, Repr

/-- The type of what a call gives. -/
abbrev Call.Value : Call → Type
  | size _ => Nat
  | create _ _ => Unit
  | nodes _ => List String
  | names _ => List String

/-- A call in words. -/
def Call.text : Call → String
  | size group => s!"size {group}"
  | create group count => s!"create {group} {count}"
  | nodes group => s!"nodes {group}"
  | names group => s!"names {group}"

/-- What is asked of a script. -/
inductive Question where
  /-- The reply to a call that begins. -/
  | begin (call : Call)
  /-- To note that a call has ended. -/
  | finish (call : Call)

/-- Calls begin and end. -/
abbrev interface : Interface where
  Question := Question
  Answer
    | .begin call => Reply call.Value
    | .finish _ => Unit

/-- The prepared replies, and what has been noted. -/
structure Script where
  /-- Numbers of members. -/
  sizes : List (Reply Nat)
  /-- Outcomes of making machines. -/
  creates : List (Reply Unit)
  /-- Provider identifiers. -/
  nodes : List (Reply (List String))
  /-- Names. -/
  names : List (Reply (List String))
  /-- The calls noted so far. -/
  calls : List String

/-- The first reply of a list, and the list after it is given. -/
def take {α : Type} (nothing : α) : List (Reply α) → Reply α × List (Reply α)
  | [] => (⟨.zero, .ok nothing⟩, [])
  | [last] => (last, [last])
  | first :: rest => (first, rest)

/-- The reply to a call. -/
def Script.reply (script : Script) : (call : Call) → Reply call.Value × Script
  | .size _ =>
    let (reply, sizes) := take 0 script.sizes
    (reply, { script with sizes })
  | .create _ _ =>
    let (reply, creates) := take () script.creates
    (reply, { script with creates })
  | .nodes _ =>
    let (reply, nodes) := take [] script.nodes
    (reply, { script with nodes })
  | .names _ =>
    let (reply, names) := take [] script.names
    (reply, { script with names })

/-- Notes a line. -/
def Script.note (line : String) (script : Script) : Script :=
  { script with calls := script.calls ++ [line] }

/-- The calls noted so far, which are then forgotten. -/
def Script.takeCalls (script : Script) : List String × Script :=
  (script.calls, { script with calls := [] })

/-- Answers from a script. -/
def answer : Handler interface Script
  | .begin call, script => (script.note call.text).reply call
  | .finish call, script => ((), script.note ("done " ++ call.text))

/-- Makes a call. -/
def call (call : Call) : Attempt interface ProviderError call.Value := .mk do
  let reply : Reply call.Value ← Plan.question (I := interface) (.begin call)
  if reply.delay.nanoseconds = 0 then return reply.result
  Plan.pause reply.delay
  Plan.question (I := interface) (.finish call)
  return reply.result

/-- The provisioner that answers from a script. -/
def provisioner : Provisioner interface where
  size group := call (.size group)
  create group count := call (.create group count)
  nodes group := call (.nodes group)
  names group := call (.names group)

end Scripted

end NodeScaler
