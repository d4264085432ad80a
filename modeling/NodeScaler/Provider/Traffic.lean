import NodeScaler.Provider.NodeGroup

/-!
# Traffic on node groups

Several callers resize groups at times of their own, and an observer looks at all groups
meanwhile, one group after the other. A resize takes the lock of all groups; a look takes no
lock and may see a group in the middle of a resize. A look that takes long delays the next.
-/

namespace NodeScaler

/-- A resize at a time. -/
structure ResizeCall where
  /-- The group. -/
  group : NodeGroup
  /-- The number of machines asked for. -/
  delta : Int
  /-- The time until the call. -/
  after : Duration

/-- What is seen of a group: the target, and the number of members if it can be had. -/
structure Glimpse where
  /-- The target. -/
  target : Nat
  /-- The number of members. -/
  nodes : Option Nat
deriving DecidableEq, Repr

/-- What comes of the traffic. -/
inductive TrafficEvent where
  /-- A resize has ended, and the target of its group right after. -/
  | resized (result : Except ProviderError Unit) (target : Nat)
  /-- The observer has seen the groups, so many times. -/
  | seen (looks : List (List Glimpse))

namespace Traffic

variable {I : Interface}

/-- Waits, resizes a group, and reads its target. -/
def resize (provisioner : Provisioner I) (call : ResizeCall) : Plan (Resizing I) TrafficEvent := do
  Plan.pause call.after
  let result ← (call.group.increase provisioner call.delta).run
  return .resized result (← call.group.target.right)

/-- Looks at a group. -/
def glimpse (provisioner : Provisioner I) (group : NodeGroup) : Plan (Targets.sum I) Glimpse := do
  let target ← group.target
  let nodes ← (group.nodes provisioner).run.right
  return ⟨target, nodes.toOption.map List.length⟩

/-- Looks at all groups at given instants of a time that has already run for a while. An
instant that is over by then is now. -/
def looks (provisioner : Provisioner I) (groups : List NodeGroup) :
    Duration → List Duration → Plan (Targets.sum I) (List (List Glimpse))
  | _, [] => return []
  | now, instant :: later => do
    let look : Plan (Targets.sum I) (List Glimpse) := do
      Plan.pause (instant.less now)
      groups.mapM (glimpse provisioner)
    let (glimpses, now) ← look.timed now
    return glimpses :: (← looks provisioner groups now later)

/-- Observes all groups at given instants. -/
def observe (provisioner : Provisioner I) (groups : List NodeGroup) (instants : List Duration) :
    Plan (Resizing I) TrafficEvent :=
  .seen <$> (looks provisioner groups .zero instants).right

/-- The plans of the observer and of all callers, the observer first. -/
def plans (provisioner : Provisioner I) (groups : List NodeGroup) (calls : List ResizeCall)
    (instants : List Duration) : List (Plan (Resizing I) TrafficEvent) :=
  observe provisioner groups instants :: calls.map (resize provisioner)

/-- Lets the traffic run to its end. -/
def complete {σ : Type} (provisioner : Provisioner I) (handler : Handler (Targets.sum I) σ)
    (groups : List NodeGroup) (calls : List ResizeCall) (instants : List Duration) (state : σ) :
    Concurrent (Targets.sum I) σ TrafficEvent :=
  (Concurrent.start (plans provisioner groups calls instants) state).complete handler

end Traffic

end NodeScaler
