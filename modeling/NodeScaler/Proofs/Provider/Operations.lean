import NodeScaler.Proofs.Inventory.Told
import NodeScaler.Proofs.Provider.Agreement
import NodeScaler.Proofs.Provider.Asking
import NodeScaler.Proofs.Provider.Increasing
import NodeScaler.Provider.Startup

/-!
# Programs over a connected cluster

Once a session is there, the inventory, the members of groups, the provisioner, the node groups and
the whole provider can be used in any order. A program does so: each of its steps may depend on
what the earlier ones have come to. However it goes, a program asks nothing but what the client
behind it asks for one of its five calls.
-/

namespace NodeScaler

open Plan (Asks)

/-! ## Operations -/

/-- What a call of a client comes to. -/
abbrev Told.Question.Value : Told.Question → Type
  | .resolve _ => RefSet
  | .attach _ _ => Unit
  | .name _ => String
  | .uuid _ => String
  | .clone _ => ObjectRef

/-- Makes a call to a client. -/
def InventoryClient.perform {I : Interface} (client : InventoryClient I) :
    (call : Told.Question) → Attempt I InventoryError call.Value
  | .resolve tag => client.resolve tag
  | .attach tag object => client.attach tag object
  | .name object => client.name object
  | .uuid object => client.uuid object
  | .clone request => client.clone request

/-- What can be done with a connected cluster. -/
inductive Operation where
  /-- A call to the inventory. -/
  | inventory (call : Told.Question)
  /-- The members of a group. -/
  | members (group : String)
  /-- The number of members of a group. -/
  | count (group : String)
  /-- A call to the provisioner. -/
  | provision (call : Scripted.Call)
  /-- A node group with a given target. -/
  | newGroup (spec : GroupSpec) (target : Nat)
  /-- A node group whose target is the number of its members. -/
  | discoverGroup (spec : GroupSpec)
  /-- The target of a node group. -/
  | target (group : NodeGroup)
  /-- The provider identifiers of the members of a node group. -/
  | nodes (group : NodeGroup)
  /-- More machines for a node group. -/
  | increase (group : NodeGroup) (delta : Int)
  /-- A provider of one node group. -/
  | discover (spec : GroupSpec) (limits : ResourceLimits)

/-- Operations, with what each of them comes to. -/
abbrev Operations : Interface where
  Question := Operation
  Answer
    | .inventory call => Except InventoryError call.Value
    | .members _ => Except ProviderError RefSet
    | .count _ => Except ProviderError Nat
    | .provision call => Except ProviderError call.Value
    | .newGroup _ _ => NodeGroup
    | .discoverGroup _ => Except ProviderError NodeGroup
    | .target _ => Nat
    | .nodes _ => Except ProviderError (List String)
    | .increase _ _ => Except ProviderError Unit
    | .discover _ _ => Except ProviderError Provider

variable {I : Interface}

/-- Carries out one operation of a cluster through a client. -/
def Operation.perform (cloning : Cloning) (client : InventoryClient I) :
    (operation : Operation) → Plan (Resizing I) (Operations.Answer operation)
  | .inventory call => (client.perform call).run.right.right
  | .members group => ((cloning.membership client).members group).run.right.right
  | .count group => ((cloning.membership client).count group).run.right.right
  | .provision call => (Cloning.perform (cloning.provisioner client) call).run.right.right
  | .newGroup spec size => (NodeGroup.new spec size).right
  | .discoverGroup spec => (NodeGroup.discover (cloning.provisioner client) spec).run.right
  | .target group => group.target.right
  | .nodes group => (group.nodes (cloning.provisioner client)).run.right.right
  | .increase group delta => (group.increase (cloning.provisioner client) delta).run
  | .discover spec limits => (Provider.discover (cloning.provisioner client) spec limits).run.right

/-- Carries out a plan, each question by a plan of its own. -/
def Plan.through {J : Interface} {α : Type}
    (answer : (question : I.Question) → Plan J (I.Answer question)) : Plan I α → Plan J α
  | done value => done value
  | ask question next => answer question >>= fun found => (next found).through answer
  | wait span next => wait span (next.through answer)
  | stall => stall

/-- Logs in to the platform of a cluster and runs a program over it. -/
def Cluster.serve {α : Type} (cluster : Cluster) (program : Plan Operations α) :
    Attempt (Resizing Http) InventoryError α := do
  let session ← (StartOptions.connect cluster).right.right
  ExceptT.lift (program.through (Operation.perform cluster.cloning session.client))

/-! ## What operations ask -/

/-- A plan asks nothing but what the plans for its questions ask. -/
theorem Plan.asks_through {J : Interface} {α : Type} {allowed : J.Question → Prop}
    {answer : (question : I.Question) → Plan J (I.Answer question)}
    (asks : ∀ question, (answer question).Asks allowed True) (plan : Plan I α) :
    (plan.through answer).Asks allowed True := by
  induction plan with
  | done value => exact .done value
  | ask question next inductionHypothesis => exact (asks question).bind inductionHypothesis
  | wait span next inductionHypothesis => exact .wait inductionHypothesis
  | stall => exact .stall trivial

variable {client : InventoryClient I} {allowed : I.Question → Prop}

/-- Every call asks only what is allowed. -/
theorem InventoryClient.Keeps.perform (keeps : client.Keeps allowed) (call : Told.Question) :
    (client.perform call).run.Asks allowed True := by
  cases call with
  | resolve tag => exact (keeps.resolve tag).widen (fun _ => id) False.elim
  | attach tag object => exact (keeps.attach tag object).widen (fun _ => id) False.elim
  | name object => exact (keeps.name object).widen (fun _ => id) False.elim
  | uuid object => exact (keeps.uuid object).widen (fun _ => id) False.elim
  | clone request => exact keeps.clone request

namespace Cloning

/-- Every call to the provisioner asks only what is allowed, and has an end. -/
theorem perform_asks (keeps : client.Keeps allowed) (cloning : Cloning) (call : Scripted.Call) :
    (perform (cloning.provisioner client) call).run.Asks allowed False := by
  cases call with
  | size group => exact count_asks keeps cloning group
  | create group count => exact create_asks keeps cloning group count
  | nodes group => exact (nodes_harmless (lookups_of_keeps keeps) cloning group).asks
  | names group => exact (names_harmless (lookups_of_keeps keeps) cloning group).asks

end Cloning

namespace NodeGroup

variable {provisioner : Provisioner I} {stalls : Prop}

/-- What may be asked beside the targets: anything about them, and of the provisioner what is
allowed. -/
abbrev Beside (allowed : I.Question → Prop) : (Targets.sum I).Question → Prop :=
  Sum.elim (fun _ => True) allowed

/-- The same where there is a lock, about which anything may be asked. -/
abbrev BesideLock (allowed : I.Question → Prop) : (Resizing I).Question → Prop :=
  Sum.elim (fun _ => True) (Beside allowed)

/-- A resize asks what looking at the group and making machines ask. -/
theorem resize_asks (group : NodeGroup) (delta : Int)
    (size : (provisioner.size group.spec.name).run.Asks allowed stalls)
    (create : ∀ count, (provisioner.create group.spec.name count).run.Asks allowed stalls) :
    (group.resize provisioner delta).run.Asks (Beside allowed) stalls := by
  rw [resize_run]
  split
  · exact .done _
  · refine size.right.bind fun found => ?_
    cases found with
    | error error => exact .done _
    | ok found =>
      dsimp only
      split
      · exact .done _
      · refine .ask (I := Targets.sum I) trivial fun previous => ?_
        refine .ask (I := Targets.sum I) trivial fun _ => ?_
        have settles (result : Except ProviderError Unit) :
            (group.settle previous result : Plan (Targets.sum I) _).Asks (Beside allowed) stalls := by
          cases result with
          | ok => exact .done _
          | error error => exact .ask (I := Targets.sum I) trivial fun _ => .done _
        exact (create _).right.bind settles

/-- Discovering a group asks what looking at it asks. -/
theorem discover_asks (spec : GroupSpec) (size : (provisioner.size spec.name).run.Asks allowed stalls) :
    (discover provisioner spec).run.Asks (Beside allowed) stalls := by
  have looks : ((provisioner.size spec.name).right : Attempt (Targets.sum I) _ _).run.Asks
      (Beside allowed) stalls := size.right
  refine looks.attempt fun _ => ?_
  exact .ask (I := Targets.sum I) trivial fun _ => .done _

end NodeGroup

/-- Every operation asks only what is allowed of the client. -/
theorem Operation.asks (keeps : client.Keeps allowed) (cloning : Cloning) (operation : Operation) :
    (operation.perform cloning client).Asks (NodeGroup.BesideLock allowed) True := by
  have ends {J : Interface} {β : Type} {permitted : J.Question → Prop} {plan : Plan J β}
      (asks : plan.Asks permitted False) : plan.Asks permitted True :=
    asks.widen (fun _ => id) False.elim
  have size (group : String) :
      ((cloning.provisioner client).size group).run.Asks allowed False :=
    Cloning.count_asks keeps cloning group
  cases operation with
  | inventory call => exact (keeps.perform call).right.right
  | members group =>
    exact (ends (Cloning.members_harmless (Cloning.lookups_of_keeps keeps) cloning group).asks).right.right
  | count group => exact (ends (size group)).right.right
  | provision call => exact (ends (Cloning.perform_asks keeps cloning call)).right.right
  | newGroup spec target =>
    exact Asks.right (.ask (I := Targets.sum I) trivial fun _ => .done _)
  | discoverGroup spec => exact (ends (NodeGroup.discover_asks spec (size _))).right
  | target group => exact Asks.right (.ask (I := Targets.sum I) trivial fun _ => .done _)
  | nodes group =>
    exact (ends (Cloning.nodes_harmless (Cloning.lookups_of_keeps keeps) cloning _).asks).right.right
  | increase group delta =>
    have create (count : Nat) :
        ((cloning.provisioner client).create group.spec.name count).run.Asks allowed False :=
      Cloning.create_asks keeps cloning group.spec.name count
    have resize := ends (NodeGroup.resize_asks group delta (size _) create)
    refine .ask (I := Resizing I) trivial fun _ => ?_
    refine resize.right.bind fun result => ?_
    exact .ask (I := Resizing I) trivial fun _ => .done _
  | discover spec limits =>
    have discovered := ends (NodeGroup.discover_asks spec (size spec.name))
    exact Asks.right (Asks.attempt discovered fun _ => .done _)

end NodeScaler
