import NodeScaler.Proofs.Provider.Reading

/-!
# What a provisioner asks

A provisioner asks nothing but what the client behind it asks. A clone may wait for ever by itself,
but machines are made with a deadline, so every call to the provisioner has an end.
-/

namespace NodeScaler

open Plan (Asks)

variable {I : Interface} {client : InventoryClient I} {allowed : I.Question → Prop}

/-- The calls of a client ask only what is allowed. None but a clone may wait for ever. -/
structure InventoryClient.Keeps (client : InventoryClient I) (allowed : I.Question → Prop) :
    Prop where
  /-- Finding the objects that carry a tag. -/
  resolve (tag : String) : (client.resolve tag).run.Asks allowed False
  /-- Attaching a tag. -/
  attach (tag : String) (object : ObjectRef) : (client.attach tag object).run.Asks allowed False
  /-- Reading a name. -/
  name (object : ObjectRef) : (client.name object).run.Asks allowed False
  /-- Reading a BIOS UUID. -/
  uuid (object : ObjectRef) : (client.uuid object).run.Asks allowed False
  /-- Making a machine. -/
  clone (request : CloneRequest) : (client.clone request).run.Asks allowed True

namespace Cloning

/-- The lookups of such a client are harmless. -/
theorem lookups_of_keeps (keeps : client.Keeps allowed) : Lookups client allowed :=
  .ofAsks keeps.resolve keeps.name keeps.uuid

/-- Making one machine asks only what is allowed, and has an end. -/
theorem make_asks (keeps : client.Keeps allowed) (cloning : Cloning) (group name : String) :
    (cloning.make client group name).run.Asks allowed False := by
  have tags (object : ObjectRef) (names : List String) :
      (tag client object names).run.Asks allowed False := by
    induction names with
    | nil => exact .done _
    | cons first rest inductionHypothesis =>
      exact (keeps.attach first object).attempt fun _ => inductionHypothesis
  exact ((keeps.clone _).attemptWithin _ _).attempt fun object => tags object _

/-- So does passing over names that are taken. -/
theorem makeNext_asks (keeps : client.Keeps allowed) (cloning : Cloning) (group : String)
    (collisions number : Nat) : (cloning.makeNext client group collisions number).Asks allowed False := by
  induction collisions generalizing number with
  | zero => exact (make_asks keeps cloning group _).bind fun _ => .done _
  | succ collisions inductionHypothesis =>
    refine (make_asks keeps cloning group _).bind fun result => ?_
    split
    · exact inductionHypothesis (following number)
    · exact .done _

/-- So does making several machines. -/
theorem makeAll_asks (keeps : client.Keeps allowed) (cloning : Cloning) (group : String)
    (count collisions number : Nat) :
    (cloning.makeAll client group count collisions number).Asks allowed False := by
  induction count generalizing collisions number with
  | zero => exact .done _
  | succ count inductionHypothesis =>
    refine (makeNext_asks keeps cloning group collisions number).bind fun outcome => ?_
    exact (inductionHypothesis _ _).bind fun _ => .done _

/-- So does a call for machines. -/
theorem create_asks (keeps : client.Keeps allowed) (cloning : Cloning) (group : String) (count : Nat) :
    (cloning.create client group count).run.Asks allowed False := by
  have names := (names_harmless (lookups_of_keeps keeps) cloning group).asks
  exact names.attempt fun _ => (makeAll_asks keeps cloning group count _ _).bind fun _ => .done _

/-- So does counting the members of a group. -/
theorem count_asks (keeps : client.Keeps allowed) (cloning : Cloning) (group : String) :
    ((cloning.membership client).count group).run.Asks allowed False := by
  have members := (members_harmless (lookups_of_keeps keeps) cloning group).asks
  exact members.attempt fun _ => .done _

end Cloning

end NodeScaler
