import NodeScaler.Proofs.Plan.Asking
import NodeScaler.Provider.Cloning
import NodeScaler.Provider.NodeGroup

/-!
# Reading about groups

Whatever client a provisioner has, its questions about the members of a group are only those of
the client's lookups: who carries a tag, and what a machine is called. A failure of a lookup is
no partial provisioning, and tells of no machine. What a call for machines tells is its account.
-/

namespace NodeScaler.Cloning

open Plan (OnlyFails)

variable {I : Interface} {client : InventoryClient I} {harmless : I.Question → Prop}

/-- The lookups of a client are harmless. -/
structure Lookups (client : InventoryClient I) (harmless : I.Question → Prop) : Prop where
  /-- Finding the objects that carry a tag. -/
  resolve (tag : String) : (client.resolve tag).run.Harmless harmless (OnlyFails fun _ => True)
  /-- Reading a name. -/
  name (object : ObjectRef) : (client.name object).run.Harmless harmless (OnlyFails fun _ => True)
  /-- Reading a BIOS UUID. -/
  uuid (object : ObjectRef) : (client.uuid object).run.Harmless harmless (OnlyFails fun _ => True)

/-- Lookups that ask only what does no harm, and do not stall, are harmless. -/
theorem Lookups.ofAsks (resolve : ∀ tag, (client.resolve tag).run.Asks harmless False)
    (name : ∀ object, (client.name object).run.Asks harmless False)
    (uuid : ∀ object, (client.uuid object).run.Asks harmless False) : Lookups client harmless where
  resolve tag := (resolve tag).harmlessAttempt
  name object := (name object).harmlessAttempt
  uuid object := (uuid object).harmlessAttempt

/-- A failure that leaves no machine behind. -/
def Idle (error : ProviderError) : Prop := error.created = 0

/-- The members of a group are only looked up. -/
theorem members_harmless (lookups : Lookups client harmless) (cloning : Cloning) (group : String) :
    ((cloning.membership client).members group).run.Harmless harmless (OnlyFails Idle) := by
  have carriers (tag : String) :
      ((cloning.membership client).carriers tag).run.Harmless harmless (OnlyFails Idle) :=
    (lookups.resolve tag).mapError fun _ _ => rfl
  apply Plan.Harmless.attempt (Plan.Harmless.both (carriers _) (carriers _))
  exact fun found => trivial

/-- Something about each of some objects is only looked up. -/
theorem each_harmless {α : Type} {read : ObjectRef → Attempt I InventoryError α}
    (safe : ∀ object, (read object).run.Harmless harmless (OnlyFails fun _ => True))
    (objects : List ObjectRef) : (each read objects).run.Harmless harmless (OnlyFails Idle) :=
  .mapM fun object _ => (safe object).mapError fun _ _ => rfl

/-- The names of the members of a group are only looked up. -/
theorem names_harmless (lookups : Lookups client harmless) (cloning : Cloning) (group : String) :
    (cloning.names client group).run.Harmless harmless (OnlyFails Idle) := by
  apply Plan.Harmless.attempt (members_harmless lookups cloning group)
  exact fun members => each_harmless lookups.name _

/-- The provider identifiers of the members of a group are only looked up. -/
theorem nodes_harmless (lookups : Lookups client harmless) (cloning : Cloning) (group : String) :
    (cloning.nodes client group).run.Harmless harmless (OnlyFails Idle) := by
  apply Plan.Harmless.attempt (members_harmless lookups cloning group)
  intro members
  apply Plan.Harmless.attempt (each_harmless lookups.uuid _)
  exact fun identifiers => trivial

/-! ## What a call tells -/

/-- What an attempt at a machine is worth. -/
def gain {α : Type} : Except InventoryError α → Nat
  | .ok _ => 1
  | .error _ => 0

/-- An attempt makes at most one machine. -/
theorem gain_le_one {α : Type} (result : Except InventoryError α) : gain result ≤ 1 := by
  unfold gain
  split <;> omega

/-- Every outcome counts once, as a machine or as a failure. -/
theorem add_gain (cloning : Cloning) (group : String) (outcome : Outcome) (later : Account) :
    (later.add cloning group outcome).created = gain outcome.result + later.created ∧
      (later.add cloning group outcome).created + (later.add cloning group outcome).failures.length =
        later.created + later.failures.length + 1 := by
  unfold Account.add
  cases outcome.result with
  | ok => exact ⟨Nat.add_comm _ _, by simp; omega⟩
  | error => exact ⟨(Nat.zero_add _).symm, by simp; omega⟩

/-- The number of machines that a call for so many has made, as its result tells. -/
def made (count : Nat) : Except ProviderError Unit → Nat
  | .ok _ => count
  | .error error => error.created

/-- The failures that the result of a call reports. -/
def reported : Except ProviderError Unit → List String
  | .error (.partialProvisioning _ _ failures) => failures
  | _ => []

/-- The result tells how many machines have been made. -/
theorem made_result {account : Account} {count : Nat}
    (sum : account.created + account.failures.length = count) :
    made count (account.result count) = account.created := by
  unfold Account.result
  split
  · next none =>
    have noFailures : account.failures = [] := List.isEmpty_iff.1 none
    rw [noFailures, List.length_nil] at sum
    exact sum.symm
  · rfl

/-- The result reports the failures. -/
theorem reported_result (account : Account) (count : Nat) :
    reported (account.result count) = account.failures := by
  unfold Account.result
  split
  · next none => exact (List.isEmpty_iff.1 none).symm
  · rfl

end NodeScaler.Cloning
