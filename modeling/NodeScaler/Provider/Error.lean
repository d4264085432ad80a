import NodeScaler.Config.Error
import NodeScaler.Inventory.Error

/-!
# What a provider reports to its caller
-/

namespace NodeScaler

/-- Why a provider cannot do what it is asked. -/
inductive ProviderError where
  /-- This provider does not offer the operation. -/
  | notImplemented
  /-- The node group is there already. -/
  | alreadyExists
  /-- The request makes no sense. -/
  | invalidArgument (text : String)
  /-- The node group would exceed its greatest size. -/
  | sizeLimitExceeded (desired max : Nat)
  /-- Some machines, or all of them, could not be made. -/
  | partialProvisioning (requested created : Nat) (failures : List String)
  /-- The inventory failed. -/
  | inventory (error : InventoryError)
  /-- The configuration is flawed. -/
  | config (error : ConfigError)
deriving DecidableEq, Repr

namespace ProviderError

/-- The text of an error. -/
def message : ProviderError → String
  | notImplemented => "not implemented"
  | alreadyExists => "node group already exists"
  | invalidArgument text => s!"invalid argument: {text}"
  | sizeLimitExceeded desired max => s!"size increase too large, desired: {desired} max: {max}"
  | partialProvisioning requested created failures =>
    let reasons := "; ".intercalate failures
    s!"created {created} of {requested} nodes: {reasons}"
  | inventory error => s!"inventory: {error.message}"
  | config error => s!"config: {error.message}"

/-- The texts of an error and of what caused it, the error first. The text of an error
repeats that of its cause. -/
def chain : ProviderError → List String
  | inventory error => [(inventory error).message, error.message]
  | config (.unreadable path failure) =>
    [(config (.unreadable path failure)).message, (ConfigError.unreadable path failure).message,
      failure.message]
  | config error => [(config error).message, error.message]
  | error => [error.message]

end ProviderError

end NodeScaler
