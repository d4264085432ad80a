import NodeScaler.Proofs.Provider.Backends
import NodeScaler.Proofs.Provider.Reporting
import NodeScaler.Proofs.Vcenter.Replica
import NodeScaler.Provider.Scripted

/-!
# One provisioner over two inventories

A provisioner over a session with a server that mirrors an inventory in memory does the same as
over that inventory itself: call by call it tells the same sizes, identifiers and names, makes
machines of the same names, and fails to make the same ones. Only how failures are worded differs.
-/

namespace NodeScaler.Cloning

open Plan (Matches)
open Scripted (Call)
open Vcenter (Site)

variable {σ : Type} {site : Site} {handler : Handler Http σ} {shows : σ → Memory → Prop}
  {start memory : Memory} {state : σ}

/-! ## Accounts -/

/-- Two reports are about the same machine, which could not be made for like reasons. -/
def SameMachine (cloning : Cloning) (group report other : String) : Prop :=
  ∃ number error failure, Akin error failure ∧ report = line cloning group number error ∧
    other = line cloning group number failure

/-- Accounts that are alike: as many machines, and failures at the same machines in the same
order. -/
structure Account.Like (cloning : Cloning) (group : String) (account other : Account) : Prop where
  /-- As many machines have been made. -/
  created : account.created = other.created
  /-- The same machines could not be made. -/
  failures : List.Forall₂ (SameMachine cloning group) account.failures other.failures

/-- Attempts that are alike add the same to accounts that are alike. -/
theorem Account.Like.add {cloning : Cloning} {group : String} {account other : Account}
    (like : account.Like cloning group other) {outcome attempt : Outcome}
    (alike : outcome.Like attempt) :
    (account.add cloning group outcome).Like cloning group (other.add cloning group attempt) := by
  obtain ⟨number, result, collisions⟩ := outcome
  obtain ⟨_, attempted, _⟩ := attempt
  obtain ⟨rfl, results, -⟩ := alike
  cases results with
  | ok value => exact ⟨congrArg (· + 1) like.created, like.failures⟩
  | error akin => exact ⟨like.created, .cons ⟨number, _, _, akin, rfl, rfl⟩ like.failures⟩

/-- Makes a call to a provisioner. -/
def perform {I : Interface} (provisioner : Provisioner I) :
    (call : Call) → Attempt I ProviderError call.Value
  | .size group => provisioner.size group
  | .create group count => provisioner.create group count
  | .nodes group => provisioner.nodes group
  | .names group => provisioner.names group

/-- Results of a call that agree: what is read is the same, and a call for machines makes as many
and fails at the same ones. -/
inductive Agrees (cloning : Cloning) :
    (call : Call) → Except ProviderError call.Value → Except ProviderError call.Value → Prop where
  /-- The same size. -/
  | size {group : String} (value : Nat) : Agrees cloning (.size group) (.ok value) (.ok value)
  /-- The same provider identifiers. -/
  | nodes {group : String} (value : List String) :
      Agrees cloning (.nodes group) (.ok value) (.ok value)
  /-- The same names. -/
  | names {group : String} (value : List String) :
      Agrees cloning (.names group) (.ok value) (.ok value)
  /-- All machines have been made. -/
  | created {group : String} {count : Nat} : Agrees cloning (.create group count) (.ok ()) (.ok ())
  /-- As many machines have been made, and the same ones have not. -/
  | failed {group : String} {count created : Nat} {failures others : List String}
      (same : List.Forall₂ (SameMachine cloning group) failures others) :
      Agrees cloning (.create group count)
        (.error (.partialProvisioning count created failures))
        (.error (.partialProvisioning count created others))

/-- Accounts that are alike give results that agree. -/
theorem Account.Like.agrees {cloning : Cloning} {group : String} {account other : Account}
    (like : account.Like cloning group other) (count : Nat) :
    Agrees cloning (.create group count) (account.result count) (other.result count) := by
  obtain ⟨created, failures⟩ := account
  obtain ⟨_, others⟩ := other
  obtain ⟨rfl, same⟩ := like
  cases same with
  | nil => exact .created
  | cons first rest => exact .failed (.cons first rest)

end NodeScaler.Cloning
