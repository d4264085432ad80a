import NodeScaler.Text.Duration

/-!
# What can go wrong with the inventory
-/

namespace NodeScaler

/-- A failure of a request to the inventory. -/
inductive InventoryError where
  /-- The user or the session is refused. -/
  | auth (text : String)
  /-- The request could not be carried out. -/
  | request (text : String)
  /-- The answer has a status that means failure. -/
  | status (code : Nat) (body : String)
  /-- The answer does not have the expected form. -/
  | decode (text : String)
  /-- What was asked for does not exist. -/
  | notFound (text : String)
  /-- What was to be made exists already. -/
  | alreadyExists (text : String)
  /-- A name that should select one object selects several. -/
  | ambiguous (kind : String) (count : Nat)
  /-- The request was not answered in time. -/
  | timeout (after : Duration)
deriving DecidableEq, Repr

/-- The text of a failure. -/
def InventoryError.message : InventoryError → String
  | auth text => s!"authentication failed: {text}"
  | request text => s!"request failed: {text}"
  | status code body => s!"unexpected status {code}: {body}"
  | decode text => s!"invalid response: {text}"
  | notFound text => s!"not found: {text}"
  | alreadyExists text => s!"already exists: {text}"
  | ambiguous kind count => s!"{kind} name is ambiguous, {count} candidates"
  | timeout after => s!"operation timed out after {after.text}"

end NodeScaler
