import NodeScaler.Inventory.Client
import NodeScaler.Proofs.Plan.Harmless

/-!
# A client that does as it is told

Every call is a question of its own, and the answer says how long the call takes and how it
ends. A handler of these questions is any behaviour that a client can have: it may answer each
call with any result or failure, depending on all calls before.
-/

namespace NodeScaler.Told

/-- A call of a client. -/
inductive Question where
  /-- To find the objects that carry a tag. -/
  | resolve (tag : String)
  /-- To attach a tag to an object. -/
  | attach (tag : String) (object : ObjectRef)
  /-- To read the name of a machine. -/
  | name (object : ObjectRef)
  /-- To read the BIOS UUID of a machine. -/
  | uuid (object : ObjectRef)
  /-- To make a machine from a template. -/
  | clone (request : CloneRequest)

/-- What comes of a call, and after what time. -/
structure Outcome (α : Type) where
  /-- The time that the call takes. -/
  delay : Duration
  /-- The result. -/
  result : Except InventoryError α

/-- Calls of a client, with what comes of them. -/
abbrev interface : Interface where
  Question := Question
  Answer
    | .resolve _ => Outcome RefSet
    | .attach _ _ => Outcome Unit
    | .name _ => Outcome String
    | .uuid _ => Outcome String
    | .clone _ => Outcome ObjectRef

/-- Waits for the end of a call. -/
def finish {α : Type} (outcome : Outcome α) : Plan interface (Except InventoryError α) := do
  Plan.pause outcome.delay
  return outcome.result

/-- The client that does as it is told. -/
def client : InventoryClient interface where
  resolve tag := .mk (.ask (I := interface) (.resolve tag) fun outcome => finish outcome)
  attach tag object := .mk (.ask (I := interface) (.attach tag object) fun outcome => finish outcome)
  name object := .mk (.ask (I := interface) (.name object) fun outcome => finish outcome)
  uuid object := .mk (.ask (I := interface) (.uuid object) fun outcome => finish outcome)
  clone request := .mk (.ask (I := interface) (.clone request) fun outcome => finish outcome)

/-- Calls that change nothing. -/
def Question.Reads : Question → Prop
  | resolve _ | name _ | uuid _ => True
  | attach _ _ | clone _ => False

variable {σ α : Type} {handler : Handler interface σ}

/-- The end of a call asks nothing more. -/
theorem transcript_finish (outcome : Outcome α) (state : σ) :
    (finish outcome).transcript handler state = ⟨[], some outcome.result, state⟩ := by
  unfold finish Plan.pause
  split <;> rfl

/-- A call that takes no longer than a limit ends in time; any other is dropped. -/
theorem transcript_finish_within (limit : Duration) (outcome : Outcome α) (state : σ) :
    ((finish outcome).within limit).transcript handler state =
      ⟨[], some (if outcome.delay.waited.nanoseconds ≤ limit.nanoseconds then some outcome.result
        else none), state⟩ := by
  unfold finish Plan.pause
  by_cases atOnce : outcome.delay.nanoseconds = 0
  · have inTime : outcome.delay.waited.nanoseconds ≤ limit.nanoseconds := by
      simp [Duration.waited, atOnce]
    rw [if_pos atOnce, if_pos inTime]
    rfl
  · rw [if_neg atOnce]
    change ((Plan.wait outcome.delay.waited (.done outcome.result)).within limit).transcript handler
      state = _
    rw [Plan.within]
    split
    · rfl
    · unfold Plan.pause
      split <;> rfl

/-- The end of a call is harmless. -/
theorem harmless_finish (outcome : Outcome α) :
    (finish outcome).Harmless Question.Reads (Plan.OnlyFails fun _ => True) := by
  apply (Plan.harmless_pause _).bind
  intro _ _
  change Plan.OnlyFails _ outcome.result
  cases outcome.result <;> trivial

end NodeScaler.Told
