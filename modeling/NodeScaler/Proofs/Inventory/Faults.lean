import NodeScaler.Inventory.Watched
import NodeScaler.Proofs.Plan.Giving

/-!
# Calls that may fail

Any call of a watched client may be made to fail without reaching the inventory. Otherwise it comes
to what it would come to without the watch, also if it has to end in time. Either way nothing is
asked of the inventory that the call would not ask by itself.
-/

namespace NodeScaler

open Plan (gives_ask gives_done)

namespace Watch

variable {I : Interface} {σ τ α : Type} {handler : Handler I τ}

/-- What follows when a call has been announced: the call itself, unless it has to fail. -/
theorem announced_gives (schedule : Handler interface σ) {plan : Plan I (Except InventoryError α)}
    {next : Option InventoryError → Plan (interface.sum I) (Except InventoryError α)}
    {before after : τ} {result : Except InventoryError α} (call : Call) (state : σ)
    (fails : ∀ failure, next (some failure) = .done (.error failure))
    (goesOn : next none = plan.right) (gives : plan.Gives handler before result after) :
    ∃ later, (Plan.ask (I := interface.sum I) (.inl call) next).Gives (schedule.sum handler)
        (state, before) result (later, after) ∨
      ∃ error, (Plan.ask (I := interface.sum I) (.inl call) next).Gives (schedule.sum handler)
        (state, before) (.error error) (later, before) := by
  refine ⟨(schedule call state).2, ?_⟩
  have asks {value : Except InventoryError α} {last : σ × τ}
      (rest : (next (schedule call state).1).Gives (schedule.sum handler)
        ((schedule call state).2, before) value last) :
      (Plan.ask (I := interface.sum I) (.inl call) next).Gives (schedule.sum handler)
        (state, before) value last := gives_ask rest
  generalize schedule call state = reply at asks
  obtain ⟨failure?, later⟩ := reply
  cases failure? with
  | none => exact .inl (asks (goesOn ▸ gives.right later))
  | some failure => exact .inr ⟨failure, asks (fails failure ▸ gives_done _ _)⟩

/-- What is left of a watched call when it has been announced. -/
def announced (call : Attempt I InventoryError α) :
    Option InventoryError → Plan (interface.sum I) (Except InventoryError α)
  | some failure => .done (.error failure)
  | none => call.run.right

/-- A watched call announces itself first. -/
theorem around_run (method : ClientMethod) (subject : String) (call : Attempt I InventoryError α) :
    (around method subject call).run =
      .ask (I := interface.sum I) (.inl ⟨method, subject⟩) (announced call) := by
  unfold around
  refine congrArg (Plan.ask (I := interface.sum I) (.inl ⟨method, subject⟩))
    (funext fun (failure? : Option InventoryError) => ?_)
  cases failure? <;> rfl

/-- A watched call either fails without reaching the inventory, or comes to what it comes to. -/
theorem around_gives (schedule : Handler interface σ) {call : Attempt I InventoryError α}
    {before after : τ} {result : Except InventoryError α} (method : ClientMethod)
    (subject : String) (state : σ) (gives : call.run.Gives handler before result after) :
    ∃ later, (around method subject call).run.Gives (schedule.sum handler) (state, before) result
        (later, after) ∨
      ∃ error, (around method subject call).run.Gives (schedule.sum handler) (state, before)
        (.error error) (later, before) := by
  rw [around_run]
  exact announced_gives schedule _ state (fun _ => rfl) rfl gives

/-- The same holds of a watched call that has to end in time. -/
theorem around_within_gives (schedule : Handler interface σ) {call : Attempt I InventoryError α}
    {before after : τ} {result : Except InventoryError α} {limit : Duration} {late : InventoryError}
    (method : ClientMethod) (subject : String) (state : σ)
    (gives : (call.within limit late).run.Gives handler before result after) :
    ∃ later, ((around method subject call).within limit late).run.Gives (schedule.sum handler)
        (state, before) result (later, after) ∨
      ∃ error, ((around method subject call).within limit late).run.Gives (schedule.sum handler)
        (state, before) (.error error) (later, before) := by
  let rest (failure? : Option InventoryError) : Plan (interface.sum I) (Except InventoryError α) :=
    (Option.getD · (.error late)) <$> Plan.within limit.alarm (announced call failure?)
  have whole : ((around method subject call).within limit late).run =
      .ask (I := interface.sum I) (.inl ⟨method, subject⟩) rest := by
    change (Option.getD · (.error late)) <$> Plan.within limit.alarm
      (around method subject call).run = _
    rw [around_run]
    rfl
  have goesOn : rest none = (call.within limit late).run.right := by
    change _ <$> Plan.within limit.alarm (call.run.right) = _
    rw [Plan.right_within, Plan.right_map]
    rfl
  rw [whole]
  exact announced_gives schedule _ state (fun _ => rfl) goesOn gives

/-- A watched call that does no harm by itself does none. -/
theorem around_harmless {harmless : I.Question → Prop} {call : Attempt I InventoryError α}
    (method : ClientMethod) (subject : String)
    (safe : call.run.Harmless harmless (Plan.OnlyFails fun _ => True)) :
    (around method subject call).run.Harmless (I := interface.sum I)
      (Sum.elim (fun _ => True) harmless) (Plan.OnlyFails fun _ => True) := by
  rw [around_run]
  refine ⟨trivial, fun (failure? : Option InventoryError) => ?_⟩
  cases failure? with
  | some failure => exact trivial
  | none => exact safe.right

end Watch

end NodeScaler
