import NodeScaler.Plan.Basic

/-!
# Running a plan

The surroundings of a plan are a handler: it answers a question from a state, which it may
change. Running a plan against a handler asks the questions one after the other and adds up
the time that passes. A plan that stalls has no value.
-/

namespace NodeScaler

/-- Answers questions from a state. -/
abbrev Handler (I : Interface) (σ : Type) : Type :=
  (question : I.Question) → σ → I.Answer question × σ

namespace Handler

variable {I J : Interface} {σ τ : Type}

/-- Two handlers side by side, each with a state of its own. -/
def sum (left : Handler I σ) (right : Handler J τ) : Handler (I.sum J) (σ × τ)
  | .inl question, (first, second) =>
    let (answer, first) := left question first
    (answer, first, second)
  | .inr question, (first, second) =>
    let (answer, second) := right question second
    (answer, first, second)

end Handler

/-- How a run ends. -/
structure Ending (σ α : Type) where
  /-- The value, unless the plan stalls. -/
  value : Option α
  /-- The state in which the surroundings are left. -/
  state : σ
  /-- The time that passed. -/
  elapsed : Duration

namespace Plan

variable {I : Interface} {σ α : Type}

/-- Runs a plan from a state of its surroundings. -/
def run (handler : Handler I σ) : Plan I α → σ → Ending σ α
  | done value, state => ⟨some value, state, .zero⟩
  | ask question next, state =>
    let (answer, state) := handler question state
    run handler (next answer) state
  | wait span next, state =>
    let ending := run handler next state
    { ending with elapsed := span.plus ending.elapsed }
  | stall, state => ⟨none, state, .zero⟩

end Plan

end NodeScaler
