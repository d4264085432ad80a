import NodeScaler.Text.Duration

/-!
# Plans

A plan is what a program does towards its surroundings, before anyone fixes what these
are: it asks a question and goes on with the answer, it lets time pass, or it ends with a
value. The questions and the types of their answers form an interface. Plans are composed
one after the other, moved to a larger interface, and cut off when a span of time is over.

Two plans that may fail can also run side by side. Each goes on while the other waits, and
the first failure ends both.

Every path through a plan is finite, but a path may end in a stall: a wait for something
that does not happen. Only a deadline gets past it.

Waits and spans are compared to the nanosecond. A deadline of an attempt and a sleep are timers
of the runtime instead: their spans are rounded up to whole milliseconds first, so an attempt
that is late by less than a millisecond may still be in time.
-/

namespace NodeScaler

/-- Questions, and for each of them the type of its answers. -/
structure Interface where
  /-- What may be asked. -/
  Question : Type
  /-- What may be answered. -/
  Answer : Question → Type

/-- The questions of two interfaces together. -/
def Interface.sum (left right : Interface) : Interface :=
  ⟨left.Question ⊕ right.Question, Sum.elim left.Answer right.Answer⟩

/-- What a program does until it has its value. -/
inductive Plan (I : Interface) (α : Type) where
  /-- It has the value. -/
  | done (value : α)
  /-- It asks a question and goes on with the answer. -/
  | ask (question : I.Question) (next : I.Answer question → Plan I α)
  /-- It lets a span of time pass and goes on. -/
  | wait (span : Duration) (next : Plan I α)
  /-- It waits for something that does not happen. -/
  | stall

namespace Plan

variable {I J : Interface} {α β γ : Type}

/-- One plan after another. -/
def bind : Plan I α → (α → Plan I β) → Plan I β
  | done value, next => next value
  | ask question rest, next => ask question fun answer => (rest answer).bind next
  | wait span rest, next => wait span (rest.bind next)
  | stall, _ => stall

instance : Monad (Plan I) where
  pure := done
  bind := bind

/-- What follows a value starts at once. -/
@[simp] theorem done_bind (value : α) (next : α → Plan I β) :
    (done value >>= next) = next value := rfl

/-- What follows a question comes after its answer. -/
@[simp] theorem ask_bind (question : I.Question) (rest : I.Answer question → Plan I α)
    (next : α → Plan I β) :
    (ask question rest >>= next) = ask question fun answer => rest answer >>= next := rfl

/-- What follows a wait comes after it. -/
@[simp] theorem wait_bind (span : Duration) (rest : Plan I α) (next : α → Plan I β) :
    (wait span rest >>= next) = wait span (rest >>= next) := rfl

/-- Nothing follows a stall. -/
@[simp] theorem stall_bind (next : α → Plan I β) : (stall >>= next) = stall := rfl

/-- A plan is unchanged when only its value is handed on. -/
theorem bind_done (plan : Plan I α) : (plan >>= done) = plan := by
  induction plan with
  | done value => rfl
  | ask question rest inductionHypothesis =>
    exact congrArg (ask question) (funext inductionHypothesis)
  | wait span rest inductionHypothesis => exact congrArg (wait span) inductionHypothesis
  | stall => rfl

/-- How a sequence of plans is grouped does not matter: its questions and waits come in the
same order. -/
theorem bind_assoc (plan : Plan I α) (first : α → Plan I β) (second : β → Plan I γ) :
    (plan >>= first >>= second) = plan >>= fun value => first value >>= second := by
  induction plan with
  | done value => rfl
  | ask question rest inductionHypothesis =>
    exact congrArg (ask question) (funext inductionHypothesis)
  | wait span rest inductionHypothesis => exact congrArg (wait span) inductionHypothesis
  | stall => rfl

instance : LawfulMonad (Plan I) :=
  LawfulMonad.mk' (Plan I) bind_done (fun _ _ => rfl) bind_assoc

/-- Asks one question. -/
def question (question : I.Question) : Plan I (I.Answer question) := ask question done

/-- Lets a span of time pass, or the longest wait; nothing happens in a span without
length. -/
def pause (span : Duration) : Plan I Unit :=
  if span.nanoseconds = 0 then done () else wait span.waited (done ())

/-- The plan, asking its questions as the left part of a larger interface. -/
def left : Plan I α → Plan (I.sum J) α
  | done value => done value
  | ask question next => ask (.inl question) fun answer => (next answer).left
  | wait span next => wait span next.left
  | stall => stall

/-- The plan, asking its questions as the right part of a larger interface. -/
def right : Plan J α → Plan (I.sum J) α
  | done value => done value
  | ask question next => ask (.inr question) fun answer => (next answer).right
  | wait span next => wait span next.right
  | stall => stall

/-- The plan, with the time that its waits have taken in addition to a span before. -/
def timed : Plan I α → Duration → Plan I (α × Duration)
  | done value, before => done (value, before)
  | ask question next, before => ask question fun answer => (next answer).timed before
  | wait span next, before => wait span (next.timed (before.plus span))
  | stall, _ => stall

/-- Runs a plan until a span of time is over. A plan that is not done by then is dropped
where it stands: what it has asked so far stays asked, and nothing of the rest happens. A
wait that ends together with the span still ends in time. -/
def within (limit : Duration) : Plan I α → Plan I (Option α)
  | done value => done (some value)
  | ask question next => ask question fun answer => (next answer).within limit
  | wait span next =>
    if span.nanoseconds ≤ limit.nanoseconds then wait span (next.within (limit.less span))
    else (pause limit).bind fun _ => done none
  | stall => (pause limit).bind fun _ => done none

/-! ## Side by side -/

/-- Goes on with the second of two plans while the first waits for a span. `resume` goes on
with the first one and what is then left of the second. If both waits end together, the first
plan goes on before the second. -/
def meanwhile {ε : Type} (resume : Plan I (Except ε β) → Plan I (Except ε γ)) :
    Duration → Plan I (Except ε β) → Plan I (Except ε γ)
  | _, done (.error error) => done (.error error)
  | span, done (.ok value) => wait span (resume (done (.ok value)))
  | span, ask question next => ask question fun answer => meanwhile resume span (next answer)
  | span, wait other next =>
    if other.nanoseconds < span.nanoseconds then
      wait other (meanwhile resume (span.less other) next)
    else if other = span then wait span (resume next)
    else wait span (resume (wait (other.less span) next))
  | span, stall => wait span (resume stall)

/-- Runs two plans side by side until both have a value or one has failed. The first sets out
first, and the second while it waits; if the first fails before that, nothing happens of the
second. -/
def both {ε : Type} : Plan I (Except ε α) → Plan I (Except ε β) → Plan I (Except ε (α × β))
  | done (.error error), _ => done (.error error)
  | done (.ok value), second => second.bind fun result => done (result.map (value, ·))
  | ask question next, second => ask question fun answer => (next answer).both second
  | wait span next, second => meanwhile (fun rest => next.both rest) span second
  | stall, second => second.bind fun
    | .error error => done (.error error)
    | .ok _ => stall

end Plan

/-- A plan that may fail. -/
abbrev Attempt (I : Interface) (ε α : Type) : Type := ExceptT ε (Plan I) α

namespace Attempt

variable {I J : Interface} {ε ε' α : Type}

/-- The attempt, asking its questions as the left part of a larger interface. -/
def left (attempt : Attempt I ε α) : Attempt (I.sum J) ε α := .mk (Plan.left attempt.run)

/-- The attempt, asking its questions as the right part of a larger interface. -/
def right (attempt : Attempt J ε α) : Attempt (I.sum J) ε α := .mk (Plan.right attempt.run)

/-- Asks a question whose answer may be a failure. -/
def question (question : I.Question) (asResult : I.Answer question → Except ε α) :
    Attempt I ε α :=
  .mk (asResult <$> Plan.question question)

/-- Lets a span of time pass. -/
def pause (span : Duration) : Attempt I ε Unit := ExceptT.lift (Plan.pause span)

/-- Waits for a timer that is set for a span of time. -/
def sleep (span : Duration) : Attempt I ε Unit := pause span.alarm

/-- Makes an attempt that fails when it is not over as a timer goes off that is set for a span
of time. -/
def within (limit : Duration) (late : ε) (attempt : Attempt I ε α) : Attempt I ε α :=
  .mk ((Option.getD · (.error late)) <$> Plan.within limit.alarm attempt.run)

/-- Makes two attempts side by side; the first failure is the failure of both. -/
def both {β : Type} (first : Attempt I ε α) (second : Attempt I ε β) : Attempt I ε (α × β) :=
  .mk (Plan.both first.run second.run)

/-- The attempt with its failures seen as failures of another kind. -/
def mapError (change : ε → ε') (attempt : Attempt I ε α) : Attempt I ε' α :=
  .mk (Except.mapError change <$> attempt.run)

/-- The result of the attempt, as a value. -/
def result (attempt : Attempt I ε α) : Attempt I ε' (Except ε α) := .mk (.ok <$> attempt.run)

end Attempt

end NodeScaler
