import Mathlib.Algebra.GroupWithZero.Nat
import NodeScaler.Proofs.Provider.Increasing
import NodeScaler.Proofs.Provider.Serialization

/-!
# The account of a target

One group is resized again and again, over a manager that answers as it likes. Every resize follows
one of four rules, and only one of them, in which the manager is asked for machines, writes targets
down. What the manager reports then is credited to the target. Whatever the target was at first,
after any number of resizes it is what all credits add up to, cut off at the greatest size; as long
as nothing has been credited it is what it was.
-/

namespace NodeScaler.NodeGroup

open Scripted (Call)

variable {τ : Type}

/-! ## What a manager answers -/

/-- A call of a manager and its result. -/
structure Answered where
  /-- The call. -/
  call : Call
  /-- What came of it. -/
  result : Except ProviderError call.Value

/-- What a call for machines adds to a target: the machines that it reports as made. -/
def Answered.credit? : Answered → Option Nat
  | ⟨.create _ count, result⟩ => some (Cloning.made count result)
  | _ => none

/-- The answer of a manager to a call that begins. -/
def answered? : Exchange (Resizing Scripted.interface) → Option Answered
  | ⟨.inr (.inr (.begin call)), reply⟩ => some ⟨call, reply.result⟩
  | _ => none

/-- A target that is written down, with its cell. -/
def written? : Exchange (Resizing Scripted.interface) → Option (Nat × Nat)
  | ⟨.inr (.inl (.write cell size)), _⟩ => some (cell, size)
  | _ => none

/-- An exchange of a resize with its manager. -/
def withManager (exchange : Exchange Scripted.interface) : Exchange (Resizing Scripted.interface) :=
  exchange.onRight.onRight

/-- Nothing that is exchanged with a manager writes a target. -/
theorem written_withManager (exchanges : List (Exchange Scripted.interface)) :
    (exchanges.map withManager).filterMap written? = [] := by
  rw [List.filterMap_map, List.filterMap_eq_nil_iff]
  exact fun exchange _ => rfl

/-- Targets that are written down are no answers of a manager. -/
theorem filterMap_writes (group : NodeGroup) (sizes : List Nat) :
    let exchanges := sizes.map fun size => (group.writes (I := Scripted.interface) size).onRight
    exchanges.filterMap answered? = [] ∧ exchanges.filterMap written? = sizes.map (group.cell, ·) := by
  induction sizes with
  | nil => exact ⟨rfl, rfl⟩
  | cons first rest inductionHypothesis =>
    obtain ⟨unanswered, written⟩ := inductionHypothesis
    exact ⟨unanswered, congrArg ((group.cell, first) :: ·) written⟩

/-- What is seen of a resize that asks for machines: the answers before and after the target is
raised, and the targets. -/
theorem filterMap_attempted (group : NodeGroup) (asked ordered : List (Exchange Scripted.interface))
    (previous raised : Nat) (corrected : List Nat) :
    let bare : List (Exchange (Targets.sum Scripted.interface)) :=
      asked.map .onRight ++ ⟨.inl (.read group.cell), previous⟩ :: group.writes raised ::
        (ordered.map .onRight ++ corrected.map group.writes)
    let exchanges : List (Exchange (Resizing Scripted.interface)) := bare.map .onRight
    exchanges.filterMap answered? =
        (asked.map withManager).filterMap answered? ++ (ordered.map withManager).filterMap answered? ∧
      exchanges.filterMap written? = (raised :: corrected).map (group.cell, ·) := by
  obtain ⟨unanswered, written⟩ := filterMap_writes group corrected
  have nothing := written_withManager asked
  have nothingLater := written_withManager ordered
  intro bare exchanges
  dsimp only [exchanges, bare]
  constructor
  · simp only [List.map_append, List.map_cons, List.map_map, List.filterMap_append]
    rw [List.filterMap_cons_none rfl, List.filterMap_cons_none rfl, List.filterMap_append]
    exact congrArg _ ((congrArg _ unanswered).trans (List.append_nil _))
  · have seen : written? (group.writes (I := Scripted.interface) raised).onRight =
        some (group.cell, raised) := rfl
    simp only [List.map_append, List.map_cons, List.map_map, List.filterMap_append]
    rw [List.filterMap_cons_none rfl, List.filterMap_cons_some seen, List.filterMap_append]
    exact congrArg₂ (· ++ ·) nothing
      (congrArg ((group.cell, raised) :: ·) (congrArg₂ (· ++ ·) nothingLater written))

/-- A call is made once, and ends with the result that the manager has in store. -/
theorem call_transcript (manager : Handler Scripted.interface τ) (call : Call) (state : τ) :
    ∃ result last exchanges,
      (Scripted.call call).run.transcript manager state = ⟨exchanges, some result, last⟩ ∧
        (exchanges.map withManager).filterMap answered? = [⟨call, result⟩] := by
  let rest (reply : Reply call.Value) : Plan Scripted.interface (Except ProviderError call.Value) :=
    if reply.delay.nanoseconds = 0 then .done reply.result
    else Plan.pause reply.delay >>= fun _ =>
      .ask (I := Scripted.interface) (.finish call) fun _ => .done reply.result
  have whole : (Scripted.call call).run.transcript manager state =
      ((rest (manager (.begin call) state).1).transcript manager (manager (.begin call) state).2).cons
        ⟨Scripted.Question.begin call, (manager (.begin call) state).1⟩ := rfl
  rw [whole]
  generalize manager (.begin call) state = first
  obtain ⟨reply, later⟩ := first
  by_cases atOnce : reply.delay.nanoseconds = 0
  · have ends : rest reply = .done reply.result := if_pos atOnce
    rw [ends]
    exact ⟨reply.result, later, _, rfl, rfl⟩
  · have waits : rest reply = .wait reply.delay.waited
        (.ask (I := Scripted.interface) (.finish call) fun _ => .done reply.result) := by
      simp only [rest, if_neg atOnce, Plan.pause]
      rfl
    rw [waits]
    exact ⟨reply.result, _, _, rfl, rfl⟩

/-! ## One resize -/

/-- What is seen of one of several resizes. -/
structure Round where
  /-- The number of machines asked for. -/
  delta : Int
  /-- The calls of the manager, with their results. -/
  answers : List Answered
  /-- The targets written down. -/
  written : List Nat
  /-- The result. -/
  result : Except ProviderError Unit
  /-- The target that is left. -/
  target : Nat

/-- The rules that a resize of a group follows from a target on. -/
inductive Ruled (group : NodeGroup) (before : Nat) : Round → Prop where
  /-- Nothing is done for nothing or less. -/
  | senseless {delta : Int} (notPositive : delta ≤ 0) :
      Ruled group before
        ⟨delta, [], [], .error (.invalidArgument "node group size increase must be positive"), before⟩
  /-- The failure to tell the size is passed on. -/
  | unsized {delta : Int} (positive : 0 < delta) (error : ProviderError) :
      Ruled group before
        ⟨delta, [⟨.size group.spec.name, .error error⟩], [], .error error, before⟩
  /-- Nothing is done for a group that would become too large. -/
  | tooMany {delta : Int} (positive : 0 < delta) (size : Nat)
      (tooLarge : group.spec.maxSize < size + delta.toNat) :
      Ruled group before
        ⟨delta, [⟨.size group.spec.name, .ok size⟩], [],
          .error (.sizeLimitExceeded (size + delta.toNat) group.spec.maxSize), before⟩
  /-- Machines are asked for, once, and what is reported is passed on and credited. -/
  | attempted {delta : Int} (positive : 0 < delta) (size : Nat)
      (room : size + delta.toNat ≤ group.spec.maxSize) (result : Except ProviderError Unit) :
      Ruled group before
        ⟨delta, [⟨.size group.spec.name, .ok size⟩, ⟨.create group.spec.name delta.toNat, result⟩],
          min (before + delta.toNat) group.spec.maxSize :: group.corrections before result, result,
          min (before + Cloning.made delta.toNat result) group.spec.maxSize⟩

variable (manager : Handler Scripted.interface τ) (group : NodeGroup) {cells : List Nat}

/-- The transcript shows a round. -/
structure Shows (before : List Nat) (round : Round)
    (ending : Transcript (Resizing Scripted.interface) (Unit × List Nat × τ)
      (Except ProviderError Unit)) : Prop where
  /-- The result. -/
  value : ending.value = some round.result
  /-- The calls of the manager. -/
  answers : ending.exchanges.filterMap answered? = round.answers
  /-- The targets written down. -/
  written : ending.exchanges.filterMap written? = round.written.map (group.cell, ·)
  /-- The target that is left. -/
  cells : ending.state.2.1 = before.set group.cell round.target

/-- The lock hides nothing of a resize. -/
theorem shows_locked {before : List Nat} {delta : Int} {state : List Nat × τ} {round : Round}
    {exchanges : List (Exchange (Targets.sum Scripted.interface))} {last : List Nat × τ}
    (bare : (group.resize Scripted.provisioner delta).run.transcript (Targets.answer.sum manager)
      state = ⟨exchanges, some round.result, last⟩)
    (answers : (exchanges.map .onRight).filterMap answered? = round.answers)
    (written : (exchanges.map .onRight).filterMap written? = round.written.map (group.cell, ·))
    (cells : last.1 = before.set group.cell round.target) :
    Shows group before round
      ((group.increase Scripted.provisioner delta).run.transcript (alone manager) ((), state)) := by
  have proceeds : (group.resize Scripted.provisioner delta).run.Proceeds :=
    group.resize_proceeds delta (Traffic.call_proceeds _) fun _ => Traffic.call_proceeds _
  have locked := transcript_locked (Targets.answer.sum manager) proceeds state
  have whole : (group.increase Scripted.provisioner delta).run.transcript (alone manager)
      ((), state) = _ := locked
  rw [bare] at whole
  rw [whole]
  refine ⟨rfl, ?_, ?_, cells⟩
  · rw [List.filterMap_cons_none rfl, List.filterMap_append, answers]
    exact List.append_nil _
  · rw [List.filterMap_cons_none rfl, List.filterMap_append, written]
    exact List.append_nil _

/-- Every resize follows the rules. -/
theorem increase_ruled (delta : Int) (stored : group.cell < cells.length) (state : τ) :
    ∃ round, Ruled group (cells.getD group.cell 0) round ∧ round.delta = delta ∧
      Shows group cells round
        ((group.increase Scripted.provisioner delta).run.transcript (alone manager)
          ((), cells, state)) := by
  have kept : cells = cells.set group.cell (cells.getD group.cell 0) := by
    simp [List.getD_eq_getElem?_getD, stored]
  by_cases positive : 0 < delta
  · obtain ⟨sized, middle, asked, sizedWhole, sizedAnswer⟩ :=
      call_transcript manager (.size group.spec.name) state
    have sizing : (Scripted.provisioner.size group.spec.name).run.transcript manager state =
        ⟨asked, some sized, middle⟩ := sizedWhole
    cases sized with
    | error error =>
      have bare := resize_unsized group cells positive sizing
      refine ⟨_, .unsized positive error, rfl, shows_locked manager group bare ?_ ?_ kept⟩
      · rw [List.map_map]
        exact sizedAnswer
      · rw [List.map_map]
        exact written_withManager asked
    | ok size =>
      by_cases tooLarge : group.spec.maxSize < size + delta.toNat
      · have bare := resize_tooMany group cells positive sizing tooLarge
        refine ⟨_, .tooMany positive size tooLarge, rfl, shows_locked manager group bare ?_ ?_ kept⟩
        · rw [List.map_map]
          exact sizedAnswer
        · rw [List.map_map]
          exact written_withManager asked
      · obtain ⟨result, last, ordered, createdWhole, createdAnswer⟩ :=
          call_transcript manager (.create group.spec.name delta.toNat) middle
        have creating : (Scripted.provisioner.create group.spec.name delta.toNat).run.transcript
            manager middle = ⟨ordered, some result, last⟩ := createdWhole
        have bare := resize_made group cells positive sizing (Nat.not_lt.1 tooLarge) creating
        obtain ⟨answers, written⟩ := filterMap_attempted group asked ordered
          (cells.getD group.cell 0) (min (cells.getD group.cell 0 + delta.toNat) group.spec.maxSize)
          (group.corrections (cells.getD group.cell 0) result)
        refine ⟨_, .attempted positive size (Nat.not_lt.1 tooLarge) result, rfl,
          shows_locked manager group bare ?_ ?_ rfl⟩
        · exact answers.trans (congrArg₂ (· ++ ·) sizedAnswer createdAnswer)
        · exact written
  · have bare := resize_senseless manager group Scripted.provisioner cells state
      (Int.not_lt.1 positive)
    exact ⟨_, .senseless (Int.not_lt.1 positive), rfl, shows_locked manager group bare rfl rfl kept⟩

/-! ## Any number of resizes -/

/-- Rounds that follow the rules, one after the other, from a target to another one. -/
inductive Course (group : NodeGroup) : Nat → List Round → Nat → Prop where
  /-- Nothing is done. -/
  | nil (target : Nat) : Course group target [] target
  /-- One round before others. -/
  | cons {before after : Nat} {round : Round} {later : List Round}
      (ruled : Ruled group before round) (others : Course group round.target later after) :
      Course group before (round :: later) after

/-- What is credited in a list of answers. -/
def credits (answers : List Answered) : List Nat := answers.filterMap Answered.credit?

variable {manager group}

/-- A round either credits nothing and leaves the target, or credits the target once. -/
theorem Ruled.credited {before : Nat} {round : Round} (ruled : Ruled group before round) :
    (credits round.answers = [] ∧ round.written = [] ∧ round.target = before) ∨
      ∃ credit, credits round.answers = [credit] ∧
        round.target = min (before + credit) group.spec.maxSize := by
  cases ruled with
  | senseless | unsized | tooMany => exact .inl ⟨rfl, rfl, rfl⟩
  | attempted positive size room result => exact .inr ⟨_, rfl, rfl⟩

/-- Whatever is written in a round is between the target before it and the greatest size. -/
theorem Ruled.written_bounds {before size : Nat} {round : Round} (ruled : Ruled group before round)
    (within : before ≤ group.spec.maxSize) (isWritten : size ∈ round.written) :
    before ≤ size ∧ size ≤ group.spec.maxSize := by
  cases ruled with
  | senseless | unsized | tooMany => cases isWritten
  | attempted positive found room result =>
    rcases List.mem_cons.1 isWritten with rfl | isCorrection
    · omega
    · cases result with
      | ok => cases isCorrection
      | error error =>
        obtain rfl := List.mem_singleton.1 isCorrection
        omega

/-- The target that is left is what all credits add up to, cut off at the greatest size. -/
theorem Course.target {before after : Nat} {rounds : List Round}
    (course : Course group before rounds after) :
    after = if credits (rounds.flatMap (·.answers)) = [] then before
      else min group.spec.maxSize (before + (credits (rounds.flatMap (·.answers))).sum) := by
  induction course with
  | nil target => rfl
  | @cons before after round later ruled _ inductionHypothesis =>
    have parts : credits ((round :: later).flatMap (·.answers)) =
        credits round.answers ++ credits (later.flatMap (·.answers)) := by
      rw [credits, List.flatMap_cons, List.filterMap_append]
      rfl
    rw [parts]
    rcases ruled.credited with ⟨none, -, same⟩ | ⟨credit, one, target⟩
    · rw [none, List.nil_append, ← same]
      exact inductionHypothesis
    · rw [one, if_neg (by simp), List.singleton_append, List.sum_cons]
      rw [target] at inductionHypothesis
      split at inductionHypothesis
      · next nothing =>
        rw [nothing, List.sum_nil]
        omega
      · omega

/-- From a target within the bound on, targets never fall below it, and never pass the bound. -/
theorem Course.bounds {before after : Nat} {rounds : List Round}
    (course : Course group before rounds after) (within : before ≤ group.spec.maxSize) :
    before ≤ after ∧ after ≤ group.spec.maxSize ∧
      ∀ size ∈ rounds.flatMap (·.written), before ≤ size ∧ size ≤ group.spec.maxSize := by
  induction course with
  | nil target => exact ⟨Nat.le_refl _, within, fun _ isIn => absurd isIn List.not_mem_nil⟩
  | @cons before after round later ruled _ inductionHypothesis =>
    have grows : before ≤ round.target ∧ round.target ≤ group.spec.maxSize := by
      rcases ruled.credited with ⟨-, -, same⟩ | ⟨credit, -, target⟩
      · omega
      · omega
    obtain ⟨grown, bounded, others⟩ := inductionHypothesis grows.2
    refine ⟨Nat.le_trans grows.1 grown, bounded, fun size isIn => ?_⟩
    rw [List.flatMap_cons] at isIn
    rcases List.mem_append.1 isIn with isOwn | isLater
    · exact ruled.written_bounds within isOwn
    · obtain ⟨above, below⟩ := others size isLater
      exact ⟨Nat.le_trans grows.1 above, below⟩

/-- Resizes a group again and again. -/
def increases {I : Interface} (group : NodeGroup) (provisioner : Provisioner I)
    (deltas : List Int) : Plan (Resizing I) (List (Except ProviderError Unit)) :=
  deltas.mapM fun delta => (group.increase provisioner delta).run

/-- Any number of resizes follow the rules, one after the other. -/
theorem increases_course (manager : Handler Scripted.interface τ) (deltas : List Int)
    (stored : group.cell < cells.length) (state : τ) :
    let ending := (increases group Scripted.provisioner deltas).transcript (alone manager)
      ((), cells, state)
    ∃ rounds after, Course group (cells.getD group.cell 0) rounds after ∧
      rounds.map (·.delta) = deltas ∧ ending.value = some (rounds.map (·.result)) ∧
      ending.exchanges.filterMap answered? = rounds.flatMap (·.answers) ∧
      ending.exchanges.filterMap written? =
        (rounds.flatMap (·.written)).map (group.cell, ·) ∧
      ending.state.2.1 = cells.set group.cell after := by
  induction deltas generalizing cells state with
  | nil =>
    have kept : cells = cells.set group.cell (cells.getD group.cell 0) := by
      simp [List.getD_eq_getElem?_getD, stored]
    exact ⟨[], _, .nil _, rfl, rfl, rfl, rfl, kept⟩
  | cons delta later inductionHypothesis =>
    intro ending
    obtain ⟨round, ruled, isDelta, shows⟩ := increase_ruled manager group delta stored state
    let first := (group.increase Scripted.provisioner delta).run.transcript (alone manager)
      ((), cells, state)
    have storedLater : group.cell < (cells.set group.cell round.target).length := by
      rw [List.length_set]
      exact stored
    have left : first.state = ((), cells.set group.cell round.target, first.state.2.2) :=
      Prod.ext rfl (Prod.ext shows.cells rfl)
    obtain ⟨rounds, after, course, deltas, value, answers, written, cellsLater⟩ :=
      inductionHypothesis storedLater first.state.2.2
    rw [← left] at value answers written cellsLater
    have target : (cells.set group.cell round.target).getD group.cell 0 = round.target := by
      simp [List.getD_eq_getElem?_getD, stored]
    rw [target] at course
    have parts : increases group Scripted.provisioner (delta :: later) =
        (group.increase Scripted.provisioner delta).run >>= fun result =>
          (result :: ·) <$> increases group Scripted.provisioner later := by
      rw [increases, List.mapM_cons]
      rfl
    have rest := Plan.transcript_handed (Transcript.whole value) (round.result :: ·)
    have whole : ending = _ := (congrArg (Plan.transcript _ · _) parts).trans
      (Plan.transcript_then (Transcript.whole shows.value) rest)
    rw [whole]
    refine ⟨round :: rounds, after, .cons ruled course, ?_, rfl, ?_, ?_, ?_⟩
    · rw [List.map_cons, isDelta, deltas]
    · rw [List.filterMap_append, shows.answers, answers, List.flatMap_cons]
    · rw [List.filterMap_append, shows.written, written, List.flatMap_cons, List.map_append]
    · rw [cellsLater, List.set_set]

/-- **The account of a target.** Let a manager answer as it likes, and let the group have any bounds
and any target. Each of any number of resizes follows one of the four rules. In the end the target
is what all credits add up to, cut off at the greatest size, or what it was if nothing was credited.
If it was within the greatest size, then it has not fallen, and no target that was written down on
the way is below it or above the greatest size. -/
theorem increases_account (manager : Handler Scripted.interface τ) (deltas : List Int)
    (stored : group.cell < cells.length) (state : τ) :
    let before := cells.getD group.cell 0
    let ending := (increases group Scripted.provisioner deltas).transcript (alone manager)
      ((), cells, state)
    ∃ rounds after, Course group before rounds after ∧
      rounds.map (·.delta) = deltas ∧ ending.value = some (rounds.map (·.result)) ∧
      ending.exchanges.filterMap answered? = rounds.flatMap (·.answers) ∧
      ending.exchanges.filterMap written? =
        (rounds.flatMap (·.written)).map (group.cell, ·) ∧
      ending.state.2.1 = cells.set group.cell after ∧
      (after = if credits (rounds.flatMap (·.answers)) = [] then before
        else min group.spec.maxSize (before + (credits (rounds.flatMap (·.answers))).sum)) ∧
      (before ≤ group.spec.maxSize → before ≤ after ∧ after ≤ group.spec.maxSize ∧
        ∀ size ∈ rounds.flatMap (·.written), before ≤ size ∧ size ≤ group.spec.maxSize) := by
  intro before ending
  obtain ⟨rounds, after, course, isDeltas, value, answers, written, left⟩ :=
    increases_course manager deltas stored state
  exact ⟨rounds, after, course, isDeltas, value, answers, written, left, course.target,
    course.bounds⟩

/-- A manager that fails to tell the second size, and makes three machines of the four that the
second call asks for. -/
def unsteady : Scripted.Script where
  sizes := [⟨.zero, .ok 3⟩, ⟨.zero, .error .notImplemented⟩, ⟨.seconds 1, .ok 5⟩, ⟨.zero, .ok 5⟩,
    ⟨.zero, .ok 2⟩]
  creates := [⟨.seconds 2, .ok ()⟩, ⟨.zero, .error (.partialProvisioning 4 3 ["no disk"])⟩,
    ⟨.zero, .ok ()⟩]
  nodes := []
  names := []
  calls := []

/-- Of six resizes three are credited, with two, three and three machines, so the target goes from
three up to the bound of nine. -/
theorem unsteady_account :
    let group : NodeGroup := ⟨⟨"workers", 0, 9⟩, 0⟩
    let deltas : List Int := [0, 2, 1, 8, 4, 3]
    group.cell < [3].length ∧ ∃ rounds, Course group 3 rounds 9 ∧ rounds.map (·.delta) = deltas ∧
      rounds.map (·.result) =
        [.error (.invalidArgument "node group size increase must be positive"), .ok (),
          .error .notImplemented, .error (.sizeLimitExceeded 13 9),
          .error (.partialProvisioning 4 3 ["no disk"]), .ok ()] ∧
      credits (rounds.flatMap (·.answers)) = [2, 3, 3] := by
  intro group deltas
  have stored : group.cell < [3].length := by decide
  obtain ⟨rounds, after, course, isDeltas, value, answers, -, -, target, -⟩ :=
    increases_account Scripted.answer deltas stored unsteady
  have granted : credits (rounds.flatMap (·.answers)) = [2, 3, 3] := by
    rw [← answers]
    rfl
  rw [granted] at target
  obtain rfl : after = 9 := target
  exact ⟨stored, rounds, course, isDeltas, (Option.some.inj value).symm, granted⟩

end NodeScaler.NodeGroup
