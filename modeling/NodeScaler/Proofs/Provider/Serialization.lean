import Mathlib.Data.List.Permutation
import NodeScaler.Proofs.Provider.Resize
import NodeScaler.Provider.Scripted

/-!
# Resizes are serialized

Several callers resize groups that share a lock, over a manager that may take its time, fail,
and answer as it likes, as long as its answers about sizes and new machines depend on nothing
but such calls before. However the callers are scheduled, the manager sees what it would see if
they had come one after the other, in the order in which they asked for the lock, and so do
the callers: the same calls, the same results, the same targets in the end.
-/

namespace NodeScaler

/-- A resize makes such calls. -/
def Scripted.Call.ofResize : Scripted.Call → Bool
  | size _ | create _ _ => true
  | nodes _ | names _ => false

/-- A resize asks such questions. -/
def Scripted.Question.ofResize : Scripted.Question → Bool
  | begin call | finish call => call.ofResize

namespace Traffic

variable {τ : Type}

/-! ## Calls one after the other -/

/-- What is exchanged with the manager for a resize. -/
def managed? (exchange : Exchange (Targets.sum Scripted.interface)) :
    Option (Exchange Scripted.interface) :=
  exchange.right?.filter (·.question.ofResize)

/-- What is exchanged with the manager for resizes, and by whom. -/
def managed (exchanges : List (Nat × Exchange (Targets.sum Scripted.interface))) :
    List (Nat × Exchange Scripted.interface) :=
  exchanges.filterMap fun (index, exchange) => (managed? exchange).map (index, ·)

/-- The callers come after the observer. -/
def caller? (calls : List ResizeCall) : Nat → Option ResizeCall
  | 0 => none
  | caller + 1 => calls[caller]?

/-- What a resize does when nothing else happens. -/
def alone (manager : Handler Scripted.interface τ) (call : ResizeCall) (state : List Nat × τ) :
    Transcript (Resizing Scripted.interface) (Unit × List Nat × τ) (Except ProviderError Unit) :=
  (call.group.increase Scripted.provisioner call.delta).run.transcript
    (Locking.uncontended.sum (Targets.answer.sum manager)) ((), state)

/-- What comes of one of several resizes. -/
structure Resized where
  /-- Who resizes. -/
  index : Nat
  /-- What is exchanged with the manager. -/
  exchanges : List (Exchange Scripted.interface)
  /-- The result. -/
  result : Option (Except ProviderError Unit)

/-- What comes of resizes when they are made one after the other, and the state in the end. -/
def inOrder (manager : Handler Scripted.interface τ) (calls : List ResizeCall) :
    List Nat → List Nat × τ → List Resized × (List Nat × τ)
  | [], state => ([], state)
  | index :: later, state =>
    match caller? calls index with
    | none => inOrder manager calls later state
    | some call =>
      let first := alone manager call state
      let (rest, last) := inOrder manager calls later first.state.2
      (⟨index, first.exchanges.filterMap (·.right?.bind managed?), first.value⟩ :: rest, last)

/-- The exchanges of several resizes, in order, and by whom. -/
def inBlocks (resizes : List Resized) : List (Nat × Exchange Scripted.interface) :=
  resizes.flatMap fun resized => resized.exchanges.map (resized.index, ·)

/-- Between two entries of the same origin there are no others. -/
def Uninterrupted {β : Type} (entries : List (Nat × β)) : Prop :=
  ∀ (before between after : List (Nat × β)) (first last : Nat × β),
    entries = before ++ first :: between ++ last :: after → first.1 = last.1 →
    ∀ entry ∈ between, entry.1 = first.1

/-- One more resize at the end starts in the state that the others leave. -/
theorem inOrder_append (manager : Handler Scripted.interface τ) {calls : List ResizeCall}
    (served : List Nat) {index : Nat} {call : ResizeCall} (isCall : caller? calls index = some call)
    (state : List Nat × τ) :
    inOrder manager calls (served ++ [index]) state =
      let before := inOrder manager calls served state
      let last := alone manager call before.2
      (before.1 ++ [⟨index, last.exchanges.filterMap (·.right?.bind managed?), last.value⟩],
        last.state.2) := by
  induction served generalizing state with
  | nil => simp only [List.nil_append, inOrder, isCall]
  | cons first later inductionHypothesis =>
    rw [List.cons_append, inOrder, inOrder]
    cases caller? calls first with
    | none => exact inductionHypothesis state
    | some other =>
      dsimp only
      rw [inductionHypothesis]
      rfl

/-- A scripted call ends whatever it is told. -/
theorem call_proceeds (call : Scripted.Call) : (Scripted.call call).run.Proceeds := by
  intro (reply : Reply call.Value)
  change (ite (reply.delay.nanoseconds = 0) (Plan.done reply.result) _).Proceeds
  split
  · trivial
  · exact (Plan.proceeds_pause _).bind fun _ _ => trivial

/-- A resize over a scripted manager ends whatever it is told. -/
theorem work_proceeds (call : ResizeCall) :
    (call.group.resize Scripted.provisioner call.delta).run.Proceeds :=
  call.group.resize_proceeds call.delta (call_proceeds _) fun _ => call_proceeds _

/-- The lock adds nothing to a resize that nobody disturbs. -/
theorem alone_eq (manager : Handler Scripted.interface τ) (call : ResizeCall)
    (state : List Nat × τ) :
    let bare := (call.group.resize Scripted.provisioner call.delta).run.transcript
      (Targets.answer.sum manager) state
    (alone manager call state).value = bare.value ∧
      (alone manager call state).state.2 = bare.state ∧
      (alone manager call state).exchanges.filterMap (·.right?.bind managed?) =
        bare.exchanges.filterMap managed? := by
  have locked := NodeGroup.transcript_locked (Targets.answer.sum manager) (work_proceeds call) state
  refine ⟨congrArg Transcript.value locked, congrArg (·.state.2) locked, ?_⟩
  refine (congrArg (·.exchanges.filterMap (·.right?.bind managed?)) locked).trans ?_
  simp [Exchange.right?, Exchange.onRight, List.filterMap_map, Function.comp_def]

/-- An uninterrupted list stays so with a block of another origin in front. -/
theorem Uninterrupted.append {β : Type} {block rest : List (Nat × β)} {index : Nat}
    (own : ∀ entry ∈ block, entry.1 = index) (others : ∀ entry ∈ rest, entry.1 ≠ index)
    (uninterrupted : Uninterrupted rest) : Uninterrupted (block ++ rest) := by
  intro before between after first last split same entry isBetween
  rw [List.append_assoc, List.append_eq_append_iff] at split
  rcases split with ⟨more, -, later⟩ | ⟨more, isBlock, later⟩
  · exact uninterrupted more between after first last (by simpa using later) same entry isBetween
  · cases more with
    | nil =>
      exact uninterrupted [] between after first last (by simpa using later.symm) same entry isBetween
    | cons head tail =>
      obtain ⟨rfl, later⟩ : first = head ∧ between ++ last :: after = tail ++ rest := by
        simpa using later
      have isFirst : first.1 = index := own first (by simp [isBlock])
      rcases List.append_eq_append_iff.1 later with ⟨behind, isTail, -⟩ | ⟨behind, -, isRest⟩
      · rw [isFirst]
        exact own entry (by simp [isBlock, isTail, isBetween])
      · -- the last entry would be behind the block
        exact absurd (same.symm.trans isFirst) (others last (by simp [isRest]))

/-- Blocks of different origins, one after the other, are uninterrupted. -/
theorem uninterrupted_inBlocks {resizes : List Resized}
    (once : (resizes.map (·.index)).Nodup) : Uninterrupted (inBlocks resizes) := by
  induction resizes with
  | nil =>
    intro before between after first last split
    simp [inBlocks] at split
  | cons first rest inductionHypothesis =>
    obtain ⟨isNew, once⟩ := List.nodup_cons.1 once
    have own : ∀ entry ∈ first.exchanges.map (first.index, ·), entry.1 = first.index := by simp
    refine (inductionHypothesis once).append own fun entry isIn same => ?_
    obtain ⟨resized, isResized, isEntry⟩ := List.mem_flatMap.1 isIn
    obtain ⟨exchange, -, rfl⟩ := List.mem_map.1 isEntry
    exact isNew (List.mem_map.2 ⟨resized, isResized, same⟩)

/-! ## Any schedule -/

section

variable (manager : Handler Scripted.interface τ) (calls : List ResizeCall)
  (first : List Nat × τ)

/-- Those served have done what they would have done one after the other. -/
def AsInOrder (served : List (Nat × Except ProviderError Unit)) : Prop :=
  (inOrder manager calls (served.map (·.1)) first).1.map
      (fun resized => (resized.index, resized.result)) =
    served.map fun (index, result) => (index, some result)

/-- What is claimed while nobody is at work: everything is as after those served, one after the
other. -/
def Settled (served : List (Nat × Except ProviderError Unit))
    (trace : List (Nat × Exchange (Targets.sum Scripted.interface))) (state : List Nat × τ) : Prop :=
  let before := inOrder manager calls (served.map (·.1)) first
  AsInOrder manager calls first served ∧ managed trace = inBlocks before.1 ∧ before.2 = state

/-- What is claimed while a resize is at work: with what is left it does what it would have done
alone, after those served. -/
def Underway (served : List (Nat × Except ProviderError Unit))
    (trace : List (Nat × Exchange (Targets.sum Scripted.interface))) (index : Nat)
    (rest : Plan (Targets.sum Scripted.interface) (Except ProviderError Unit))
    (state : List Nat × τ) : Prop :=
  let before := inOrder manager calls (served.map (·.1)) first
  AsInOrder manager calls first served ∧ rest.Proceeds ∧ ∃ call past,
    caller? calls index = some call ∧
    managed trace = inBlocks before.1 ++ (past.filterMap managed?).map (index, ·) ∧
    let later := rest.transcript (Targets.answer.sum manager) state
    (call.group.resize Scripted.provisioner call.delta).run.transcript
      (Targets.answer.sum manager) before.2 = { later with exchanges := past ++ later.exchanges }

variable {manager calls first}

/-- Questions that are no part of a resize are not seen among its exchanges. -/
theorem managed_append (trace : List (Nat × Exchange (Targets.sum Scripted.interface))) (index : Nat)
    (exchange : Exchange (Targets.sum Scripted.interface)) :
    managed (trace ++ [(index, exchange)]) =
      managed trace ++ ([exchange].filterMap managed?).map (index, ·) := by
  unfold managed
  rw [List.filterMap_append]
  cases isManaged : managed? exchange <;> simp [isManaged]

/-- Others ask the manager only for nodes and names. -/
abbrev Others : (Targets.sum Scripted.interface).Question → Prop :=
  Glances fun question => question.ofResize = false

/-- The questions of others are not seen and change nothing. -/
theorem pass (ignores : ∀ (question : Scripted.Question) (state : τ),
      question.ofResize = false → (manager question state).2 = state)
    {question : (Targets.sum Scripted.interface).Question} (harms : Others question)
    (state : List Nat × τ) :
    managed? ⟨question, (Targets.answer.sum manager question state).1⟩ = none ∧
      (Targets.answer.sum manager question state).2 = state := by
  match question with
  | .inl (.read cell) => exact ⟨rfl, rfl⟩
  | .inl (.create _) | .inl (.write _ _) => exact harms.elim
  | .inr question =>
    have notOfResize : question.ofResize = false := harms
    refine ⟨?_, Prod.ext rfl (ignores question state.2 notOfResize)⟩
    simp [managed?, Exchange.right?, notOfResize]

/-- Resizes are guarded by their lock. -/
theorem resizes_guarded (groups : List NodeGroup) (instants : List Duration)
    (ignores : ∀ (question : Scripted.Question) (state : τ),
      question.ofResize = false → (manager question state).2 = state) :
    Concurrent.Guards (Targets.answer.sum manager) (fun _ _ => False) Others
      (jobs Scripted.provisioner groups calls instants) (Settled manager calls first)
      (Underway manager calls first) where
  enter isJob sound := by
    obtain ⟨caller, call, rfl, isCall, rfl⟩ := jobs_errand isJob
    obtain ⟨asInOrder, traced, rfl⟩ := sound
    exact ⟨asInOrder, work_proceeds call, call, [], isCall, by simpa using traced, rfl⟩
  ask {_ _ _ state question _} sound := by
    obtain ⟨asInOrder, proceeds, call, past, isCall, traced, same⟩ := sound
    let exchange : Exchange (Targets.sum Scripted.interface) :=
      ⟨question, (Targets.answer.sum manager question state).1⟩
    refine ⟨asInOrder, proceeds _, call, past ++ [exchange], isCall, ?_, ?_⟩
    · rw [managed_append, traced, List.append_assoc, List.filterMap_append, List.map_append]
    · rw [same]
      simp [Plan.transcript, Transcript.cons, exchange]
  wait sound := sound
  proceed sound := sound.2.1
  leave {served _ index state value} sound := by
    obtain ⟨asInOrder, -, call, past, isCall, traced, same⟩ := sound
    obtain ⟨result, left, exchanges⟩ := alone_eq manager call
      (inOrder manager calls (served.map (·.1)) first).2
    rw [same] at result left exchanges
    have more := inOrder_append manager (served.map (·.1)) isCall first
    unfold Settled AsInOrder
    rw [List.map_append, List.map_singleton, more]
    refine ⟨?_, ?_, left⟩
    · rw [List.map_append, List.map_append, asInOrder]
      exact congrArg _ (congrArg (fun result => [(index, result)]) result)
    · rw [traced]
      simp only [inBlocks, List.flatMap_append, List.flatMap_singleton, exchanges]
      simp
  passFree harms sound := by
    obtain ⟨unseen, unchanged⟩ := pass ignores harms _
    rw [unchanged]
    refine ⟨sound.1, ?_, sound.2.2⟩
    rw [managed_append]
    simpa [unseen] using sound.2.1
  passHeld harms sound := by
    obtain ⟨unseen, unchanged⟩ := pass ignores harms _
    rw [unchanged]
    obtain ⟨asInOrder, proceeds, call, past, isCall, traced, same⟩ := sound
    refine ⟨asInOrder, proceeds, call, past, isCall, ?_, same⟩
    rw [managed_append]
    simpa [unseen] using traced
  disturbFree change := change.elim
  disturbHeld change := change.elim

/-- Asking for nodes is no part of a resize. -/
theorem nodes_harmless (group : NodeGroup) :
    (group.nodes Scripted.provisioner).run.Harmless
      (fun question : Scripted.Question => question.ofResize = false) fun _ => True := by
  refine ⟨rfl, fun (reply : Reply (List String)) => ?_⟩
  change (ite (reply.delay.nanoseconds = 0) (Plan.done reply.result) _).Harmless _ _
  split
  · trivial
  · exact (Plan.harmless_pause _).bind fun _ _ => ⟨rfl, fun _ => trivial⟩

/-- Those who have done what they would have done in order are those of the order. -/
theorem AsInOrder.indices {served : List (Nat × Except ProviderError Unit)}
    (asInOrder : AsInOrder manager calls first served) :
    (inOrder manager calls (served.map (·.1)) first).1.map (·.index) = served.map (·.1) := by
  have same := congrArg (List.map Prod.fst) asInOrder
  simpa [Function.comp_def] using same

/-- At any instant the manager calls of the resizes are uninterrupted: there is a block for each
one served, and one more for the one at work. -/
theorem uninterrupted_of_claimed {service : Service (Targets.sum Scripted.interface) _}
    {trace : List (Nat × Exchange (Targets.sum Scripted.interface))} {state : List Nat × τ}
    (once : service.arrived.Nodup)
    (claimed : Concurrent.Claimed (Settled manager calls first) (Underway manager calls first)
      service trace state) : Uninterrupted (managed trace) := by
  cases holder : service.holder with
  | none =>
    simp only [Concurrent.Claimed, holder] at claimed
    obtain ⟨asInOrder, traced, -⟩ := claimed
    rw [traced]
    refine uninterrupted_inBlocks ?_
    rw [asInOrder.indices]
    exact (List.nodup_append.1 (List.nodup_append.1 once).1).1
  | some held =>
    obtain ⟨index, rest⟩ := held
    simp only [Concurrent.Claimed, holder] at claimed
    obtain ⟨asInOrder, -, call, past, -, traced, -⟩ := claimed
    have blocks : managed trace = inBlocks ((inOrder manager calls (service.served.map (·.1)) first).1
        ++ [⟨index, past.filterMap managed?, none⟩]) := by
      rw [traced]
      simp [inBlocks]
    rw [blocks]
    refine uninterrupted_inBlocks ?_
    rw [List.map_append, asInOrder.indices]
    have apart := (List.nodup_append.1 once).1
    rw [holder] at apart
    exact apart

variable (manager calls first)

/-- What comes of resizes is what would come of them one after the other, in the order in which
they asked for the lock. -/
structure Serialized (events : List (Nat × Concurrent.Act (Targets.sum Scripted.interface)))
    (run : Concurrent (Targets.sum Scripted.interface) (List Nat × τ) TrafficEvent) : Prop where
  /-- Every caller has asked for the lock once. -/
  everyone : (Concurrent.arrivals events).Perm (List.range' 1 calls.length)
  /-- Every caller has given it back, and they did so in the order in which they asked. -/
  departures : Concurrent.departures events = Concurrent.arrivals events
  /-- The manager has seen what it would have seen. -/
  exchanges : managed (Concurrent.exchanges events) =
    inBlocks (inOrder manager calls (Concurrent.arrivals events) first).1
  /-- Every caller has got the result that it would have got. -/
  results : ∀ caller < calls.length,
    ∃ resized ∈ (inOrder manager calls (Concurrent.arrivals events) first).1,
      resized.index = caller + 1 ∧ ∃ finish ∈ run.finished, finish.index = caller + 1 ∧
        ∃ result target, finish.value = .resized result target ∧ resized.result = some result
  /-- Nobody has ended twice. -/
  once : (run.finished.map (·.index)).Nodup
  /-- The targets and the manager are as they would have been. -/
  state : run.state = (inOrder manager calls (Concurrent.arrivals events) first).2

variable {manager calls first}

/-- Every caller is a job. -/
theorem jobs_caller {groups : List NodeGroup} {instants : List Duration} {caller : Nat}
    (isCaller : caller < calls.length) :
    (jobs Scripted.provisioner groups calls instants)[caller + 1]? =
      some (.errand (errand Scripted.provisioner calls[caller])) := by
  simp [jobs, isCaller]

/-- Every job but the first is an errand. -/
theorem isErrand_eq {groups : List NodeGroup} {instants : List Duration} {index : Nat}
    (isKnown : index < (jobs Scripted.provisioner groups calls instants).length) :
    decide (index ≠ 0) =
      Concurrent.IsErrand (jobs Scripted.provisioner groups calls instants) index := by
  cases index with
  | zero => rfl
  | succ caller =>
    have isCaller : caller < calls.length := by simpa [jobs] using isKnown
    rw [Concurrent.IsErrand, jobs_caller isCaller]
    rfl

/-- In the end every caller has asked for the lock, and nobody else has. -/
theorem everyone_perm {groups : List NodeGroup} {instants : List Duration}
    {events : List (Nat × Concurrent.Act (Targets.sum Scripted.interface))}
    {run : Concurrent (Targets.sum Scripted.interface) (List Nat × τ) TrafficEvent}
    {service : Service (Targets.sum Scripted.interface) (Except ProviderError Unit)}
    (serves : Concurrent.Serves Others Reports (jobs Scripted.provisioner groups calls instants)
      events run service) (isOver : run.Over) :
    service.arrived.Perm (List.range' 1 calls.length) := by
  refine (List.perm_ext_iff_of_nodup serves.once List.nodup_range').2 fun index => ?_
  rw [List.mem_range'_1]
  constructor
  · intro arrived
    obtain ⟨_, isErrand⟩ := serves.isErrand_of_arrived arrived
    obtain ⟨caller, call, rfl, isCall, -⟩ := jobs_errand isErrand
    have isCaller := (List.getElem?_eq_some_iff.1 isCall).1
    omega
  · rintro ⟨notFirst, isCaller⟩
    obtain ⟨caller, rfl⟩ : ∃ caller, index = caller + 1 := ⟨index - 1, by omega⟩
    have isCaller : caller < calls.length := by omega
    obtain ⟨result, served, -⟩ := serves.finished_of_over isOver (jobs_caller isCaller)
    exact List.mem_append_left _ (List.mem_append_left _ (List.mem_map.2 ⟨_, served, rfl⟩))

/-- **Resizes are serialized.** Let a manager answer about sizes and new machines without regard
to other calls. Then no schedule lets the manager calls of two resizes overlap, and when nothing
can go on any more, everything has come as if the callers had come one after the other. If no
plan moves while another one is active, the callers also end in this order. -/
theorem resizes_serialized (groups : List NodeGroup) (instants : List Duration)
    (ignores : ∀ (question : Scripted.Question) (state : τ),
      question.ofResize = false → (manager question state).2 = state)
    {schedule : Concurrent.Schedule (Targets.sum Scripted.interface) (List Nat × τ) TrafficEvent}
    {events : List (Nat × Concurrent.Act (Targets.sum Scripted.interface))}
    {run : Concurrent (Targets.sum Scripted.interface) (List Nat × τ) TrafficEvent}
    (interleaving : Concurrent.Interleaving (Targets.answer.sum manager) (fun _ _ => False) schedule
      (.start (plans Scripted.provisioner groups calls instants) first) events run) :
    Uninterrupted (managed (Concurrent.exchanges events)) ∧
      (run.Over → Serialized manager calls first events run ∧
        (schedule.InTurn →
          (run.finished.map (·.index)).filter (· ≠ 0) = Concurrent.arrivals events)) := by
  rw [plans_eq] at interleaving
  have guards : Concurrent.Guards (Targets.answer.sum manager) (fun _ _ => False) Others
      (jobs Scripted.provisioner groups calls instants) (Settled manager calls first)
      (Underway manager calls first) := resizes_guarded groups instants ignores
  have isOrderly : Concurrent.Orderly Others Reports
      (jobs Scripted.provisioner groups calls instants) := orderly fun group _ =>
      nodes_harmless group
  have start : Settled manager calls first [] [] first := ⟨rfl, rfl, rfl⟩
  obtain ⟨service, serves, claimed⟩ := interleaving.explained guards isOrderly start
  refine ⟨uninterrupted_of_claimed serves.once claimed, fun isOver => ?_⟩
  obtain ⟨noHolder, noQueue⟩ := serves.idle_of_over isOver
  have arrived : Concurrent.arrivals events = service.served.map (·.1) := by
    simp [serves.arrived, Service.arrived, noHolder, noQueue]
  simp only [Concurrent.Claimed, noHolder] at claimed
  obtain ⟨asInOrder, traced, left⟩ := claimed
  refine ⟨⟨?_, ?_, ?_, ?_, interleaving.once, ?_⟩, fun inTurn => ?_⟩
  · rw [serves.arrived]
    exact everyone_perm serves isOver
  · rw [serves.departed, arrived]
  · rw [arrived, traced]
  · intro caller isCaller
    obtain ⟨result, served, finish, listed, own, target, reported⟩ :=
      serves.finished_of_over isOver (jobs_caller isCaller)
    have inList : (caller + 1, some result) ∈
        (inOrder manager calls (service.served.map (·.1)) first).1.map
          fun resized => (resized.index, resized.result) := by
      rw [asInOrder]
      exact List.mem_map.2 ⟨_, served, rfl⟩
    obtain ⟨resized, isIn, same⟩ := List.mem_map.1 inList
    rw [arrived]
    exact ⟨resized, isIn, congrArg (·.1) same, finish, listed, own, result, target, reported,
      congrArg (·.2) same⟩
  · rw [arrived, left]
  · have order := interleaving.finishers guards isOrderly start inTurn
      (fun _ _ isJob => report_prompt isJob) isOver
    rw [← order]
    refine List.filter_congr fun index isIn => ?_
    obtain ⟨finish, listed, rfl⟩ := List.mem_map.1 isIn
    have isKnown : finish.index < run.tasks.length :=
      (List.getElem?_eq_some_iff.1 (interleaving.ended listed)).1
    exact isErrand_eq (serves.length ▸ isKnown)

/-- A manager that counts machines and takes a second for every reply. -/
def counting : Handler Scripted.interface Nat
  | .begin (.size _), count => (⟨⟨1000000000⟩, .ok count⟩, count)
  | .begin (.create _ more), count => (⟨⟨1000000000⟩, .ok ()⟩, count + more)
  | .begin (.nodes _), count | .begin (.names _), count => (⟨⟨1000000000⟩, .ok []⟩, count)
  | .finish _, count => ((), count)

/-- Two callers want the lock at the same time. By the clock both resizes come to their end, and
the target counts the machines of both. -/
theorem two_resizes_serialized :
    let group : NodeGroup := ⟨⟨"workers", 0, 9⟩, 0⟩
    let calls : List ResizeCall := [⟨group, 2, .zero⟩, ⟨group, 3, .zero⟩]
    let start := Concurrent.start (plans Scripted.provisioner [group] calls [.zero]) ([0], 0)
    ∃ events run, Concurrent.Interleaving (Targets.answer.sum counting) (fun _ _ => False) .clock start
        events run ∧ run.Over ∧ Serialized counting calls ([0], 0) events run ∧
      run.state = ([5], 5) := by
  intro group calls start
  have begins : Concurrent.Interleaving (Targets.answer.sum counting) (fun _ _ => False) .clock start
      [] start := .start
  obtain ⟨events, interleaving, isOver⟩ := Concurrent.complete_interleaving begins
  have ignores : ∀ (question : Scripted.Question) (state : Nat),
      question.ofResize = false → (counting question state).2 = state := by
    intro question state
    match question with
    | .begin (.size _) | .begin (.create _ _) => exact nofun
    | .begin (.nodes _) | .begin (.names _) | .finish _ => exact fun _ => rfl
  have serialized := ((resizes_serialized [group] [.zero] ignores interleaving).2 isOver).1
  refine ⟨events, _, interleaving, isOver, serialized, ?_⟩
  rw [serialized.state]
  have order := List.mem_permutations'.2 serialized.everyone
  generalize Concurrent.arrivals events = arrived at order
  rcases List.mem_pair.1 (show arrived ∈ [[1, 2], [2, 1]] from order) with rfl | rfl <;> rfl

end

end Traffic

end NodeScaler
