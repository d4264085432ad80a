import NodeScaler.Proofs.Plan.Finishing
import NodeScaler.Provider.Traffic

/-!
# A resize as an errand

A resize waits, does its work under the lock, and reads its target afterwards. The work is
spelled out here once: a look at the size of the group, the raised target, the machines, and
the corrected target if some of them failed. The observer reads and asks for nodes, and never
asks for the lock.
-/

namespace NodeScaler

/-- What follows the result of an attempt follows the attempt itself. -/
theorem Attempt.run_result_bind {I : Interface} {ε ε' α β : Type} (attempt : Attempt I ε α)
    (next : Except ε α → Attempt I ε' β) :
    (attempt.result >>= next).run = attempt.run >>= fun result => (next result).run :=
  Plan.bind_assoc _ _ _

namespace NodeGroup

variable {I : Interface}

/-- What a resize does when it knows how the machines were made: it corrects the target unless
all of them were. -/
def settle (group : NodeGroup) (previous : Nat) :
    Except ProviderError Unit → Plan (Targets.sum I) (Except ProviderError Unit)
  | .ok () => .done (.ok ())
  | .error error =>
    .ask (I := Targets.sum I)
      (.inl (TargetRequest.write group.cell (min (previous + error.created) group.spec.maxSize)))
      fun _ => .done (.error error)

/-- What a resize asks, in order. -/
theorem resize_run (group : NodeGroup) (provisioner : Provisioner I) (delta : Int) :
    (group.resize provisioner delta).run =
      if delta ≤ 0 then
        .done (.error (.invalidArgument "node group size increase must be positive"))
      else
        (provisioner.size group.spec.name).run.right >>= fun
          | .error error => .done (.error error)
          | .ok size =>
            if group.spec.maxSize < size + delta.toNat then
              .done (.error (.sizeLimitExceeded (size + delta.toNat) group.spec.maxSize))
            else
              .ask (I := Targets.sum I) (.inl (TargetRequest.read group.cell))
                fun (previous : Nat) =>
              .ask (I := Targets.sum I) (.inl (TargetRequest.write group.cell
                (min (previous + delta.toNat) group.spec.maxSize))) fun _ =>
              (provisioner.create group.spec.name delta.toNat).run.right >>=
                group.settle previous := by
  unfold resize
  by_cases notPositive : delta ≤ 0
  · simp only [if_pos notPositive]
    rfl
  · simp only [if_neg notPositive]
    refine congrArg ((provisioner.size group.spec.name).run.right >>= ·) (funext fun found => ?_)
    cases found with
    | error error => rfl
    | ok size =>
      simp only [ExceptT.bindCont]
      by_cases tooMany : group.spec.maxSize < size + delta.toNat
      · simp only [if_pos tooMany]
        rfl
      · simp only [if_neg tooMany]
        refine congrArg (Plan.ask (I := Targets.sum I) (.inl (TargetRequest.read group.cell)))
          (funext fun previous => ?_)
        refine congrArg (Plan.ask (I := Targets.sum I) _) (funext fun _ => ?_)
        refine (Attempt.run_result_bind _ _).trans ?_
        refine congrArg ((provisioner.create group.spec.name delta.toNat).run.right >>= ·)
          (funext fun result => ?_)
        cases result <;> rfl

/-- A resize has a result whatever it is told, if the provisioner always has one. -/
theorem resize_proceeds (group : NodeGroup) {provisioner : Provisioner I} (delta : Int)
    (size : (provisioner.size group.spec.name).run.Proceeds)
    (create : ∀ count, (provisioner.create group.spec.name count).run.Proceeds) :
    (group.resize provisioner delta).run.Proceeds := by
  rw [resize_run]
  split
  · trivial
  · refine size.right.bind fun found => ?_
    cases found with
    | error error => trivial
    | ok found =>
      dsimp only
      split
      · trivial
      · intro previous _
        refine (create _).right.bind fun result => ?_
        cases result with
        | ok => trivial
        | error error => exact fun _ => trivial

end NodeGroup

namespace Traffic

variable {I : Interface}

/-! ## The observer -/

/-- What the observer asks: targets, and what is harmless to ask of the provisioner. -/
def Glances (harmless : I.Question → Prop) : (Targets.sum I).Question → Prop
  | .inl (.read _) => True
  | .inl _ => False
  | .inr question => harmless question

variable {harmless : I.Question → Prop}

/-- What is harmless to ask of the provisioner is harmless beside the targets. -/
theorem harmless_right {α : Type} {plan : Plan I α} {kind : α → Prop}
    (safe : plan.Harmless harmless kind) :
    (plan.right : Plan (Targets.sum I) α).Harmless (Glances harmless) kind := by
  induction plan with
  | done value => exact safe
  | ask question next inductionHypothesis =>
    exact ⟨safe.1, fun answer => inductionHypothesis answer (safe.2 answer)⟩
  | wait span next inductionHypothesis => exact inductionHypothesis safe
  | stall => exact safe.elim

/-- Looking at a group is harmless if asking for its nodes is. -/
theorem harmless_glimpse {provisioner : Provisioner I} {group : NodeGroup}
    (nodes : (group.nodes provisioner).run.Harmless harmless fun _ => True) :
    (glimpse provisioner group).Harmless (Glances harmless) fun _ => True :=
  ⟨trivial, fun _ => (harmless_right nodes).bind fun _ _ => trivial⟩

/-- Looking at several groups is harmless. -/
theorem harmless_glimpses {provisioner : Provisioner I} {groups : List NodeGroup}
    (nodes : ∀ group ∈ groups, (group.nodes provisioner).run.Harmless harmless fun _ => True) :
    (groups.mapM (glimpse provisioner)).Harmless (Glances harmless) fun _ => True := by
  induction groups with
  | nil => trivial
  | cons first rest inductionHypothesis =>
    rw [List.mapM_cons]
    refine (harmless_glimpse (nodes first List.mem_cons_self)).bind fun _ _ => ?_
    refine (inductionHypothesis fun group isIn => nodes group (List.mem_cons_of_mem _ isIn)).bind
      fun _ _ => trivial

/-- Looking at the groups again and again is harmless. -/
theorem harmless_looks {provisioner : Provisioner I} {groups : List NodeGroup} {now : Duration}
    {instants : List Duration}
    (nodes : ∀ group ∈ groups, (group.nodes provisioner).run.Harmless harmless fun _ => True) :
    (looks provisioner groups now instants).Harmless (Glances harmless) fun _ => True := by
  induction instants generalizing now with
  | nil => trivial
  | cons instant later inductionHypothesis =>
    refine Plan.Harmless.bind (.timed ?_) fun _ _ =>
      inductionHypothesis.bind fun _ _ => trivial
    exact (Plan.harmless_pause _).bind fun _ _ => harmless_glimpses nodes

/-! ## The jobs -/

/-- A resize as an errand. -/
def errand (provisioner : Provisioner I) (call : ResizeCall) :
    Errand (Targets.sum I) (Except ProviderError Unit) TrafficEvent where
  approach := Plan.pause call.after
  work := (call.group.resize provisioner call.delta).run
  report result := do return .resized result (← call.group.target.right)

/-- The observer and the callers as jobs, the observer first. -/
def jobs (provisioner : Provisioner I) (groups : List NodeGroup) (calls : List ResizeCall)
    (instants : List Duration) :
    List (Job (Targets.sum I) (Except ProviderError Unit) TrafficEvent) :=
  .aside (observe provisioner groups instants) ::
    calls.map fun call => .errand (errand provisioner call)

/-- The plans of the traffic are those of the jobs. -/
theorem plans_eq (provisioner : Provisioner I) (groups : List NodeGroup) (calls : List ResizeCall)
    (instants : List Duration) :
    plans provisioner groups calls instants =
      (jobs provisioner groups calls instants).map Job.plan := by
  have same (call : ResizeCall) : resize provisioner call = (errand provisioner call).plan := by
    rw [Errand.plan_eq]
    rfl
  simp only [plans, jobs, List.map_cons, List.map_map, Job.plan]
  exact congrArg _ (List.map_congr_left fun call _ => same call)

/-- A caller reports how its resize ended. -/
def Reports (_ : Nat) (result : Except ProviderError Unit) (event : TrafficEvent) : Prop :=
  ∃ target, event = .resized result target

variable {provisioner : Provisioner I} {groups : List NodeGroup} {calls : List ResizeCall}
  {instants : List Duration}

/-- The callers are those after the first job. -/
theorem jobs_errand {index : Nat} {errand : Errand (Targets.sum I) _ TrafficEvent}
    (isJob : (jobs provisioner groups calls instants)[index]? = some (.errand errand)) :
    ∃ caller call, index = caller + 1 ∧ calls[caller]? = some call ∧
      errand = Traffic.errand provisioner call := by
  cases index with
  | zero => cases isJob
  | succ caller =>
    rw [jobs, List.getElem?_cons_succ, List.getElem?_map] at isJob
    obtain ⟨call, isCall, same⟩ := Option.map_eq_some_iff.1 isJob
    cases same
    exact ⟨caller, call, rfl, isCall, rfl⟩

/-- The jobs are orderly: beside the work of the callers nothing is asked but targets and
nodes. -/
theorem orderly (nodes : ∀ group ∈ groups,
      (group.nodes provisioner).run.Harmless harmless fun _ => True) :
    Concurrent.Orderly (Glances harmless) Reports
      (jobs provisioner groups calls instants) where
  aside {index plan} isJob := by
    cases index with
    | zero =>
      cases isJob
      exact (harmless_looks nodes).quiet.bind fun _ _ => trivial
    | succ caller =>
      rw [jobs, List.getElem?_cons_succ, List.getElem?_map] at isJob
      obtain ⟨call, -, same⟩ := Option.map_eq_some_iff.1 isJob
      cases same
  approach isJob := by
    obtain ⟨_, call, -, -, rfl⟩ := jobs_errand isJob
    exact Plan.quiet_pause _
  report isJob result := by
    obtain ⟨_, call, -, -, rfl⟩ := jobs_errand isJob
    exact ⟨trivial, fun target => ⟨target, rfl⟩⟩

/-- A caller reports at once. -/
theorem report_prompt {index : Nat} {errand : Errand (Targets.sum I) _ TrafficEvent}
    (isJob : (jobs provisioner groups calls instants)[index]? = some (.errand errand))
    (result : Except ProviderError Unit) : (errand.report result).Prompt := by
  obtain ⟨_, call, -, -, rfl⟩ := jobs_errand isJob
  exact fun _ => trivial

end Traffic

end NodeScaler
