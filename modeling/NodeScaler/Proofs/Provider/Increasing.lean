import NodeScaler.Proofs.Provider.Reading
import NodeScaler.Proofs.Provider.Resize

/-!
# What a resize comes to

A resize ends in one of four ways, whatever provisioner is behind it: the number of machines makes
no sense, the size of the group cannot be had, the group would become too large, or machines are
asked for. Only in the last case is the target written, first as if all machines were made, and
once more if some were not. In the end it has grown by what the provisioner reports, up to the
greatest size.
-/

namespace NodeScaler.NodeGroup

variable {I : Interface} {σ : Type} (handler : Handler I σ) (group : NodeGroup)
  (provisioner : Provisioner I) {delta : Int} (cells : List Nat) (state : σ)

/-- The surroundings of resizes that come one after the other. -/
abbrev alone : Handler (Resizing I) (Unit × List Nat × σ) :=
  Locking.uncontended.sum (Targets.answer.sum handler)

/-- The targets that a resize writes down when it knows how the machines were made. -/
def corrections (previous : Nat) : Except ProviderError Unit → List Nat
  | .ok () => []
  | .error error => [min (previous + error.created) group.spec.maxSize]

/-- A target that is written down. -/
def writes (size : Nat) : Exchange (Targets.sum I) :=
  ⟨.inl (.write group.cell size), ()⟩

/-- A resize by nothing or less asks nothing. -/
theorem resize_senseless (notPositive : delta ≤ 0) :
    (group.resize provisioner delta).run.transcript (Targets.answer.sum handler) (cells, state) =
      ⟨[], some (.error (.invalidArgument "node group size increase must be positive")),
        (cells, state)⟩ := by
  rw [resize_run, if_pos notPositive]
  rfl

/-- When it knows how the machines were made, a resize leaves a target that has grown by as many. -/
theorem settle_transcript (previous count : Nat) (result : Except ProviderError Unit)
    (raised : cells.set group.cell (min (previous + count) group.spec.maxSize) = cells) :
    (group.settle previous result).transcript (Targets.answer.sum handler) (cells, state) =
      ⟨(group.corrections previous result).map group.writes, some result,
        (cells.set group.cell (min (previous + Cloning.made count result) group.spec.maxSize),
          state)⟩ := by
  cases result with
  | ok =>
    simp only [Cloning.made, raised]
    rfl
  | error error => rfl

variable {handler provisioner state}

section

variable {asked ordered : List (Exchange I)} {middle last : σ} {size : Nat}

/-- A resize fails if the size of the group cannot be had. -/
theorem resize_unsized (positive : 0 < delta) {error : ProviderError}
    (sized : (provisioner.size group.spec.name).run.transcript handler state =
      ⟨asked, some (.error error), middle⟩) :
    (group.resize provisioner delta).run.transcript (Targets.answer.sum handler) (cells, state) =
      ⟨asked.map .onRight, some (.error error), (cells, middle)⟩ := by
  rw [resize_run, if_neg (Int.not_le.2 positive), ← List.append_nil (asked.map _)]
  exact Plan.transcript_then (Plan.transcript_right_attempt sized Targets.answer cells) rfl

/-- A resize fails if the group would become too large. -/
theorem resize_tooMany (positive : 0 < delta)
    (sized : (provisioner.size group.spec.name).run.transcript handler state =
      ⟨asked, some (.ok size), middle⟩) (tooLarge : group.spec.maxSize < size + delta.toNat) :
    (group.resize provisioner delta).run.transcript (Targets.answer.sum handler) (cells, state) =
      ⟨asked.map .onRight,
        some (.error (.sizeLimitExceeded (size + delta.toNat) group.spec.maxSize)),
        (cells, middle)⟩ := by
  rw [resize_run, if_neg (Int.not_le.2 positive), ← List.append_nil (asked.map _)]
  refine Plan.transcript_then (Plan.transcript_right_attempt sized Targets.answer cells) ?_
  simp [if_pos tooLarge]

/-- In a group that is small enough, machines are asked for, and the target grows by as many as
the provisioner reports. -/
theorem resize_made (positive : 0 < delta)
    (sized : (provisioner.size group.spec.name).run.transcript handler state =
      ⟨asked, some (.ok size), middle⟩) (room : size + delta.toNat ≤ group.spec.maxSize)
    {result : Except ProviderError Unit}
    (created : (provisioner.create group.spec.name delta.toNat).run.transcript handler middle =
      ⟨ordered, some result, last⟩) :
    let previous := cells.getD group.cell 0
    (group.resize provisioner delta).run.transcript (Targets.answer.sum handler) (cells, state) =
      ⟨asked.map .onRight ++ ⟨.inl (.read group.cell), previous⟩ ::
        group.writes (min (previous + delta.toNat) group.spec.maxSize) ::
          (ordered.map .onRight ++ (group.corrections previous result).map group.writes),
        some result,
        (cells.set group.cell
          (min (previous + Cloning.made delta.toNat result) group.spec.maxSize), last)⟩ := by
  intro previous
  let raised := cells.set group.cell (min (previous + delta.toNat) group.spec.maxSize)
  have raisedAgain :
      raised.set group.cell (min (previous + delta.toNat) group.spec.maxSize) = raised :=
    List.set_set _
  have settled := settle_transcript handler group raised last previous delta.toNat result raisedAgain
  have work := Plan.transcript_then
    (Plan.transcript_right_attempt created Targets.answer raised) settled
  rw [resize_run, if_neg (Int.not_le.2 positive)]
  refine Plan.transcript_then (Plan.transcript_right_attempt sized Targets.answer cells) ?_
  dsimp only
  rw [if_neg (Nat.not_lt.2 room)]
  dsimp only [Plan.transcript, Handler.sum, Targets.answer]
  refine (congrArg (fun work => Transcript.cons _ (Transcript.cons _ work)) work).trans ?_
  simp only [Transcript.cons, raised, List.set_set]
  rfl

end

variable {group cells}

/-- Under a lock that nobody else wants, a resize asks for the lock, does its work, and gives the lock
back. -/
theorem increase_transcript {exchanges : List (Exchange (Targets.sum I))}
    {result : Except ProviderError Unit} {last : List Nat × σ}
    (whole : (group.resize provisioner delta).run.transcript (Targets.answer.sum handler)
      (cells, state) = ⟨exchanges, some result, last⟩) :
    (group.increase provisioner delta).run.transcript (alone handler) ((), cells, state) =
      ⟨⟨.inl .acquire, ()⟩ :: (exchanges.map .onRight ++ [⟨.inl .release, ()⟩]), some result,
        ((), last)⟩ := by
  have locked : (group.increase provisioner delta).run.transcript (alone handler) ((), cells, state) =
      _ := transcript_locked_some (congrArg Transcript.value whole)
  rw [locked, whole]

end NodeScaler.NodeGroup
