import NodeScaler.Proofs.Provider.Increasing
import NodeScaler.Proofs.Provider.Prospects

/-!
# How resizes over an inventory in memory come out

A call for machines over an inventory in memory reads the names of the members, and makes as many
trials as are needed from the next number on. A resize in addition compares the number of members
with the greatest size before, and writes the target.
-/

namespace NodeScaler

open Plan (Gives)

namespace Cloning

variable {cloning : Cloning} {group : String} {memory : Memory}

/-! ## Trials and members -/

/-- A machine that a trial adds joins the group if no tag is missing. -/
theorem joins_addition (cloning : Cloning) (group name : String) (memory : Memory) :
    (⟨name, (cloning.tagsFor group).takeWhile memory.hasTag⟩ : Addition).joins cloning.cluster group =
      (missing? (cloning.tagsFor group) memory).isNone := by
  have differ := clusterTag_ne_groupTag cloning.cluster group
  cases hasCluster : memory.hasTag (clusterTag cloning.cluster) <;>
    cases hasGroup : memory.hasTag (groupTag group) <;>
      simp [Addition.joins, tagsFor, missing?, hasCluster, hasGroup, differ.symm]

/-- After trials the same tags are missing. -/
theorem missing?_afterTrials (tags : List String) (trials : List Trial) :
    missing? tags (cloning.afterTrials group trials memory) = missing? tags memory := by
  rw [missing?, missing?, hasTag_afterTrials]

/-- A machine has both tags if no tag is missing. -/
theorem isTagged_of_mem_trialsIn {length number : Nat} {trial : Trial}
    (isTrial : trial ∈ cloning.trialsIn group length number memory) :
    trial.fate.isTagged =
      (trial.fate.isCloned && (missing? (cloning.tagsFor group) memory).isNone) := by
  induction length generalizing number memory with
  | zero => cases isTrial
  | succ length inductionHypothesis =>
    rw [trialsIn] at isTrial
    rcases List.mem_cons.1 isTrial with rfl | isLater
    · unfold fateIn
      split
      · rfl
      · split
        · next missed => simp [missed, Fate.isTagged]
        · next complete => simp [complete, Fate.isTagged, Fate.isCloned]
    · rw [inductionHypothesis isLater, missing?_afterTrials]

/-- The names of the machines that join by trials. -/
theorem names_joining {trials : List Trial} (tagged : ∀ trial ∈ trials, trial.fate.isTagged =
      (trial.fate.isCloned && (missing? (cloning.tagsFor group) memory).isNone)) :
    ((trials.filterMap (cloning.addition? group memory)).filter
      (·.joins cloning.cluster group)).map (·.name) =
        (trials.filter (·.fate.isTagged)).map fun trial =>
          machineName cloning.cluster group trial.number := by
  induction trials with
  | nil => rfl
  | cons trial later inductionHypothesis =>
    have behind := inductionHypothesis fun other isIn => tagged other (List.mem_cons_of_mem _ isIn)
    have isTagged := tagged trial List.mem_cons_self
    cases isCloned : trial.fate.isCloned with
    | false =>
      have adds : cloning.addition? group memory trial = none := by simp [addition?, isCloned]
      rw [isCloned, Bool.false_and] at isTagged
      rw [List.filterMap_cons_none adds, List.filter_cons_of_neg (by simp [isTagged]), behind]
    | true =>
      have adds : cloning.addition? group memory trial = some
          ⟨machineName cloning.cluster group trial.number,
            (cloning.tagsFor group).takeWhile memory.hasTag⟩ := if_pos isCloned
      have joins := joins_addition cloning group (machineName cloning.cluster group trial.number) memory
      rw [isCloned, Bool.true_and, ← joins] at isTagged
      rw [List.filterMap_cons_some adds, List.filter_cons, List.filter_cons, isTagged]
      split
      · rw [List.map_cons, List.map_cons, behind]
      · exact behind

/-! ## Calls for machines -/

/-- The number of the first trial of a call for machines. -/
def firstNumber (cloning : Cloning) (group : String) (memory : Memory) : Nat :=
  nextNumber (stem cloning.cluster group) (namesIn cloning.cluster group memory)

/-- The last number of the members, which is to be counted on. -/
def lastNumberIn (cloning : Cloning) (group : String) (memory : Memory) : Nat :=
  lastNumber (stem cloning.cluster group) (namesIn cloning.cluster group memory)

/-- A call for machines makes as many trials as are needed, and the account of those that count is
its result. -/
theorem create_gives (cloning : Cloning) (group : String) (count : Nat) (sound : memory.Sound) :
    ∃ length,
      let trials := cloning.trialsIn group length (cloning.firstNumber group memory) memory
      (cloning.create Memory.client group count).run.Gives Memory.answer memory
        ((tally cloning group (counted mostCollisions trials)).result count)
        (cloning.afterTrials group trials memory) ∧
      Enough mostCollisions count trials := by
  obtain ⟨length, all, enough⟩ := makeAll_gives cloning group count mostCollisions
    (cloning.firstNumber group memory) memory
  have names : (cloning.names Memory.client group).run.Gives Memory.answer memory
      (.ok (namesIn cloning.cluster group memory)) memory :=
    (names_settles (memory_views memory) sound cloning group).gives
  exact ⟨length, names.attempt (all.map _), enough⟩

/-- The number of members is told in 32 bits. -/
theorem size_gives (cloning : Cloning) (group : String) (memory : Memory) :
    ((cloning.provisioner Memory.client).size group).run.Gives Memory.answer memory
      (.ok (memory.live cloning.cluster group % Nat.pow 2 32)) memory :=
  (count_settles (memory_views memory) cloning group).gives

end Cloning

/-! ## Resizes -/

namespace NodeGroup

variable {I : Interface} {σ : Type} {handler : Handler I σ} {group : NodeGroup}
  {provisioner : Provisioner I} {delta : Int} {cells : List Nat} {state middle last : σ}

/-- Under the lock a resize gives what it gives without it. -/
theorem increase_gives {result : Except ProviderError Unit} {later : List Nat × σ}
    {exchanges : List (Exchange (Targets.sum I))}
    (whole : (group.resize provisioner delta).run.transcript (Targets.answer.sum handler)
      (cells, state) = ⟨exchanges, some result, later⟩) :
    (group.increase provisioner delta).run.Gives (alone handler) ((), cells, state) result
      ((), later) :=
  (Plan.gives_of_transcript whole).locked

/-- A resize by nothing or less changes nothing. -/
theorem increase_senseless (notPositive : delta ≤ 0) :
    (group.increase provisioner delta).run.Gives (alone handler) ((), cells, state)
      (.error (.invalidArgument "node group size increase must be positive")) ((), cells, state) :=
  increase_gives (resize_senseless handler group provisioner cells state notPositive)

/-- A resize that would make the group too large changes nothing but what reading the size does. -/
theorem increase_tooMany (positive : 0 < delta) {size : Nat}
    (sized : (provisioner.size group.spec.name).run.Gives handler state (.ok size) middle)
    (tooLarge : group.spec.maxSize < size + delta.toNat) :
    (group.increase provisioner delta).run.Gives (alone handler) ((), cells, state)
      (.error (.sizeLimitExceeded (size + delta.toNat) group.spec.maxSize)) ((), cells, middle) := by
  obtain ⟨asked, isSize⟩ := sized.exists_transcript
  exact increase_gives (resize_tooMany group cells positive isSize tooLarge)

/-- A resize of a group that is small enough ends as the call for machines, and the target grows by
what the call reports. -/
theorem increase_made (positive : 0 < delta) {size : Nat} {result : Except ProviderError Unit}
    (sized : (provisioner.size group.spec.name).run.Gives handler state (.ok size) middle)
    (room : size + delta.toNat ≤ group.spec.maxSize)
    (created : (provisioner.create group.spec.name delta.toNat).run.Gives handler middle result
      last) :
    (group.increase provisioner delta).run.Gives (alone handler) ((), cells, state) result
      ((), cells.set group.cell
        (min (cells.getD group.cell 0 + Cloning.made delta.toNat result) group.spec.maxSize),
        last) := by
  obtain ⟨asked, isSize⟩ := sized.exists_transcript
  obtain ⟨ordered, isResult⟩ := created.exists_transcript
  exact increase_gives (resize_made group cells positive isSize room isResult)

end NodeGroup

end NodeScaler
