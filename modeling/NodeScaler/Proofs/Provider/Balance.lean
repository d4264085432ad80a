import Mathlib.Data.List.Nodup
import NodeScaler.Proofs.Provider.Creating
import NodeScaler.Proofs.Provider.Resize

/-!
# Targets and members

Groups that were discovered over an inventory in memory are resized by any number of callers.
While nobody resizes a group its target is the number of its members. A resize raises the target
first, so it is ahead of the members until the outcome is written down, and neither ever passes
the greatest size of the group, unless the group was larger from the start.
-/

namespace NodeScaler

open Relation (ReflTransGen)
open Memory (Standing Elsewhere)

namespace NodeGroup

/-- The target of a group. -/
def targetIn (group : NodeGroup) (state : List Nat × Memory) : Nat := state.1.getD group.cell 0

/-- The number of members of a group. -/
def liveIn (cluster : String) (group : NodeGroup) (state : List Nat × Memory) : Nat :=
  state.2.live cluster group.spec.name

/-- The names of groups. -/
def namesOf (groups : List NodeGroup) : List String := groups.map (·.spec.name)

/-- Something else happens beside the groups. -/
abbrev Around (cluster : String) (groups : List NodeGroup) :
    List Nat × Memory → List Nat × Memory → Prop :=
  Beside (Elsewhere cluster (namesOf groups))

/-- Groups with names and cells of their own, and bounds of 32 bits that cover their greatest
sizes. -/
structure Apart (groups : List NodeGroup) (most : NodeGroup → Nat) : Prop where
  /-- No two have the same name. -/
  names : (namesOf groups).Nodup
  /-- No two have the same cell. -/
  cells : (groups.map (·.cell)).Nodup
  /-- The bounds are not below the greatest sizes. -/
  covers : ∀ group ∈ groups, group.spec.maxSize ≤ most group
  /-- The bounds have 32 bits. -/
  narrow : ∀ group ∈ groups, most group < Nat.pow 2 32

/-- Every target is the number of members, which is within its bound. -/
structure Balanced (cluster : String) (groups : List NodeGroup) (most : NodeGroup → Nat)
    (state : List Nat × Memory) : Prop where
  /-- Only machines carry tags. -/
  sound : state.2.Sound
  /-- Every group has its cell. -/
  stored : ∀ group ∈ groups, group.cell < state.1.length
  /-- The target is the number of members. -/
  same : ∀ group ∈ groups, group.targetIn state = group.liveIn cluster state
  /-- The number of members is within its bound. -/
  bounded : ∀ group ∈ groups, group.liveIn cluster state ≤ most group

/-- The target of one group may be ahead of the number of its members, but not of its bound. -/
structure Ahead (cluster : String) (groups : List NodeGroup) (most : NodeGroup → Nat)
    (group : NodeGroup) (state : List Nat × Memory) : Prop where
  /-- The targets of the others are the numbers of their members. -/
  others : ∀ other ∈ groups, other ≠ group →
    other.targetIn state = other.liveIn cluster state ∧ other.liveIn cluster state ≤ most other
  /-- The members do not pass the target. -/
  behind : group.liveIn cluster state ≤ group.targetIn state
  /-- The target does not pass the bound. -/
  bounded : group.targetIn state ≤ most group

/-- What is written down about the other groups while one is resized. -/
structure Written (groups : List NodeGroup) (most : NodeGroup → Nat) (base : String → Nat)
    (group : NodeGroup) (cells : List Nat) : Prop where
  /-- Every group has its cell. -/
  stored : ∀ other ∈ groups, other.cell < cells.length
  /-- The targets of the others are the numbers of members that they have. -/
  others : ∀ other ∈ groups, other ≠ group →
    cells.getD other.cell 0 = base other.spec.name ∧ base other.spec.name ≤ most other

variable {cluster : String} {groups : List NodeGroup} {most : NodeGroup → Nat}
  {base : String → Nat} {group : NodeGroup} {state : List Nat × Memory} {cells : List Nat}
  {memory : Memory}

/-- Another target of the group itself changes nothing about the others. -/
theorem Written.set (apart : Apart groups most) (isGroup : group ∈ groups)
    (written : Written groups most base group cells) (size : Nat) :
    Written groups most base group (cells.set group.cell size) ∧
      (cells.set group.cell size).getD group.cell 0 = size := by
  refine ⟨⟨fun other isOther => ?_, fun other isOther differs => ?_⟩, ?_⟩
  · rw [List.length_set]
    exact written.stored other isOther
  · have otherCell : group.cell ≠ other.cell := fun same =>
      differs (List.inj_on_of_nodup_map apart.cells isOther isGroup same.symm)
    rw [List.getD_eq_getElem?_getD, List.getElem?_set_ne otherCell, ← List.getD_eq_getElem?_getD]
    exact written.others other isOther differs
  · simp [List.getD_eq_getElem?_getD, written.stored group isGroup]

/-- The group is ahead while it has no more members than its target. -/
theorem Written.ahead (apart : Apart groups most) (isGroup : group ∈ groups)
    (written : Written groups most base group cells)
    (standing : memory.Standing cluster (namesOf groups) base group.spec.name
      (· ≤ cells.getD group.cell 0)) (bounded : cells.getD group.cell 0 ≤ most group) :
    Ahead cluster groups most group (cells, memory) := by
  refine ⟨fun other isOther differs => ?_, standing.own, bounded⟩
  have otherName : other.spec.name ≠ group.spec.name := fun same =>
    differs (List.inj_on_of_nodup_map apart.names isOther isGroup same)
  obtain ⟨target, within⟩ := written.others other isOther differs
  have live := standing.others other.spec.name (List.mem_map.2 ⟨other, isOther, rfl⟩) otherName
  exact ⟨target.trans live.symm, Nat.le_trans (Nat.le_of_eq live) within⟩

/-- All groups are balanced when the target of this one is the number of its members. -/
theorem Written.balanced (apart : Apart groups most) (isGroup : group ∈ groups)
    (written : Written groups most base group cells)
    (standing : memory.Standing cluster (namesOf groups) base group.spec.name
      (· = cells.getD group.cell 0)) (bounded : cells.getD group.cell 0 ≤ most group) :
    Balanced cluster groups most (cells, memory) := by
  have ahead := written.ahead apart isGroup (standing.imp Nat.le_of_eq) bounded
  have own : group.liveIn cluster (cells, memory) = cells.getD group.cell 0 := standing.own
  refine ⟨standing.sound, written.stored, fun other isOther => ?_, fun other isOther => ?_⟩
  · by_cases isOwn : other = group
    · exact isOwn ▸ own.symm
    · exact (ahead.others other isOther isOwn).1
  · by_cases isOwn : other = group
    · exact isOwn ▸ own ▸ bounded
    · exact (ahead.others other isOther isOwn).2

/-- Balanced groups, seen from one of them. -/
theorem Balanced.written (balanced : Balanced cluster groups most (cells, memory))
    (group : NodeGroup) :
    Written groups most (memory.live cluster) group cells ∧
      (group ∈ groups → memory.Standing cluster (namesOf groups) (memory.live cluster)
        group.spec.name (· = cells.getD group.cell 0)) :=
  ⟨⟨balanced.stored, fun other isOther _ =>
    ⟨balanced.same other isOther, balanced.bounded other isOther⟩⟩,
    fun isGroup => ⟨balanced.sound, fun _ _ _ => rfl, (balanced.same group isGroup).symm⟩⟩

/-- Balanced groups stay so, whatever happens beside them. -/
theorem Balanced.around {later : List Nat × Memory}
    (balanced : Balanced cluster groups most state)
    (changes : ReflTransGen (Around cluster groups) state later) :
    Balanced cluster groups most later := by
  induction changes with
  | refl => exact balanced
  | @tail before after _ change inductionHypothesis =>
    obtain ⟨sameCells, elsewhere⟩ := change
    obtain ⟨sound, -, sameCluster, sameGroups⟩ :=
      Memory.elsewhere_keeps (.single elsewhere) inductionHypothesis.sound
    have live : ∀ group ∈ groups, group.liveIn cluster after = group.liveIn cluster before := by
      intro group isGroup
      rw [liveIn, liveIn, Memory.live, Memory.live, sameCluster,
        sameGroups _ (List.mem_map.2 ⟨group, isGroup, rfl⟩)]
    have target (group : NodeGroup) : group.targetIn after = group.targetIn before := by
      rw [targetIn, targetIn, sameCells]
    refine ⟨sound, fun group isGroup => ?_, fun group isGroup => ?_, fun group isGroup => ?_⟩
    · rw [sameCells]
      exact inductionHypothesis.stored group isGroup
    · rw [target, live group isGroup, inductionHypothesis.same group isGroup]
    · rw [live group isGroup]
      exact inductionHypothesis.bounded group isGroup

/-- Balanced groups are nowhere ahead. -/
theorem Balanced.ahead (balanced : Balanced cluster groups most state) (isGroup : group ∈ groups) :
    Ahead cluster groups most group state :=
  ⟨fun other isOther _ => ⟨balanced.same other isOther, balanced.bounded other isOther⟩,
    Nat.le_of_eq (balanced.same group isGroup).symm,
    balanced.same group isGroup ▸ balanced.bounded group isGroup⟩

/-- A resize that ends with balanced groups has kept its contract. -/
theorem done_assures {result : Except ProviderError Unit} (isGroup : group ∈ groups)
    (balanced : Balanced cluster groups most state) :
    (Plan.done result : Plan (Targets.sum Memory.interface) _).Assures
      (Targets.answer.sum Memory.answer) (Around cluster groups) (Ahead cluster groups most group)
      (fun _ later => Balanced cluster groups most later) state :=
  fun _ more => ⟨(balanced.around more).ahead isGroup, balanced.around more⟩

/-- What a resize does when it knows how the machines were made: the target is the number of
members again. -/
theorem settle_assures (apart : Apart groups most) (isGroup : group ∈ groups)
    {count size : Nat} {result : Except ProviderError Unit} (room : size + count ≤ group.spec.maxSize)
    (written : Written groups most base group cells)
    (raised : cells.getD group.cell 0 = size + count) (few : Cloning.made count result ≤ count)
    (standing : memory.Standing cluster (namesOf groups) base group.spec.name
      (· = size + Cloning.made count result)) :
    (group.settle size result).Assures (Targets.answer.sum Memory.answer) (Around cluster groups)
      (Ahead cluster groups most group) (fun _ later => Balanced cluster groups most later)
      (cells, memory) := by
  have isName : group.spec.name ∈ namesOf groups := List.mem_map.2 ⟨group, isGroup, rfl⟩
  have covered := apart.covers group isGroup
  cases result with
  | ok =>
    refine done_assures isGroup (written.balanced apart isGroup (standing.imp fun same => ?_) ?_)
    · exact same.trans raised.symm
    · omega
  | error error =>
    have created : error.created ≤ count := few
    intro last changes
    obtain ⟨later, rfl, elsewhere⟩ := beside_unchanged changes
    have standingLater := standing.elsewhere isName elsewhere
    refine ⟨written.ahead apart isGroup (standingLater.imp fun same => ?_) ?_, ?_⟩
    · omega
    · omega
    · obtain ⟨corrected, own⟩ := written.set apart isGroup
        (min (size + error.created) group.spec.maxSize)
      have whole : min (size + error.created) group.spec.maxSize = size + error.created := by omega
      refine done_assures isGroup (corrected.balanced apart isGroup (standingLater.imp fun same => ?_)
        ?_)
      · rw [own, whole]
        exact same
      · omega

/-- What a resize does when the group is small enough: it raises the target, makes machines, and
settles. -/
theorem grow_assures (cloning : Cloning) (apart : Apart groups most) (isGroup : group ∈ groups)
    {count : Nat} (room : cells.getD group.cell 0 + count ≤ group.spec.maxSize)
    (balanced : Balanced cloning.cluster groups most (cells, memory)) :
    (Plan.ask (I := Targets.sum Memory.interface) (.inl (TargetRequest.read group.cell))
      fun (previous : Nat) =>
        .ask (I := Targets.sum Memory.interface) (.inl (TargetRequest.write group.cell
          (min (previous + count) group.spec.maxSize))) fun _ =>
            ((cloning.provisioner Memory.client).create group.spec.name count).run.right >>=
              group.settle previous).Assures
      (Targets.answer.sum Memory.answer) (Around cloning.cluster groups)
      (Ahead cloning.cluster groups most group)
      (fun _ later => Balanced cloning.cluster groups most later) (cells, memory) := by
  have isName : group.spec.name ∈ namesOf groups := List.mem_map.2 ⟨group, isGroup, rfl⟩
  have covered := apart.covers group isGroup
  intro last changes
  have balancedLast := balanced.around changes
  obtain ⟨memoryLast, rfl, -⟩ := beside_unchanged changes
  refine ⟨balancedLast.ahead isGroup, fun later changes => ?_⟩
  have balancedLater := balancedLast.around changes
  obtain ⟨memoryLater, rfl, -⟩ := beside_unchanged changes
  refine ⟨balancedLater.ahead isGroup, ?_⟩
  obtain ⟨written, stands⟩ := balancedLater.written group
  obtain ⟨raised, own⟩ := written.set apart isGroup
    (min (cells.getD group.cell 0 + count) group.spec.maxSize)
  rw [Nat.min_eq_left room] at raised own
  change Plan.Assures _ _ _ _ (((cloning.provisioner Memory.client).create group.spec.name
    count).run.right >>= group.settle (cells.getD group.cell 0))
    (cells.set group.cell (min (cells.getD group.cell 0 + count) group.spec.maxSize), memoryLater)
  rw [Nat.min_eq_left room]
  have created := Cloning.create_assures cloning isName count (stands isGroup)
  refine .bind (.right (created.mono (fun state standing => ?_) fun result state => ?_))
  · exact raised.ahead apart isGroup (standing.imp (by omega)) (by omega)
  · rintro ⟨standing, few⟩
    exact settle_assures apart isGroup room raised own few standing

/-- **A resize.** From balanced groups it leads to balanced groups, whatever the provisioner
reports, and until then only the group itself is ahead. -/
theorem resize_assures (cloning : Cloning) (apart : Apart groups most) (isGroup : group ∈ groups)
    (delta : Int) (balanced : Balanced cloning.cluster groups most state) :
    (group.resize (cloning.provisioner Memory.client) delta).run.Assures
      (Targets.answer.sum Memory.answer) (Around cloning.cluster groups)
      (Ahead cloning.cluster groups most group)
      (fun _ later => Balanced cloning.cluster groups most later) state := by
  rw [resize_run]
  split
  · exact done_assures isGroup balanced
  · next positive =>
    obtain ⟨cells, memory⟩ := state
    obtain ⟨written, stands⟩ := balanced.written group
    have isName : group.spec.name ∈ namesOf groups := List.mem_map.2 ⟨group, isGroup, rfl⟩
    have bounded : cells.getD group.cell 0 ≤ most group :=
      (balanced.ahead isGroup).bounded
    have sized := Cloning.size_assures cloning isName (stands isGroup)
    refine .bind (.right (sized.mono (fun later standing =>
      written.ahead apart isGroup (standing.imp Nat.le_of_eq) bounded) fun result later => ?_))
    rintro ⟨standing, rfl⟩
    have now := written.balanced apart isGroup standing bounded
    have narrow : later.live cloning.cluster group.spec.name % Nat.pow 2 32 =
        cells.getD group.cell 0 :=
      (Nat.mod_eq_of_lt (Nat.lt_of_le_of_lt (now.bounded group isGroup)
        (apart.narrow group isGroup))).trans standing.own
    rw [narrow]
    dsimp only
    split
    · exact done_assures isGroup now
    · next few => exact grow_assures cloning apart isGroup (Nat.not_lt.1 few) now

end NodeGroup

namespace Traffic

open NodeGroup

variable {groups watched : List NodeGroup} {most : NodeGroup → Nat} {calls : List ResizeCall}
  {instants : List Duration}

/-- What the observer asks changes nothing. -/
theorem answer_glances {question : (Targets.sum Memory.interface).Question}
    (glances : Glances Memory.Reads question) (state : List Nat × Memory) :
    (Targets.answer.sum Memory.answer question state).2 = state := by
  match question with
  | .inl (.read cell) => rfl
  | .inl (.create _) | .inl (.write _ _) => exact glances.elim
  | .inr question => exact Prod.ext rfl (Memory.answer_reads glances state.2)

/-- What is claimed while a resize is at work: it keeps its contract. -/
def Kept (cluster : String) (groups : List NodeGroup) (most : NodeGroup → Nat)
    (calls : List ResizeCall) (index : Nat)
    (rest : Plan (Targets.sum Memory.interface) (Except ProviderError Unit))
    (state : List Nat × Memory) : Prop :=
  ∃ caller call, index = caller + 1 ∧ calls[caller]? = some call ∧
    rest.Assures (Targets.answer.sum Memory.answer) (Around cluster groups)
      (Ahead cluster groups most call.group) (fun _ later => Balanced cluster groups most later) state

/-- Targets are guarded by the lock. -/
theorem targets_guarded (cloning : Cloning) (apart : Apart groups most)
    (own : ∀ call ∈ calls, call.group ∈ groups) :
    Concurrent.Guards (Targets.answer.sum Memory.answer) (Around cloning.cluster groups)
      (Glances Memory.Reads) (jobs (cloning.provisioner Memory.client) watched calls instants)
      (fun _ _ state => Balanced cloning.cluster groups most state)
      (fun _ _ => Kept cloning.cluster groups most calls) where
  enter isJob balanced := by
    obtain ⟨caller, call, rfl, isCall, rfl⟩ := jobs_errand isJob
    exact ⟨caller, call, rfl, isCall, resize_assures cloning apart
      (own call (List.mem_of_getElem? isCall)) call.delta balanced⟩
  ask kept := by
    obtain ⟨caller, call, same, isCall, assures⟩ := kept
    exact ⟨caller, call, same, isCall, (assures _ .refl).2⟩
  wait kept := kept
  proceed kept := kept.choose_spec.choose_spec.2.2
  leave kept := by
    obtain ⟨_, _, -, -, assures⟩ := kept
    exact (assures _ .refl).2
  passFree glances balanced := by
    rw [answer_glances glances]
    exact balanced
  passHeld glances kept := by
    rw [answer_glances glances]
    exact kept
  disturbFree change balanced := balanced.around (.single change)
  disturbHeld change kept := by
    obtain ⟨caller, call, same, isCall, assures⟩ := kept
    exact ⟨caller, call, same, isCall, assures.disturb (.single change)⟩

/-! ## From discovery on -/

/-- Groups with cells in order, from a first one on. -/
def numbered (first : Nat) (specs : List GroupSpec) : List NodeGroup :=
  specs.mapIdx fun index spec => ⟨spec, first + index⟩

/-- The first group has the first cell. -/
theorem numbered_cons (first : Nat) (spec : GroupSpec) (specs : List GroupSpec) :
    numbered first (spec :: specs) = ⟨spec, first⟩ :: numbered (first + 1) specs := by
  simp [numbered, List.mapIdx_cons, Nat.add_assoc, Nat.add_comm 1]

/-- Discovering groups asks for their sizes and gives each one a cell of its own. -/
theorem discover_transcript (cloning : Cloning) (specs : List GroupSpec) (cells : List Nat)
    (memory : Memory) :
    let ending := (specs.mapM (NodeGroup.discover (cloning.provisioner Memory.client))).run.transcript
      (Targets.answer.sum Memory.answer) (cells, memory)
    ending.value = some (.ok (numbered cells.length specs)) ∧
      ending.state = (cells ++ specs.map fun spec =>
        memory.live cloning.cluster spec.name % Nat.pow 2 32, memory) := by
  induction specs generalizing cells with
  | nil => exact ⟨rfl, Prod.ext (List.append_nil _).symm rfl⟩
  | cons first rest inductionHypothesis =>
    rw [List.mapM_cons]
    have one : ((NodeGroup.discover (cloning.provisioner Memory.client) first).run.transcript
        (Targets.answer.sum Memory.answer) (cells, memory)).value =
        some (.ok ⟨first, cells.length⟩) := rfl
    have left : ((NodeGroup.discover (cloning.provisioner Memory.client) first).run.transcript
        (Targets.answer.sum Memory.answer) (cells, memory)).state =
        (cells ++ [memory.live cloning.cluster first.name % Nat.pow 2 32], memory) := rfl
    obtain ⟨others, leftOthers⟩ := inductionHypothesis
      (cells ++ [memory.live cloning.cluster first.name % Nat.pow 2 32])
    rw [← left] at others leftOthers
    have whole := Plan.transcript_attempt (fun group => do
      return group :: (← rest.mapM (NodeGroup.discover (cloning.provisioner Memory.client)))) one
    have tail := Plan.transcript_attempt (fun groups =>
      (pure (⟨first, cells.length⟩ :: groups) : Attempt (Targets.sum Memory.interface) _ _)) others
    rw [whole]
    dsimp only
    rw [tail]
    rw [numbered_cons, List.map_cons]
    rw [List.length_append, List.length_singleton] at *
    exact ⟨rfl, leftOthers.trans (by simp)⟩

/-- The greatest size that a group can come to: its bound, or the size that it has already. -/
def cap (cluster : String) (memory : Memory) (group : NodeGroup) : Nat :=
  max (memory.live cluster group.spec.name) group.spec.maxSize

/-- A numbered group has its specification and its cell. -/
theorem mem_numbered {first : Nat} {specs : List GroupSpec} {group : NodeGroup} :
    group ∈ numbered first specs ↔
      ∃ index, specs[index]? = some group.spec ∧ group.cell = first + index := by
  rw [numbered, List.mem_iff_getElem?]
  refine exists_congr fun index => ?_
  rw [List.getElem?_mapIdx, Option.map_eq_some_iff]
  constructor
  · rintro ⟨spec, isSpec, rfl⟩
    exact ⟨isSpec, rfl⟩
  · rintro ⟨isSpec, isCell⟩
    exact ⟨group.spec, isSpec, by rw [← isCell]⟩

/-- Groups that have just been discovered are apart. -/
theorem numbered_apart {cluster : String} {memory : Memory} {specs : List GroupSpec} (first : Nat)
    (names : (specs.map (·.name)).Nodup) (bounds : ∀ spec ∈ specs, spec.maxSize < Nat.pow 2 32)
    (sizes : ∀ spec ∈ specs, memory.live cluster spec.name < Nat.pow 2 32) :
    Apart (numbered first specs) (cap cluster memory) where
  names := by
    have same : namesOf (numbered first specs) = specs.map (·.name) :=
      List.ext_getElem (by simp [namesOf, numbered]) fun index _ _ => by simp [namesOf, numbered]
    exact same ▸ names
  cells := by
    have same : (numbered first specs).map (·.cell) = List.range' first specs.length :=
      List.ext_getElem (by simp [numbered]) fun index _ _ => by simp [numbered]
    exact same ▸ List.nodup_range'
  covers group _ := Nat.le_max_right _ _
  narrow group isGroup := by
    obtain ⟨index, isSpec, -⟩ := mem_numbered.1 isGroup
    have isIn := List.mem_of_getElem? isSpec
    exact Nat.max_lt.2 ⟨sizes _ isIn, bounds _ isIn⟩

/-- Groups that have just been discovered are balanced. -/
theorem numbered_balanced {cluster : String} {memory : Memory} {specs : List GroupSpec}
    (sound : memory.Sound) (cells : List Nat)
    (sizes : ∀ spec ∈ specs, memory.live cluster spec.name < Nat.pow 2 32) :
    Balanced cluster (numbered cells.length specs) (cap cluster memory)
      (cells ++ specs.map (fun spec => memory.live cluster spec.name % Nat.pow 2 32), memory) where
  sound := sound
  stored group isGroup := by
    obtain ⟨index, isSpec, isCell⟩ := mem_numbered.1 isGroup
    have isKnown := (List.getElem?_eq_some_iff.1 isSpec).1
    rw [List.length_append, List.length_map]
    omega
  same group isGroup := by
    obtain ⟨index, isSpec, isCell⟩ := mem_numbered.1 isGroup
    have small := sizes _ (List.mem_of_getElem? isSpec)
    rw [targetIn, liveIn, isCell, List.getD_eq_getElem?_getD,
      List.getElem?_append_right (Nat.le_add_right _ _), Nat.add_sub_cancel_left,
      List.getElem?_map, isSpec]
    exact Nat.mod_eq_of_lt small
  bounded group _ := Nat.le_max_left _ _

/-- What is claimed at some instant, for every group. -/
theorem bounds_of_claimed {cluster : String} {provisioner : Provisioner Memory.interface}
    {events : List (Nat × Concurrent.Act (Targets.sum Memory.interface))}
    {run : Concurrent (Targets.sum Memory.interface) (List Nat × Memory) TrafficEvent}
    {service : Service (Targets.sum Memory.interface) (Except ProviderError Unit)}
    (serves : Concurrent.Serves (Glances Memory.Reads) Reports
      (jobs provisioner watched calls instants) events run service)
    (claimed : Concurrent.Claimed (fun _ _ state => Balanced cluster groups most state)
      (fun _ _ => Kept cluster groups most calls) service (Concurrent.exchanges events) run.state)
    {group : NodeGroup} (isGroup : group ∈ groups) :
    group.liveIn cluster run.state ≤ group.targetIn run.state ∧
      group.targetIn run.state ≤ most group ∧
      ((∀ caller call, calls[caller]? = some call → call.group = group →
          ¬Concurrent.Inside events run (caller + 1)) →
        group.targetIn run.state = group.liveIn cluster run.state) := by
  cases holder : service.holder with
  | none =>
    simp only [Concurrent.Claimed, holder] at claimed
    have same := claimed.same group isGroup
    have bounded := claimed.bounded group isGroup
    exact ⟨Nat.le_of_eq same.symm, by omega, fun _ => same⟩
  | some held =>
    obtain ⟨index, rest⟩ := held
    simp only [Concurrent.Claimed, holder] at claimed
    obtain ⟨caller, call, rfl, isCall, assures⟩ := claimed
    have ahead := assures.now
    by_cases isOwn : call.group = group
    · rw [isOwn] at ahead
      exact ⟨ahead.behind, ahead.bounded, fun outside =>
        absurd (serves.inside holder) (outside caller call isCall isOwn)⟩
    · obtain ⟨same, bounded⟩ := ahead.others group isGroup (Ne.symm isOwn)
      exact ⟨Nat.le_of_eq same.symm, by omega, fun _ => same⟩

/-- **No drift and no overshoot.** Groups are discovered over any inventory that can come of an
empty one, and resized by any number of callers, while anything else happens that does not change
who carries their tags. At every instant, a group has no more members than its target says, and
neither passes its greatest size or the size that it had when it was discovered. The target is the
number of members whenever no resize of the group has the lock. This holds also when the numbers of
new machines begin again at zero after the greatest one of 64 bits. -/
theorem targets_balanced (cloning : Cloning) {memory : Memory} (reachable : memory.Reachable)
    (cells : List Nat) {specs : List GroupSpec} (names : (specs.map (·.name)).Nodup)
    (bounds : ∀ spec ∈ specs, spec.maxSize < Nat.pow 2 32)
    (sizes : ∀ spec ∈ specs, memory.live cloning.cluster spec.name < Nat.pow 2 32)
    {elapsed : Duration} {start : List Nat × Memory}
    (discovered : (specs.mapM (NodeGroup.discover (cloning.provisioner Memory.client))).run.run
      (Targets.answer.sum Memory.answer) (cells, memory) = ⟨some (.ok groups), start, elapsed⟩)
    (own : ∀ call ∈ calls, call.group ∈ groups)
    {schedule : Concurrent.Schedule (Targets.sum Memory.interface) (List Nat × Memory) TrafficEvent}
    {events : List (Nat × Concurrent.Act (Targets.sum Memory.interface))}
    {run : Concurrent (Targets.sum Memory.interface) (List Nat × Memory) TrafficEvent}
    (interleaving : Concurrent.Interleaving (Targets.answer.sum Memory.answer)
      (Around cloning.cluster groups) schedule
      (.start (plans (cloning.provisioner Memory.client) watched calls instants) start) events run) :
    ∀ group ∈ groups,
      group.liveIn cloning.cluster run.state ≤ group.targetIn run.state ∧
      group.liveIn cloning.cluster run.state ≤ cap cloning.cluster memory group ∧
      group.targetIn run.state ≤ cap cloning.cluster memory group ∧
      ((∀ caller call, calls[caller]? = some call → call.group = group →
          ¬Concurrent.Inside events run (caller + 1)) →
        group.targetIn run.state = group.liveIn cloning.cluster run.state) := by
  obtain ⟨value, state⟩ := discover_transcript cloning specs cells memory
  obtain ⟨sameValue, sameState⟩ := Plan.transcript_eq_run (Targets.answer.sum Memory.answer)
    (specs.mapM (NodeGroup.discover (cloning.provisioner Memory.client))).run (cells, memory)
  rw [sameValue, discovered] at value
  rw [sameState, discovered] at state
  obtain rfl : groups = numbered cells.length specs := by simpa using value
  obtain rfl : start = _ := state
  have apart := numbered_apart cells.length names bounds sizes
  have balanced := numbered_balanced reachable.sound cells sizes
  rw [plans_eq] at interleaving
  have nodes : ∀ group ∈ watched, (group.nodes (cloning.provisioner Memory.client)).run.Harmless
      Memory.Reads fun _ => True := fun group _ =>
    (Cloning.nodes_harmless Cloning.memory_lookups cloning group.spec.name).mono fun _ _ => trivial
  have isOrderly : Concurrent.Orderly (Glances Memory.Reads) Reports
      (jobs (cloning.provisioner Memory.client) watched calls instants) := orderly nodes
  obtain ⟨service, serves, claimed⟩ :=
    interleaving.explained (targets_guarded cloning apart own) isOrderly balanced
  intro group isGroup
  obtain ⟨behind, bounded, same⟩ := bounds_of_claimed serves claimed isGroup
  exact ⟨behind, Nat.le_trans behind bounded, bounded, same⟩

/-- An inventory with one worker. -/
def oneWorker : Memory :=
  ((Memory.empty.addTemplate "template").addMachine "prod-workers-1"
    [clusterTag "prod", groupTag "workers"]).2

/-- Two callers want two more workers and one more. By the clock both come to their end, and there
are never more than three. -/
theorem workers_balanced :
    let cloning : Cloning := ⟨"prod", "template", "", "", .seconds 600⟩
    let provisioner := cloning.provisioner Memory.client
    let group : NodeGroup := ⟨⟨"workers", 0, 3⟩, 0⟩
    let calls : List ResizeCall := [⟨group, 2, .zero⟩, ⟨group, 1, .zero⟩]
    let start := Concurrent.start (plans provisioner [group] calls [.zero]) ([1], oneWorker)
    ∃ events run, Concurrent.Interleaving (Targets.answer.sum Memory.answer)
        (Around "prod" [group]) .clock start events run ∧ run.Over ∧
      group.liveIn "prod" run.state ≤ group.targetIn run.state ∧ group.targetIn run.state ≤ 3 := by
  intro cloning provisioner group calls start
  have reachable : oneWorker.Reachable :=
    (ReflTransGen.refl.tail (.addTemplate _ _)).tail (.addMachine _ _ _)
  have names : ([group.spec].map (·.name)).Nodup := by decide
  have bounds : ∀ spec ∈ [group.spec], spec.maxSize < Nat.pow 2 32 := by decide
  have sizes : ∀ spec ∈ [group.spec], oneWorker.live "prod" spec.name < Nat.pow 2 32 := by decide
  have discovered : ([group.spec].mapM (NodeGroup.discover provisioner)).run.run
      (Targets.answer.sum Memory.answer) ([], oneWorker) =
        ⟨some (.ok [group]), ([1], oneWorker), .zero⟩ := by rfl
  have own : ∀ call ∈ calls, call.group ∈ [group] := by decide
  have begins : Concurrent.Interleaving (Targets.answer.sum Memory.answer)
      (Around "prod" [group]) .clock start [] start := .start
  obtain ⟨events, interleaving, isOver⟩ := Concurrent.complete_interleaving begins
  obtain ⟨behind, -, bounded, -⟩ := targets_balanced cloning reachable [] names bounds sizes
    discovered own interleaving group List.mem_cons_self
  have three : cap "prod" oneWorker group = 3 := by decide
  exact ⟨events, _, interleaving, isOver, behind, three ▸ bounded⟩

end Traffic

end NodeScaler
