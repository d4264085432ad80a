import NodeScaler.Proofs.Plan.Contract
import NodeScaler.Proofs.Plan.Errand
import NodeScaler.Proofs.Provider.Members
import NodeScaler.Proofs.Provider.Reading

/-!
# Making machines in memory

While machines are made for one group over an inventory in memory, the other groups stay as
they are, and the group itself has at any instant as many more members as machines have been
made and tagged so far. What a call reports as created is what the group has gained.
-/

namespace NodeScaler

open Relation (ReflTransGen)
open Memory (Standing Fresh Elsewhere)

variable {cluster : String} {groups : List String} {base : String → Nat} {group : String}
  {own : Nat → Prop} {memory : Memory}

namespace Memory

/-! ## Reading -/

/-- What is asked without changing anything. -/
def Reads : Question → Prop
  | .resolve _ | .name _ | .uuid _ => True
  | .attach _ _ | .beginClone _ | .finishClone _ => False

/-- Reading changes nothing. -/
theorem answer_reads {question : Question} (reads : Reads question) (memory : Memory) :
    (answer question memory).2 = memory := by
  cases question with
  | resolve tag => rfl
  | name object | uuid object =>
    rw [answer]
    split <;> rfl
  | attach | beginClone | finishClone => exact reads.elim

end Memory

namespace Cloning

/-- The lookups of an inventory in memory only read. -/
theorem memory_lookups : Lookups Memory.client Memory.Reads where
  resolve _ := ⟨trivial, fun _ => trivial⟩
  name _ := ⟨trivial, fun (result : Except _ _) => by cases result <;> trivial⟩
  uuid _ := ⟨trivial, fun (result : Except _ _) => by cases result <;> trivial⟩

/-- The size of a group is read off at once, whatever happens between the two lookups. -/
theorem size_assures (cloning : Cloning) (isGroup : group ∈ groups)
    (standing : memory.Standing cloning.cluster groups base group own) :
    ((cloning.membership Memory.client).count group).run.Assures Memory.answer
      (Elsewhere cloning.cluster groups) (Standing cloning.cluster groups base group own)
      (fun result later => Standing cloning.cluster groups base group own later ∧
        result = .ok (later.live cloning.cluster group % Nat.pow 2 32)) memory := by
  intro first toFirst
  have standingFirst := standing.elsewhere isGroup toFirst
  refine ⟨standingFirst, fun (second : Memory) toSecond => ?_⟩
  have standingSecond := standingFirst.elsewhere isGroup toSecond
  refine ⟨standingSecond, fun (third : Memory) toThird => ?_⟩
  have standingThird := standingSecond.elsewhere isGroup toThird
  refine ⟨standingThird, standingThird, ?_⟩
  obtain ⟨-, -, firstCluster, -⟩ :=
    Memory.elsewhere_keeps (toSecond.trans toThird) standingFirst.sound
  obtain ⟨-, -, -, secondGroups⟩ := Memory.elsewhere_keeps toThird standingSecond.sound
  rw [Memory.live, firstCluster, secondGroups group isGroup]
  rfl

/-- Only the end of a clone makes a machine, and this machine is fresh. -/
theorem finishClone_assures (request : CloneRequest) (isGroup : group ∈ groups)
    (standing : memory.Standing cluster groups base group own) :
    (Attempt.question (ε := InventoryError) (Memory.Question.finishClone request) id).run.Assures
      Memory.answer (Elsewhere cluster groups) (Standing cluster groups base group own)
      (fun result later => Standing cluster groups base group own later ∧
        ∀ object, result = .ok object → later.Fresh groups object) memory := by
  intro last changes
  have standingLast := standing.elsewhere isGroup changes
  refine ⟨standingLast, ?_⟩
  have done {result : Except InventoryError ObjectRef} {state : Memory}
      (now : Standing cluster groups base group own state)
      (fresh : ∀ object, result = .ok object → state.Fresh groups object) :
      (Plan.done result : Plan Memory.interface _).Assures Memory.answer (Elsewhere cluster groups)
        (Standing cluster groups base group own)
        (fun result later => Standing cluster groups base group own later ∧
          ∀ object, result = .ok object → later.Fresh groups object) state :=
    fun later more => ⟨now.elsewhere isGroup more, now.elsewhere isGroup more,
      fun object isOk => (fresh object isOk).elsewhere now.sound more⟩
  change Plan.Assures _ _ _ _ (Plan.done (Memory.answer (.finishClone request) last).1)
    (Memory.answer (.finishClone request) last).2
  rw [Memory.answer]
  split
  · exact done standingLast fun _ isOk => by cases isOk
  · split
    · exact done standingLast fun _ isOk => by cases isOk
    · obtain ⟨allocated, fresh⟩ := standingLast.allocate request.name
      exact done allocated fun object isOk => Except.ok.inj isOk ▸ fresh

/-- A clone that is made is a fresh machine; no group gains a member by it. -/
theorem clone_assures (request : CloneRequest) (isGroup : group ∈ groups)
    (standing : memory.Standing cluster groups base group own) :
    (Memory.client.clone request).run.Assures Memory.answer (Elsewhere cluster groups)
      (Standing cluster groups base group own)
      (fun result later => Standing cluster groups base group own later ∧
        ∀ object, result = .ok object → later.Fresh groups object) memory := by
  intro first changes
  have standingFirst := standing.elsewhere isGroup changes
  refine ⟨standingFirst, ?_⟩
  have noted : Standing cluster groups base group own
      (Memory.answer (.beginClone request) first).2 := by
    rw [Memory.answer]
    dsimp only
    split <;> exact ⟨standingFirst.sound, standingFirst.others, standingFirst.own⟩
  change Plan.Assures _ _ _ _ (ExceptT.bindCont _ (Memory.answer (.beginClone request) first).1)
    (Memory.answer (.beginClone request) first).2
  generalize Memory.answer (.beginClone request) first = reply at noted
  obtain ⟨result, later⟩ := reply
  cases result with
  | error error =>
    exact fun last more => ⟨noted.elsewhere isGroup more, noted.elsewhere isGroup more,
      fun _ isOk => by cases isOk⟩
  | ok delay =>
    have finish := finishClone_assures request isGroup noted
    dsimp only [ExceptT.bindCont, Attempt.sleep, Attempt.pause, Plan.pause]
    split <;> exact finish

/-! ## One machine -/

/-- Attaching the tag of the cluster to a fresh machine makes it no member yet. -/
theorem attachCluster_assures {object : ObjectRef} (isGroup : group ∈ groups)
    (standing : memory.Standing cluster groups base group own) (fresh : memory.Fresh groups object) :
    (Memory.client.attach (clusterTag cluster) object).run.Assures Memory.answer
      (Elsewhere cluster groups) (Standing cluster groups base group own)
      (fun result later => Standing cluster groups base group own later ∧
        (result = .ok () → later.Fresh groups object ∧ object ∈ later.carrying (clusterTag cluster)))
      memory := by
  intro first changes
  have standingFirst := standing.elsewhere isGroup changes
  have freshFirst := fresh.elsewhere standing.sound changes
  refine ⟨standingFirst, ?_⟩
  have failed (error : InventoryError) :
      (Plan.done (.error error) : Plan Memory.interface (Except InventoryError Unit)).Assures
        Memory.answer (Elsewhere cluster groups) (Standing cluster groups base group own)
        (fun result later => Standing cluster groups base group own later ∧ (result = .ok () →
          later.Fresh groups object ∧ object ∈ later.carrying (clusterTag cluster))) first :=
    fun last more => ⟨standingFirst.elsewhere isGroup more, standingFirst.elsewhere isGroup more,
      fun isOk => by cases isOk⟩
  change Plan.Assures _ _ _ _
    (Plan.done (Memory.answer (.attach (clusterTag cluster) object) first).1)
    (Memory.answer (.attach (clusterTag cluster) object) first).2
  rw [Memory.answer]
  split
  · exact failed _
  · split
    · exact failed _
    · obtain ⟨tagged, freshTagged, isTagged⟩ := standingFirst.tagCluster isGroup freshFirst
      intro last more
      refine ⟨tagged.elsewhere isGroup more, tagged.elsewhere isGroup more, fun _ => ?_⟩
      obtain ⟨-, -, sameCluster, -⟩ := Memory.elsewhere_keeps more tagged.sound
      exact ⟨freshTagged.elsewhere tagged.sound more, sameCluster ▸ isTagged⟩

/-- Attaching the tag of the group to a fresh machine of the cluster makes it a member. -/
theorem attachGroup_assures {object : ObjectRef} {count most : Nat} (isGroup : group ∈ groups)
    (room : count < most) (standing : memory.Standing cluster groups base group (· = count))
    (fresh : memory.Fresh groups object) (isTagged : object ∈ memory.carrying (clusterTag cluster)) :
    (Memory.client.attach (groupTag group) object).run.Assures Memory.answer
      (Elsewhere cluster groups) (Standing cluster groups base group (· ≤ most))
      (fun result later => Standing cluster groups base group (· = count + gain result) later)
      memory := by
  intro first changes
  have standingFirst := standing.elsewhere isGroup changes
  have freshFirst := fresh.elsewhere standing.sound changes
  obtain ⟨-, -, sameCluster, -⟩ := Memory.elsewhere_keeps changes standing.sound
  refine ⟨standingFirst.imp (by omega), ?_⟩
  change Plan.Assures _ _ _ _ (Plan.done (Memory.answer (.attach (groupTag group) object) first).1)
    (Memory.answer (.attach (groupTag group) object) first).2
  rw [Memory.answer]
  split
  · exact fun last more => ⟨(standingFirst.elsewhere isGroup more).imp (by omega),
      standingFirst.elsewhere isGroup more⟩
  · split
    · exact fun last more => ⟨(standingFirst.elsewhere isGroup more).imp (by omega),
        standingFirst.elsewhere isGroup more⟩
    · have tagged := standingFirst.tagGroup isGroup freshFirst (sameCluster ▸ isTagged)
      exact fun last more => ⟨(tagged.elsewhere isGroup more).imp (by omega),
        tagged.elsewhere isGroup more⟩

/-- A clone that takes too long is dropped before it is made. -/
theorem cloneWithin_assures (request : CloneRequest) (limit : Duration) (late : InventoryError)
    (isGroup : group ∈ groups) (standing : memory.Standing cluster groups base group own) :
    ((Memory.client.clone request).within limit late).run.Assures Memory.answer
      (Elsewhere cluster groups) (Standing cluster groups base group own)
      (fun result later => Standing cluster groups base group own later ∧
        ∀ object, result = .ok object → later.Fresh groups object) memory :=
  .map (.within (clone_assures request isGroup standing) fun _ standing =>
    ⟨standing, fun _ isOk => by cases isOk⟩)

/-- Making one machine: the group gains a member just if all goes well. -/
theorem make_assures (cloning : Cloning) (name : String) {count most : Nat}
    (isGroup : group ∈ groups) (room : count < most)
    (standing : memory.Standing cloning.cluster groups base group (· = count)) :
    (cloning.make Memory.client group name).run.Assures Memory.answer
      (Elsewhere cloning.cluster groups) (Standing cloning.cluster groups base group (· ≤ most))
      (fun result later => Standing cloning.cluster groups base group (· = count + gain result) later)
      memory := by
  have cloned := cloneWithin_assures (cloning.request name) cloning.cloneTimeout
    (.timeout cloning.cloneTimeout) isGroup standing
  refine Plan.Assures.attempt (cloned.mono (fun _ now => now.imp (by omega)) fun result state => ?_)
  rintro ⟨now, fresh⟩
  cases result with
  | error error => exact now
  | ok object =>
    have clusterTagged := attachCluster_assures isGroup now (fresh object rfl)
    refine Plan.Assures.attempt
      (clusterTagged.mono (fun _ now => now.imp (by omega)) fun result state => ?_)
    rintro ⟨now, tagged⟩
    cases result with
    | error error => exact now
    | ok =>
      obtain ⟨fresh, isTagged⟩ := tagged rfl
      have grouped := attachGroup_assures isGroup room now fresh isTagged
      refine Plan.Assures.attempt (grouped.mono (fun _ now => now) fun result state now => ?_)
      cases result with
      | error error => exact now
      | ok => exact fun last more => ⟨(now.elsewhere isGroup more).imp (by simp [gain]; omega),
          now.elsewhere isGroup more⟩

/-- Names that are taken are passed over without a gain. -/
theorem makeNext_assures (cloning : Cloning) {count most : Nat} (isGroup : group ∈ groups)
    (room : count < most) (collisions number : Nat)
    (standing : memory.Standing cloning.cluster groups base group (· = count)) :
    (cloning.makeNext Memory.client group collisions number).Assures Memory.answer
      (Elsewhere cloning.cluster groups) (Standing cloning.cluster groups base group (· ≤ most))
      (fun outcome later =>
        Standing cloning.cluster groups base group (· = count + gain outcome.result) later)
      memory := by
  have report {outcome : Outcome} {state : Memory} (now : Standing cloning.cluster groups base group
      (· = count + gain outcome.result) state) :
      (Plan.done outcome : Plan Memory.interface Outcome).Assures Memory.answer
        (Elsewhere cloning.cluster groups) (Standing cloning.cluster groups base group (· ≤ most))
        (fun outcome later =>
          Standing cloning.cluster groups base group (· = count + gain outcome.result) later)
        state := by
    have small := gain_le_one outcome.result
    exact fun last more => ⟨(now.elsewhere isGroup more).imp (by omega), now.elsewhere isGroup more⟩
  induction collisions generalizing number memory with
  | zero =>
    have made := make_assures cloning (machineName cloning.cluster group number) isGroup room standing
    exact .bind (made.mono (fun _ now => now) fun result state now => report now)
  | succ collisions inductionHypothesis =>
    have made := make_assures cloning (machineName cloning.cluster group number) isGroup room standing
    refine .bind (made.mono (fun _ now => now) fun result state now => ?_)
    split
    · exact inductionHypothesis (following number) now
    · exact report now

/-! ## Several machines -/

/-- Making machines: the group has gained as many as the account says, and the others that were
asked for are its failures. -/
theorem makeAll_assures (cloning : Cloning) {before most : Nat} (isGroup : group ∈ groups)
    (count collisions number : Nat) (room : before + count ≤ most)
    (standing : memory.Standing cloning.cluster groups base group (· = before)) :
    (cloning.makeAll Memory.client group count collisions number).Assures Memory.answer
      (Elsewhere cloning.cluster groups) (Standing cloning.cluster groups base group (· ≤ most))
      (fun account later =>
        Standing cloning.cluster groups base group (· = before + account.created) later ∧
          account.created + account.failures.length = count) memory := by
  induction count generalizing before collisions number memory with
  | zero =>
    intro last more
    have now := standing.elsewhere isGroup more
    exact ⟨now.imp (by omega), now, rfl⟩
  | succ count inductionHypothesis =>
    have roomNow : before < most := by omega
    have next := makeNext_assures cloning isGroup roomNow collisions number standing
    refine .bind (next.mono (fun _ now => now) fun outcome state now => ?_)
    have small := gain_le_one outcome.result
    have roomLeft : before + gain outcome.result + count ≤ most := by omega
    have rest := inductionHypothesis outcome.collisions (following outcome.number) roomLeft now
    refine .bind (rest.mono (fun _ now => now) fun later state => ?_)
    rintro ⟨now, all⟩
    obtain ⟨created, total⟩ := add_gain cloning group outcome later
    exact fun last more => ⟨(now.elsewhere isGroup more).imp (by omega),
      (now.elsewhere isGroup more).imp (by omega), by omega⟩

/-- **Making machines for a group.** The group gains what the result tells, and the other groups
gain nothing. Until then it has never more members than it had and machines were asked for. -/
theorem create_assures (cloning : Cloning) {before : Nat} (isGroup : group ∈ groups) (count : Nat)
    (standing : memory.Standing cloning.cluster groups base group (· = before)) :
    (cloning.create Memory.client group count).run.Assures Memory.answer
      (Elsewhere cloning.cluster groups)
      (Standing cloning.cluster groups base group (· ≤ before + count))
      (fun result later =>
        Standing cloning.cluster groups base group (· = before + made count result) later ∧
          made count result ≤ count) memory := by
  have stable (state later : Memory)
      (now : Standing cloning.cluster groups base group (· = before) state)
      (more : ReflTransGen (Elsewhere cloning.cluster groups) state later) :
      Standing cloning.cluster groups base group (· = before) later := now.elsewhere isGroup more
  have read := (names_harmless memory_lookups cloning group).assures
    (fun _ state reads => Memory.answer_reads reads state) stable standing
  refine Plan.Assures.attempt (read.mono (fun _ now => now.imp (by omega)) fun result state => ?_)
  rintro ⟨idle, now⟩
  cases result with
  | error error =>
    have none : made count (.error error) = 0 := idle
    exact ⟨now.imp (by omega), by omega⟩
  | ok existing =>
    have all := makeAll_assures cloning isGroup count mostCollisions
      (nextNumber (stem cloning.cluster group) existing) (Nat.le_refl _) now
    refine .map (all.mono (fun _ now => now) fun account state => ?_)
    rintro ⟨now, sum⟩
    rw [made_result sum]
    exact ⟨now, by omega⟩

end Cloning

end NodeScaler
