import NodeScaler.Proofs.Inventory.Carried
import NodeScaler.Proofs.Inventory.Faults
import NodeScaler.Proofs.Provider.Creating
import NodeScaler.Proofs.Provider.Prospects

/-!
# What a call for machines touches

Any call of a client may be made to fail without reaching the inventory: every name that is read,
every clone, every tag. However that happens, a call for machines touches nothing but the machines
that it makes itself. They are new, they carry no other tags than those of their group, and as many
of them join the group as the call tells.
-/

namespace NodeScaler.Cloning

open Plan (Gives gives_done)

variable {σ α β : Type} {cloning : Cloning} {group : String} {memory : Memory}

/-! ## One machine -/

/-- A clone that may fail makes the next machine, without tags, or none. -/
theorem cloneInTime_watched (schedule : Handler Watch.interface σ) (cloning : Cloning)
    (name : String) (state : σ) (memory : Memory) :
    ∃ later requests,
      (∃ error, (cloning.cloneInTime (Watch.client Memory.client) name).run.Gives
        (schedule.sum Memory.answer) (state, memory) (.error error)
          (later, memory.grow [] requests)) ∨
      (cloning.cloneInTime (Watch.client Memory.client) name).run.Gives
        (schedule.sum Memory.answer) (state, memory)
          (.ok (Memory.machine (memory.machines.length + 1)))
          (later, memory.grow [⟨name, []⟩] requests) := by
  cases refused : cloning.refusal? name memory with
  | some error =>
    obtain ⟨later, gives | ⟨fault, gives⟩⟩ := Watch.around_within_gives schedule .clone
      (cloning.request name).name state (clone_refused refused)
    · exact ⟨later, _, .inl ⟨error, gives⟩⟩
    · exact ⟨later, [], .inl ⟨fault, memory.grow_nil.symm ▸ gives⟩⟩
  | none =>
    obtain ⟨later, gives | ⟨fault, gives⟩⟩ := Watch.around_within_gives schedule .clone
      (cloning.request name).name state (clone_made refused)
    · exact ⟨later, _, .inr gives⟩
    · exact ⟨later, [], .inl ⟨fault, memory.grow_nil.symm ▸ gives⟩⟩

/-- Attaching a tag, which may fail, gives it to a machine that has just been made, or changes
nothing. -/
theorem attach_watched (schedule : Handler Watch.interface σ) (name : String) {given : List String}
    (requests : List CloneRequest) (exist : ∀ tag ∈ given, memory.hasTag tag = true) (tag : String)
    (state : σ) :
    let object := Memory.machine (memory.machines.length + 1)
    let before := memory.grow [⟨name, given⟩] requests
    ∃ later,
      (∃ error, ((Watch.client Memory.client).attach tag object).run.Gives
        (schedule.sum Memory.answer) (state, before) (.error error) (later, before)) ∨
      memory.hasTag tag = true ∧ ((Watch.client Memory.client).attach tag object).run.Gives
        (schedule.sum Memory.answer) (state, before) (.ok ())
          (later, memory.grow [⟨name, given ++ [tag]⟩] requests) := by
  intro object before
  obtain ⟨attached, refused⟩ := attach_gives name requests exist tag
  cases hasTag : memory.hasTag tag with
  | true =>
    obtain ⟨later, gives | fails⟩ := Watch.around_gives schedule .attach
      (tag ++ " " ++ object.text) state (attached hasTag)
    · exact ⟨later, .inr ⟨rfl, gives⟩⟩
    · exact ⟨later, .inl fails⟩
  | false =>
    obtain ⟨later, gives | fails⟩ := Watch.around_gives schedule .attach
      (tag ++ " " ++ object.text) state (refused hasTag)
    · exact ⟨later, .inl ⟨_, gives⟩⟩
    · exact ⟨later, .inl fails⟩

/-- Attaching tags, which may fail, gives a machine that has just been made a beginning of them,
and all of them just if it goes well. -/
theorem tag_watched (schedule : Handler Watch.interface σ) (name : String) {given : List String}
    (requests : List CloneRequest) (exist : ∀ tag ∈ given, memory.hasTag tag = true)
    (tags : List String) (state : σ) :
    ∃ result later more,
      (tag (Watch.client Memory.client) (Memory.machine (memory.machines.length + 1))
        tags).run.Gives (schedule.sum Memory.answer)
          (state, memory.grow [⟨name, given⟩] requests) result
          (later, memory.grow [⟨name, given ++ more⟩] requests) ∧
      more <+: tags ∧ (∀ tag ∈ more, memory.hasTag tag = true) ∧
      (result = .ok () ↔ more = tags) := by
  induction tags generalizing given state with
  | nil =>
    refine ⟨.ok (), state, [], ?_, List.prefix_rfl, by simp, by simp⟩
    rw [List.append_nil]
    exact gives_done _ _
  | cons first rest inductionHypothesis =>
    obtain ⟨middle, ⟨error, fails⟩ | ⟨hasFirst, attached⟩⟩ :=
      attach_watched schedule name requests exist first state
    · refine ⟨.error error, middle, [], ?_, List.nil_prefix, by simp, by simp⟩
      rw [List.append_nil]
      exact fails.attemptError
    · have existToo : ∀ tag ∈ given ++ [first], memory.hasTag tag = true :=
        List.forall_mem_append.2 ⟨exist, List.forall_mem_singleton.2 hasFirst⟩
      obtain ⟨result, later, more, others, isPrefix, existMore, ends⟩ :=
        inductionHypothesis existToo middle
      refine ⟨result, later, first :: more, ?_, List.cons_prefix_cons.2 ⟨rfl, isPrefix⟩,
        List.forall_mem_cons.2 ⟨hasFirst, existMore⟩, ends.trans (by simp)⟩
      rw [List.append_cons]
      exact attached.attempt others

/-- A machine with a beginning of the tags of a group joins it just if it has all of them. -/
theorem joins_iff_complete (name : String) {given : List String}
    (isPrefix : given <+: cloning.tagsFor group) :
    (⟨name, given⟩ : Addition).joins cloning.cluster group = true ↔
      given = cloning.tagsFor group := by
  constructor
  · intro joins
    -- The last tag is found only at the end.
    obtain ⟨-, hasGroup⟩ := Addition.joins_iff.1 joins
    rcases List.prefix_cons_iff.1 isPrefix with rfl | ⟨rest, rfl, isRest⟩
    · cases hasGroup
    · rcases List.prefix_cons_iff.1 isRest with rfl | ⟨last, rfl, isLast⟩
      · exact absurd (List.mem_singleton.1 hasGroup).symm (clusterTag_ne_groupTag _ _)
      · rw [List.prefix_nil.1 isLast]
        rfl
  · rintro rfl
    exact Addition.joins_iff.2 ⟨by simp [tagsFor], by simp [tagsFor]⟩

/-! ## Several machines -/

/-- Whatever fails, a plan comes to an end and adds nothing but machines of the group. What it ends
with tells how many of them join. -/
def Adds (schedule : Handler Watch.interface σ) (cloning : Cloning) (group : String)
    (tells : α → Nat → Prop) (plan : Plan (Watch.interface.sum Memory.interface) α) : Prop :=
  ∀ state memory, ∃ value later additions requests,
    plan.Gives (schedule.sum Memory.answer) (state, memory) value
      (later, memory.grow additions requests) ∧
    Own cloning group memory additions ∧
    tells value (additions.countP (·.joins cloning.cluster group))

variable {schedule : Handler Watch.interface σ} {tells : α → Nat → Prop}

/-- A plan that is done adds nothing. -/
theorem adds_done {value : α} (nothing : tells value 0) :
    Adds schedule cloning group tells (.done value) := fun state memory =>
  ⟨value, state, [], [], memory.grow_nil.symm ▸ gives_done _ _, own_nil, nothing⟩

/-- Two plans, one after the other, add what both of them add. -/
theorem Adds.bind {both : β → Nat → Prop} {plan : Plan (Watch.interface.sum Memory.interface) α}
    {next : α → Plan (Watch.interface.sum Memory.interface) β}
    (adds : Adds schedule cloning group tells plan)
    (addsLater : ∀ value joined, tells value joined →
      Adds schedule cloning group (fun result more => both result (joined + more)) (next value)) :
    Adds schedule cloning group both (plan >>= next) := by
  intro state memory
  obtain ⟨value, middle, additions, requests, first, own, told⟩ := adds state memory
  obtain ⟨result, later, more, others, second, ownLater, toldLater⟩ :=
    addsLater value _ told middle (memory.grow additions requests)
  rw [Memory.grow_grow] at second
  refine ⟨result, later, _, _, first.bind second, own.append ownLater, ?_⟩
  rw [List.countP_append]
  exact toldLater

/-- Making a machine adds one that joins just if all goes well. -/
theorem make_adds (schedule : Handler Watch.interface σ) (cloning : Cloning) (group : String)
    (number : Nat) :
    Adds schedule cloning group (fun result joined => joined = gain result)
      (cloning.make (Watch.client Memory.client) group
        (machineName cloning.cluster group number)).run := by
  intro state memory
  obtain ⟨middle, requests, ⟨error, fails⟩ | made⟩ := cloneInTime_watched schedule cloning
    (machineName cloning.cluster group number) state memory
  · exact ⟨.error error, middle, [], requests, fails.attemptError, own_nil, rfl⟩
  · obtain ⟨result, later, given, tagged, isPrefix, exist, ends⟩ :=
      tag_watched schedule (machineName cloning.cluster group number) requests
        (List.forall_mem_nil _) (cloning.tagsFor group) middle
    refine ⟨result, later, _, requests, made.attempt tagged, ?_, ?_⟩
    · intro addition isAddition
      rw [List.mem_singleton.1 isAddition]
      exact ⟨⟨number, rfl⟩, fun tag isGiven => ⟨isPrefix.subset isGiven, exist tag isGiven⟩⟩
    · have joins := (joins_iff_complete (machineName cloning.cluster group number) isPrefix).trans
        ends.symm
      cases result with
      | ok => simpa [gain] using joins.2 rfl
      | error error => simpa [gain] using joins

/-- Names that are taken are passed over, and nothing joins by it. -/
theorem makeNext_adds (schedule : Handler Watch.interface σ) (cloning : Cloning) (group : String)
    (collisions number : Nat) :
    Adds schedule cloning group (fun outcome joined => joined = gain outcome.result)
      (cloning.makeNext (Watch.client Memory.client) group collisions number) := by
  induction collisions generalizing number with
  | zero =>
    exact (make_adds schedule cloning group number).bind fun result joined isGain =>
      adds_done isGain
  | succ collisions inductionHypothesis =>
    refine (make_adds schedule cloning group number).bind fun result joined isGain => ?_
    split
    · obtain rfl : joined = 0 := isGain
      simpa only [Nat.zero_add] using inductionHypothesis (following number)
    · exact adds_done isGain

/-- Making machines adds as many that join as the account says, and the others that were asked for
are its failures. -/
theorem makeAll_adds (schedule : Handler Watch.interface σ) (cloning : Cloning) (group : String)
    (count collisions number : Nat) :
    Adds schedule cloning group
      (fun account joined =>
        joined = account.created ∧ account.created + account.failures.length = count)
      (cloning.makeAll (Watch.client Memory.client) group count collisions number) := by
  induction count generalizing collisions number with
  | zero => exact adds_done ⟨rfl, rfl⟩
  | succ count inductionHypothesis =>
    refine (makeNext_adds schedule cloning group collisions number).bind
      fun outcome joined isGain => ?_
    refine (inductionHypothesis outcome.collisions (following outcome.number)).bind
      fun later more told => ?_
    obtain ⟨created, total⟩ := add_gain cloning group outcome later
    exact adds_done (by omega)

/-- The lookups of a watched client do no harm, if those of the client do none. -/
theorem watched_lookups {I : Interface} {client : InventoryClient I} {harmless : I.Question → Prop}
    (lookups : Lookups client harmless) :
    Lookups (I := Watch.interface.sum I) (Watch.client client)
      (Sum.elim (fun _ => True) harmless) where
  resolve tag := Watch.around_harmless .resolve tag (lookups.resolve tag)
  name object := Watch.around_harmless .name object.text (lookups.name object)
  uuid object := Watch.around_harmless .uuid object.text (lookups.uuid object)

/-- Reading names, which may fail, adds nothing. -/
theorem names_adds (schedule : Handler Watch.interface σ) (cloning : Cloning) (group : String) :
    Adds schedule cloning group
      (fun result joined => joined = 0 ∧ Plan.OnlyFails (α := List String) Idle result)
      (cloning.names (Watch.client Memory.client) group).run := by
  intro state memory
  let reads : (Watch.interface.sum Memory.interface).Question → Prop :=
    Sum.elim (fun _ => True) Memory.Reads
  let unchanged (state : σ × Memory) : Prop := state.2 = memory
  have keeps (question : (Watch.interface.sum Memory.interface).Question) (before : σ × Memory)
      (isRead : reads question) (same : unchanged before) :
      unchanged ((schedule.sum Memory.answer) question before).2 := by
    cases question with
    | inl call => exact same
    | inr question => exact (Memory.answer_reads isRead before.2).trans same
  have start : unchanged (state, memory) := rfl
  obtain ⟨result, ⟨later, after⟩, gives, idle, same⟩ :=
    (names_harmless (watched_lookups memory_lookups) cloning group).gives keeps start
  obtain rfl : after = memory := same
  exact ⟨result, later, [], [], after.grow_nil.symm ▸ gives, own_nil, rfl, idle⟩

/-- A call for machines adds as many that join as its result tells. -/
theorem create_adds (schedule : Handler Watch.interface σ) (cloning : Cloning) (group : String)
    (count : Nat) :
    Adds schedule cloning group (fun result joined => joined = made count result)
      (cloning.create (Watch.client Memory.client) group count).run := by
  refine (names_adds schedule cloning group).bind fun result joined told => ?_
  obtain ⟨rfl, idle⟩ := told
  cases result with
  | error error => exact adds_done idle.symm
  | ok existing =>
    refine (makeAll_adds schedule cloning group count mostCollisions
      (nextNumber (stem cloning.cluster group) existing)).bind fun account joined told => ?_
    exact adds_done (by rw [made_result told.2]; omega)

/-! ## Containment -/

/-- From one inventory to the other, only machines of the group have been added, and so many of
them have joined it. -/
structure Contained (cluster group : String) (joined : Nat) (before after : Memory) : Prop where
  /-- What was there is still there. -/
  has {object : ObjectRef} : before.Has object → after.Has object
  /-- It has the same name. -/
  name {object : ObjectRef} : before.Has object →
    (Memory.answer (.name object) after).1 = (Memory.answer (.name object) before).1
  /-- It has the same BIOS UUID. -/
  uuid {object : ObjectRef} : before.Has object →
    (Memory.answer (.uuid object) after).1 = (Memory.answer (.uuid object) before).1
  /-- It carries the same tags. -/
  tags {object : ObjectRef} : before.Has object → after.tagsOf object = before.tagsOf object
  /-- There are the same tags. -/
  tagNames : after.tags.map (·.1) = before.tags.map (·.1)
  /-- All other groups of this and of every other cluster have the same members. -/
  others {otherCluster otherGroup : String} : (otherCluster, otherGroup) ≠ (cluster, group) →
    membersIn otherCluster otherGroup after = membersIn otherCluster otherGroup before
  /-- What is new carries no other tags than those of the group. -/
  newTags {object : ObjectRef} : ¬before.Has object →
    after.tagsOf object ⊆ [clusterTag cluster, groupTag group]
  /-- The members of the group are those from before and what is new and carries both tags. -/
  members {object : ObjectRef} : object ∈ membersIn cluster group after ↔
    object ∈ membersIn cluster group before ∨ ¬before.Has object ∧
      clusterTag cluster ∈ after.tagsOf object ∧ groupTag group ∈ after.tagsOf object
  /-- The group has grown by so many. -/
  size : after.live cluster group = before.live cluster group + joined

/-- An inventory that grows by machines of a group is changed in nothing else. -/
theorem contained_grow (reachable : memory.Reachable) {additions : List Addition}
    (own : Own cloning group memory additions) (requests : List CloneRequest) :
    Contained cloning.cluster group (additions.countP (·.joins cloning.cluster group)) memory
      (memory.grow additions requests) := by
  have sound := reachable.sound
  have distinct := reachable.distinct
  have sameNames : (memory.grow additions requests).tags.map (·.1) = memory.tags.map (·.1) :=
    Memory.grow_tagNames fun addition isAddition tag isGiven =>
      ((own addition isAddition).2 tag isGiven).2
  have distinctAfter : (memory.grow additions requests).Distinct := by
    rw [Memory.Distinct, sameNames]
    exact distinct
  have isNew {object : ObjectRef} (new : ¬memory.Has object) (tag : String) :
      object ∉ memory.carrying tag := fun carries => new (sound tag object carries)
  constructor
  case has =>
    intro object has
    exact has.mono (by rw [Memory.length_grow_machines]; omega)
  case name | uuid =>
    intro object has
    simp only [Memory.answer, Memory.find?_grow_of_has has]
    split <;> rfl
  case tags =>
    intro object has
    exact Memory.tagsOf_grow_of_has distinct has sameNames
  case tagNames => exact sameNames
  case others =>
    intro otherCluster otherGroup differ
    refine RefSet.eq_of_mem fun object => ?_
    rw [mem_membersIn_grow sound, or_iff_left]
    intro joined
    obtain ⟨index, addition, isAddition, joins, -⟩ := mem_newcomers.1 joined
    exact differ (own.only_joins (List.mem_of_getElem? isAddition) joins)
  case newTags =>
    intro object new tag isListed
    rw [Memory.mem_tagsOf distinctAfter, Memory.mem_carrying_grow,
      or_iff_right (isNew new tag)] at isListed
    obtain ⟨index, addition, isAddition, isGiven, -⟩ := isListed
    exact ((own addition (List.mem_of_getElem? isAddition)).2 tag isGiven).1
  case members =>
    intro object
    rw [Memory.mem_tagsOf distinctAfter, Memory.mem_tagsOf distinctAfter]
    by_cases has : memory.Has object
    · simp only [membersIn, RefSet.mem_intersect, Memory.mem_carrying_grow_of_has has, has,
        not_true_eq_false, false_and, or_false]
    · have noMember : object ∉ membersIn cloning.cluster group memory := fun isMember =>
        isNew has _ (RefSet.mem_intersect.1 isMember).1
      simp only [noMember, has, not_false_eq_true, true_and, false_or]
      exact RefSet.mem_intersect
  case size => exact live_grow sound

/-- **Containment of a call for machines.** Whatever calls of the client are made to fail, and
however, a call for machines comes to an end, leaves what was there before and every other group as
it was, and adds only machines with tags of its group. As many of them as its result tells join the
group. This holds also when their numbers begin again at zero after the greatest one of 64 bits. -/
theorem create_contained (schedule : Handler Watch.interface σ) (state : σ) (cloning : Cloning)
    (group : String) (count : Nat) (reachable : memory.Reachable) :
    ∃ result later after,
      (cloning.create (Watch.client Memory.client) group count).run.Gives
        (schedule.sum Memory.answer) (state, memory) result (later, after) ∧
      Contained cloning.cluster group (made count result) memory after := by
  obtain ⟨result, later, additions, requests, gives, own, told⟩ :=
    create_adds schedule cloning group count state memory
  exact ⟨result, later, _, gives, told ▸ contained_grow reachable own requests⟩

/-- An inventory with a worker and a machine of another group. -/
def staffed : Memory :=
  let memory := Memory.empty.addTemplate "template"
  let memory := (memory.addMachine "prod-workers-1" [clusterTag "prod", groupTag "workers"]).2
  (memory.addMachine "prod-infra-1" [clusterTag "prod", groupTag "infra"]).2

/-- Of three workers one is not cloned. Another one misses a tag and is taken for a taken name, so
that one more is made. -/
theorem staffed_contained :
    let cloning : Cloning := ⟨"prod", "template", "", "", .seconds 600⟩
    let watch : Watch :=
      ⟨[⟨.clone, 1, 1, .request "busy"⟩, ⟨.attach, 3, 1, .alreadyExists "boom"⟩], []⟩
    let run := (cloning.create (Watch.client Memory.client) "workers" 3).run.run
      (Watch.answer.sum Memory.answer) (watch, staffed)
    run.value = some (.error
      (.partialProvisioning 3 2 ["prod-workers-3: request failed: busy"])) ∧
    run.state.2.machines.length = 5 ∧ Contained "prod" "workers" 2 staffed run.state.2 := by
  intro cloning watch run
  have reachable : staffed.Reachable :=
    ((Relation.ReflTransGen.refl.tail (.addTemplate _ _)).tail (.addMachine _ _ _)).tail
      (.addMachine _ _ _)
  have ends : run.value = some (.error
      (.partialProvisioning 3 2 ["prod-workers-3: request failed: busy"])) := by decide +kernel
  obtain ⟨result, later, after, gives, contained⟩ :=
    create_contained Watch.answer watch cloning "workers" 3 reachable
  obtain ⟨rfl, isLast⟩ := gives.unique ⟨ends, rfl⟩
  refine ⟨ends, by decide +kernel, ?_⟩
  rw [← isLast]
  exact contained

end NodeScaler.Cloning
