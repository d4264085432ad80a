import NodeScaler.Proofs.Inventory.Reachable
import NodeScaler.Proofs.Plan.Joining
import NodeScaler.Provider.Cloning

/-!
# What is told of a group is exact

The members of a group are found just when both of its tags are, and they are the references that carry
both, in ascending order, whichever of the two sets is read out. Names and identifiers are read of one
member after the other. The first lookup that fails is all that comes of a query: nothing is looked up
after it, and no part of a list is told.
-/

namespace NodeScaler

open Plan (Progress)

/-! ## Common references -/

/-- The references that two sets share, as a list in ascending order. -/
structure RefSet.Common (first second found : RefSet) : Prop where
  /-- The list is strictly ascending. -/
  ascending : found.members.Pairwise (· < ·)
  /-- It holds the references of both sets and no others. -/
  mem_iff (object : ObjectRef) :
    object ∈ found.members ↔ object ∈ first.members ∧ object ∈ second.members
  /-- Both sets have the same ones in common, whichever of them is gone through. -/
  either : found.members = first.members.filter (· ∈ second.members) ∧
    found.members = second.members.filter (· ∈ first.members)
  /-- A set without references has none in common with another. -/
  empty : first.members = [] ∨ second.members = [] → found.members = []

/-- What two sets share does not depend on which of them comes first. -/
theorem RefSet.intersect_comm (first second : RefSet) :
    first.intersect second = second.intersect first := by
  refine RefSet.eq_of_mem fun object => ?_
  rw [mem_intersect, mem_intersect, and_comm]

/-- The common references are the intersection, and nothing else is. -/
theorem RefSet.common_iff {first second found : RefSet} :
    Common first second found ↔ found = first.intersect second := by
  constructor
  · intro common
    exact RefSet.eq_of_mem fun object => (common.mem_iff object).trans mem_intersect.symm
  · rintro rfl
    refine ⟨(first.intersect second).ascending, fun object => mem_intersect,
      ⟨rfl, congrArg members (intersect_comm first second)⟩, fun isEmpty => ?_⟩
    refine List.eq_nil_iff_forall_not_mem.2 fun object isIn => ?_
    obtain ⟨inFirst, inSecond⟩ := mem_intersect.1 isIn
    rcases isEmpty with isEmpty | isEmpty
    · exact List.not_mem_nil (isEmpty.subst (motive := (object ∈ ·)) inFirst)
    · exact List.not_mem_nil (isEmpty.subst (motive := (object ∈ ·)) inSecond)

/-- What two sets share is the same however they are read out and whichever is the smaller one. -/
theorem Membership.shared_eq {first second : RefSet} {one two : List ObjectRef}
    (once : one.Nodup) (onceToo : two.Nodup) (reads : ∀ object, object ∈ one ↔ object ∈ first)
    (readsToo : ∀ object, object ∈ two ↔ object ∈ second) :
    shared one two = (first.intersect second).members := by
  have sorts {small large : List ObjectRef} (once : small.Nodup)
      (both : ∀ object, object ∈ small ∧ object ∈ large ↔ object ∈ first.intersect second) :
      (small.filter (large.contains ·)).mergeSort ObjectRef.isUpTo =
        (first.intersect second).members := by
    have kept : (small.filter (large.contains ·)).Perm (first.intersect second).members := by
      refine (List.perm_ext_iff_of_nodup (once.filter _) (RefSet.nodup _)).2 fun object => ?_
      rw [List.mem_filter, List.contains_iff_mem]
      exact both object
    -- Two ascending orders of the same references agree.
    exact ((List.mergeSort_perm _ _).trans kept).eq_of_pairwise
      (fun _ _ _ _ first second => ObjectRef.eq_of_isUpTo first second)
      (List.pairwise_mergeSort ObjectRef.isUpTo_trans ObjectRef.isUpTo_total _)
      ((first.intersect second).ascending.imp fun less =>
        ObjectRef.isUpTo_iff.2 (ObjectRef.lt_asymm less))
  have both (object : ObjectRef) : object ∈ one ∧ object ∈ two ↔ object ∈ first.intersect second := by
    rw [RefSet.mem_intersect, reads, readsToo]
  unfold shared
  by_cases smaller : one.length ≤ two.length
  · rw [if_pos smaller]
    exact sorts once both
  · rw [if_neg smaller]
    exact sorts onceToo fun object => and_comm.trans (both object)

/-! ## Members -/

namespace Membership

variable {I : Interface} {σ : Type} {membership : Membership I} {group : String}
  {exchanges : List (Exchange I)} {inCluster inGroup : Progress (Except InventoryError RefSet)}

/-- The tags of the cluster and of the group are looked up side by side. What is asked is what the two
lookups ask, in their own order each, and a lookup that has not failed is dropped only when the other
one fails. -/
structure Looked (membership : Membership I) (group : String) (exchanges : List (Exchange I))
    (inCluster inGroup : Progress (Except InventoryError RefSet)) : Prop where
  /-- Each lookup has its own exchanges, and there are no others. -/
  asked : ∃ own others,
    (membership.client.resolve (clusterTag membership.cluster)).run.Comes own inCluster ∧
    (membership.client.resolve (groupTag group)).run.Comes others inGroup ∧
    Merged own others exchanges
  /-- The first one is dropped only because the second one has failed. -/
  cluster_dropped : inCluster = .dropped → ∃ cause, inGroup = .ended (.error cause)
  /-- The second one is dropped only because the first one has failed. -/
  group_dropped : inGroup = .dropped → ∃ cause, inCluster = .ended (.error cause)

/-- The members of a group as they follow from the ends of the two lookups: the references that are in
both sets, or the failure of one lookup, whichever comes first, or nothing if a lookup gets stuck. -/
structure Follows (inCluster inGroup : Progress (Except InventoryError RefSet))
    (value : Option (Except ProviderError RefSet)) : Prop where
  /-- There is a list just if both lookups succeed, and it holds what the two sets share. -/
  ok (found : RefSet) : value = some (.ok found) ↔ ∃ first second,
    inCluster = .ended (.ok first) ∧ inGroup = .ended (.ok second) ∧ RefSet.Common first second found
  /-- A failure is that of a lookup. -/
  error (error : ProviderError) : value = some (.error error) ↔ ∃ cause, error = .inventory cause ∧
    (inCluster = .ended (.error cause) ∨ inGroup = .ended (.error cause))
  /-- Nothing is told just if a lookup gets stuck and none fails. -/
  stuck : value = none ↔ (inCluster = .stuck ∨ inGroup = .stuck) ∧ inCluster.Unfailed ∧ inGroup.Unfailed

/-- Two sets are found. -/
theorem follows_ok (first second : RefSet) :
    Follows (.ended (.ok first)) (.ended (.ok second)) (some (.ok (first.intersect second))) where
  ok found := by simp [RefSet.common_iff, eq_comm]
  error error := by simp
  stuck := by simp

/-- A lookup fails, and the other one does not. -/
theorem follows_error {cause : InventoryError}
    (failed : inCluster = .ended (.error cause) ∧ inGroup.Unfailed ∨
      inGroup = .ended (.error cause) ∧ inCluster.Unfailed) :
    Follows inCluster inGroup (some (.error (.inventory cause))) := by
  rcases failed with ⟨rfl, unfailed⟩ | ⟨rfl, unfailed⟩
  · refine ⟨by simp, fun error => ?_, by simp [Progress.Unfailed]⟩
    simp [unfailed _, eq_comm]
  · refine ⟨by simp, fun error => ?_, by simp [Progress.Unfailed]⟩
    simp [unfailed _, eq_comm]

/-- A lookup gets stuck, and none fails. -/
theorem follows_none (stuck : inCluster = .stuck ∨ inGroup = .stuck) (unfailed : inCluster.Unfailed)
    (unfailedToo : inGroup.Unfailed) : Follows inCluster inGroup none where
  ok found := by rcases stuck with rfl | rfl <;> simp
  error error := by simp [unfailed _, unfailedToo _]
  stuck := by simp [stuck, unfailed, unfailedToo]

/-- What is told of two lookups side by side. -/
theorem follows_of_joins {both : Progress (Except InventoryError (RefSet × RefSet))}
    (joins : Progress.Joins inCluster inGroup both) (goesOn : both ≠ .dropped) :
    (inCluster = .dropped → ∃ cause, inGroup = .ended (.error cause)) ∧
      (inGroup = .dropped → ∃ cause, inCluster = .ended (.error cause)) ∧
      Follows inCluster inGroup (both.map fun found =>
        (found.mapError .inventory).map fun (first, second) => first.intersect second).value? := by
  cases joins with
  | ok first second => exact ⟨by simp, by simp, follows_ok first second⟩
  | first cause unfailed => exact ⟨by simp, by simp, follows_error (.inl ⟨rfl, unfailed⟩)⟩
  | second cause unfailed => exact ⟨by simp, by simp, follows_error (.inr ⟨rfl, unfailed⟩)⟩
  | firstStuck beside unfailed =>
    exact ⟨by simp, fun isDropped => absurd isDropped beside,
      follows_none (.inl rfl) Plan.Progress.unfailed_stuck unfailed⟩
  | secondStuck first =>
    exact ⟨by simp, by simp, follows_none (.inr rfl) (Plan.Progress.unfailed_ok first)
      Plan.Progress.unfailed_stuck⟩
  | dropped => exact absurd rfl goesOn

/-- Looking up the members is looking up the two tags, and reading out what is found. -/
theorem members_run (membership : Membership I) (group : String) :
    (membership.members group).run =
      (Except.map fun (inCluster, inGroup) => inCluster.intersect inGroup) <$>
        Plan.both (membership.carriers (clusterTag membership.cluster)).run
          (membership.carriers (groupTag group)).run := by
  refine congrArg (Plan.bind _) (funext fun found => ?_)
  cases found <;> rfl

/-- **Members.** For every client, the exchanges of a query are those of two lookups side by side, and its
value follows from their ends. Nothing is remembered between queries. -/
theorem members_follow (membership : Membership I) (group : String) (handler : Handler I σ)
    (state : σ) :
    ∃ inCluster inGroup,
      membership.Looked group ((membership.members group).run.transcript handler state).exchanges
        inCluster inGroup ∧
      Follows inCluster inGroup ((membership.members group).run.transcript handler state).value := by
  obtain ⟨progress, comes, goesOn, isValue⟩ :=
    Plan.comes_transcript handler (membership.members group).run state
  rw [isValue]
  generalize ((membership.members group).run.transcript handler state).exchanges = exchanges at comes ⊢
  rw [members_run membership group] at comes
  obtain ⟨both, together, rfl⟩ := comes.of_map
  obtain ⟨own, one, others, other, first, second, merged, joins⟩ := together.of_both
  obtain ⟨inCluster, alone, rfl⟩ := first.of_map
  obtain ⟨inGroup, beside, rfl⟩ := second.of_map
  obtain ⟨both, meet, rfl⟩ := joins.of_map
  obtain ⟨clusterDropped, groupDropped, follows⟩ :=
    follows_of_joins meet fun isDropped => goesOn (by rw [isDropped]; rfl)
  refine ⟨inCluster, inGroup, ⟨⟨own, others, alone, beside, merged⟩, clusterDropped, groupDropped⟩, ?_⟩
  cases both <;> exact follows

end Membership

/-! ## One member after the other -/

namespace Cloning

variable {I : Interface} {σ α : Type} {read : ObjectRef → Attempt I InventoryError α}
  {objects : List ObjectRef} {exchanges : List (Exchange I)}

/-- Every object is read, in order, and has its value; each reading has its own exchanges. -/
inductive ReadAll (read : ObjectRef → Attempt I InventoryError α) :
    List ObjectRef → List (Exchange I) → List α → Prop where
  /-- There is nothing to read. -/
  | nil : ReadAll read [] [] []
  /-- The first object has its value, and then the others are read. -/
  | cons {object : ObjectRef} {objects : List ObjectRef} {own later : List (Exchange I)} {value : α}
      {values : List α} (first : (read object).run.Comes own (.ended (.ok value)))
      (rest : ReadAll read objects later values) :
      ReadAll read (object :: objects) (own ++ later) (value :: values)

/-- Every object before some object is read and has its value, and then reading that one fails or gets
stuck. Nothing is asked after that. -/
def BreaksOff (read : ObjectRef → Attempt I InventoryError α) (objects : List ObjectRef)
    (exchanges : List (Exchange I)) (halt : Option InventoryError) : Prop :=
  ∃ before object after earlier values own, objects = before ++ object :: after ∧
    exchanges = earlier ++ own ∧ ReadAll read before earlier values ∧
    (read object).run.Comes own (.halted halt)

/-- Each object that is read has one value. -/
theorem ReadAll.length_eq {values : List α} (reads : ReadAll read objects exchanges values) :
    values.length = objects.length := by
  induction reads with
  | nil => rfl
  | cons first rest inductionHypothesis => simp [inductionHypothesis]

/-- Nothing is read of no objects. -/
theorem readAll_nil {values : List α} :
    ReadAll read [] exchanges values ↔ exchanges = [] ∧ values = [] := by
  constructor
  · intro reads
    cases reads
    exact ⟨rfl, rfl⟩
  · rintro ⟨rfl, rfl⟩
    exact .nil

/-- Reading the first object, and then the others. -/
theorem readAll_cons {object : ObjectRef} {values : List α} :
    ReadAll read (object :: objects) exchanges values ↔ ∃ value rest own later,
      exchanges = own ++ later ∧ values = value :: rest ∧
        (read object).run.Comes own (.ended (.ok value)) ∧ ReadAll read objects later rest := by
  constructor
  · intro reads
    cases reads with
    | cons first rest => exact ⟨_, _, _, _, rfl, rfl, first, rest⟩
  · rintro ⟨value, rest, own, later, rfl, rfl, first, reads⟩
    exact .cons first reads

/-- Reading breaks off at the first object, or after it. -/
theorem breaksOff_cons {object : ObjectRef} {halt : Option InventoryError} :
    BreaksOff read (object :: objects) exchanges halt ↔
      (read object).run.Comes exchanges (.halted halt) ∨ ∃ value own later,
        exchanges = own ++ later ∧ (read object).run.Comes own (.ended (.ok value)) ∧
          BreaksOff read objects later halt := by
  constructor
  · rintro ⟨before, failing, after, earlier, values, own, whole, rfl, reads, halts⟩
    rcases before with - | ⟨first, before⟩
    · obtain ⟨rfl, rfl⟩ := List.cons.inj whole
      obtain ⟨rfl, rfl⟩ := readAll_nil.1 reads
      exact .inl halts
    · obtain ⟨rfl, rfl⟩ := List.cons.inj whole
      obtain ⟨value, rest, sooner, later, rfl, rfl, isRead, reads⟩ := readAll_cons.1 reads
      exact .inr ⟨value, sooner, later ++ own, List.append_assoc .., isRead, before, failing, after,
        later, rest, own, rfl, rfl, reads, halts⟩
  · rintro (halts | ⟨value, own, later, rfl, isRead, before, failing, after, earlier, values, last,
      rfl, rfl, reads, halts⟩)
    · exact ⟨[], object, objects, [], [], exchanges, rfl, rfl, .nil, halts⟩
    · exact ⟨object :: before, failing, after, own ++ earlier, value :: values, last, rfl,
        (List.append_assoc ..).symm, .cons isRead reads, halts⟩

/-- Looking up objects is looking up the first one and then the others. -/
theorem each_cons (read : ObjectRef → Attempt I InventoryError α) (object : ObjectRef)
    (objects : List ObjectRef) :
    each read (object :: objects) =
      (read object).mapError .inventory >>= fun value => (value :: ·) <$> each read objects := by
  rw [each, List.mapM_cons]
  refine congrArg (_ >>= ·) (funext fun value => ?_)
  rw [map_eq_pure_bind]
  rfl

/-- Each of the objects has been looked up just if all lookups have succeeded. -/
theorem each_ok {values : List α} :
    (each read objects).run.Comes exchanges (.ended (.ok values)) ↔
      ReadAll read objects exchanges values := by
  induction objects generalizing exchanges values with
  | nil =>
    have isDone : (each read []).run = .done (.ok []) := rfl
    rw [readAll_nil, Plan.comes_ended_iff, isDone, Plan.concludes_done, Except.ok.injEq]
  | cons object objects inductionHypothesis =>
    rw [each_cons, Plan.comes_attempt_ok, readAll_cons]
    simp only [Plan.comes_mapError_ok, Plan.comes_handed_ok, inductionHypothesis]
    constructor
    · rintro ⟨value, own, later, rfl, first, rest, reads, rfl⟩
      exact ⟨value, rest, own, later, rfl, rfl, first, reads⟩
    · rintro ⟨value, rest, own, later, rfl, rfl, first, reads⟩
      exact ⟨value, own, later, rfl, first, rest, reads, rfl⟩

/-- Looking up objects comes to no value just where a lookup comes to none. -/
theorem each_halted {halt : Option ProviderError} :
    (each read objects).run.Comes exchanges (.halted halt) ↔
      ∃ own, BreaksOff read objects exchanges own ∧ halt = own.map .inventory := by
  induction objects generalizing exchanges with
  | nil =>
    constructor
    · intro comes
      have isDone : (each read []).run = .done (.ok []) := rfl
      rw [isDone] at comes
      cases halt <;> cases comes
    · rintro ⟨own, ⟨before, object, after, earlier, values, last, whole, -⟩, -⟩
      cases before <;> cases whole
  | cons object objects inductionHypothesis =>
    rw [each_cons, Plan.comes_attempt_halted]
    simp only [Plan.comes_mapError_ok, Plan.comes_mapError_halted, Plan.comes_handed_halted,
      inductionHypothesis, breaksOff_cons]
    constructor
    · rintro (⟨own, halts, rfl⟩ | ⟨value, before, after, rfl, first, own, breaks, rfl⟩)
      · exact ⟨own, .inl halts, rfl⟩
      · exact ⟨own, .inr ⟨value, before, after, rfl, first, breaks⟩, rfl⟩
    · rintro ⟨own, halts | ⟨value, before, after, rfl, first, breaks⟩, rfl⟩
      · exact .inl ⟨own, halts, rfl⟩
      · exact .inr ⟨value, before, after, rfl, first, own, breaks, rfl⟩

/-! ## Queries -/

/-- A query for something about each member of a group, compared with the lookup of the members. -/
structure Exact (read : ObjectRef → Attempt I InventoryError α) (entry : α → String)
    (members : Transcript I σ (Except ProviderError RefSet))
    (query : Transcript I σ (Except ProviderError (List String))) : Prop where
  /-- There is a list just if the members are found and each of them is read, and then it has one
  entry for each member, in their order. -/
  ok (entries : List String) : query.value = some (.ok entries) ↔ ∃ found told values,
    members.value = some (.ok found) ∧ query.exchanges = members.exchanges ++ told ∧
    ReadAll read found.members told values ∧ entries = values.map entry ∧
    entries.length = found.members.length
  /-- A failure is that of the members, and then nothing more is asked, or that of the first member
  that cannot be read, and then nothing is asked after it. -/
  error (error : ProviderError) : query.value = some (.error error) ↔
    members.value = some (.error error) ∧ query.exchanges = members.exchanges ∨
    ∃ found told cause, members.value = some (.ok found) ∧
      query.exchanges = members.exchanges ++ told ∧
      BreaksOff read found.members told (some cause) ∧ error = .inventory cause
  /-- Nothing is told just if the lookup of the members gets stuck, or that of one member after those
  before it are read. -/
  stuck : query.value = none ↔
    members.value = none ∧ query.exchanges = members.exchanges ∨
    ∃ found told, members.value = some (.ok found) ∧ query.exchanges = members.exchanges ++ told ∧
      BreaksOff read found.members told none

/-- A query of members that have been found reads each of them, one after the other. -/
theorem exact_found {found : RefSet} {members : Transcript I σ (Except ProviderError RefSet)}
    (isFound : members.value = some (.ok found)) (read : ObjectRef → Attempt I InventoryError α)
    (entry : α → String) (handler : Handler I σ) :
    let entries := (List.map entry <$> each read found.members).run.transcript handler members.state
    Exact read entry members { entries with exchanges := members.exchanges ++ entries.exchanges } := by
  intro entries
  have isHalted (halt : Option ProviderError) : entries.value = (Progress.halted halt).value? ↔
      ∃ cause, BreaksOff read found.members entries.exchanges cause ∧ halt = cause.map .inventory := by
    refine (Plan.transcript_value_eq ?_).trans (Plan.comes_handed_halted.trans each_halted)
    cases halt <;> simp [Progress.halted]
  refine ⟨fun list => ?_, fun error => ?_, ?_⟩
  · have isValue : entries.value = (Progress.ended (.ok list)).value? ↔
        ∃ values, ReadAll read found.members entries.exchanges values ∧ list = values.map entry := by
      refine (Plan.transcript_value_eq (by simp)).trans (Plan.comes_handed_ok.trans ?_)
      simp only [each_ok, entries]
    refine isValue.trans ⟨?_, ?_⟩
    · rintro ⟨values, reads, rfl⟩
      exact ⟨found, entries.exchanges, values, isFound, rfl, reads, rfl,
        (List.length_map _).trans reads.length_eq⟩
    · rintro ⟨other, told, values, isOther, isTold, reads, rfl, -⟩
      cases isFound.symm.trans isOther
      obtain rfl := List.append_cancel_left isTold
      exact ⟨values, reads, rfl⟩
  · refine (isHalted (some error)).trans ⟨?_, ?_⟩
    · rintro ⟨- | cause, breaks, isCause⟩ <;> cases isCause
      exact .inr ⟨found, entries.exchanges, cause, isFound, rfl, breaks, rfl⟩
    · rintro (⟨isError, -⟩ | ⟨other, told, cause, isOther, isTold, breaks, rfl⟩)
      · cases isFound.symm.trans isError
      · cases isFound.symm.trans isOther
        obtain rfl := List.append_cancel_left isTold
        exact ⟨some cause, breaks, rfl⟩
  · refine (isHalted none).trans ⟨?_, ?_⟩
    · rintro ⟨- | cause, breaks, isCause⟩ <;> cases isCause
      exact .inr ⟨found, entries.exchanges, isFound, rfl, breaks⟩
    · rintro (⟨isNone, -⟩ | ⟨other, told, isOther, isTold, breaks⟩)
      · cases isFound.symm.trans isNone
      · cases isFound.symm.trans isOther
        obtain rfl := List.append_cancel_left isTold
        exact ⟨none, breaks, rfl⟩

/-- A query reads each member after they are looked up. -/
theorem exact_of_each {lookup : Attempt I ProviderError RefSet}
    (read : ObjectRef → Attempt I InventoryError α) (entry : α → String) (handler : Handler I σ)
    (state : σ) :
    Exact read entry (lookup.run.transcript handler state)
      ((lookup >>= fun found => List.map entry <$> each read found.members).run.transcript handler
        state) := by
  rcases isValue : (lookup.run.transcript handler state).value with - | error | found
  · rw [Plan.transcript_attempt_none _ isValue]
    exact ⟨fun entries => by simp [isValue], fun error => by simp [isValue], by simp [isValue]⟩
  · rw [Plan.transcript_attempt_error _ isValue]
    exact ⟨fun entries => by simp [isValue], fun error => by simp [isValue], by simp [isValue]⟩
  · rw [Plan.transcript_attempt _ isValue]
    exact exact_found isValue read entry handler

/-- **Queries are exact.** For every client and in all surroundings the members of a group are told
just if both of its tags are looked up, and they are the references of both sets, in ascending order.
The identifiers and the names are told just if the members are and each of them is read, one entry for
each member in their order; otherwise the first failure is all that is told, and the last that is
asked. -/
theorem queries_exact (client : InventoryClient I) (cloning : Cloning) (group : String)
    (handler : Handler I σ) (state : σ) :
    let members := ((cloning.membership client).members group).run.transcript handler state
    (∃ inCluster inGroup, (cloning.membership client).Looked group members.exchanges inCluster inGroup ∧
      Membership.Follows inCluster inGroup members.value) ∧
    Exact client.uuid providerId members ((cloning.nodes client group).run.transcript handler state) ∧
    Exact client.name id members ((cloning.names client group).run.transcript handler state) := by
  refine ⟨Membership.members_follow _ group handler state, ?_, ?_⟩
  · have isQuery : cloning.nodes client group = (cloning.membership client).members group >>=
        fun found => List.map providerId <$> each client.uuid found.members := by
      refine congrArg (_ >>= ·) (funext fun found => ?_)
      rw [map_eq_pure_bind]
    rw [isQuery]
    exact exact_of_each client.uuid providerId handler state
  · have isQuery : cloning.names client group = (cloning.membership client).members group >>=
        fun found => List.map id <$> each client.name found.members := by
      simp only [names, List.map_id_fun, id_map]
    rw [isQuery]
    exact exact_of_each client.name id handler state

end Cloning

end NodeScaler
