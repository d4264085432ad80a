import NodeScaler.Proofs.Provider.Freshness
import NodeScaler.Proofs.Provider.Members

/-!
# Names and tags that tell the group

The name of a machine tells its group and its number: the number is what follows the last hyphen, since
it holds none itself, so hyphens and digits in the names of groups do no harm. The tag of a group tells
the group, and is the tag of no cluster. What a call for machines of one group asks a client to make
and to tag is therefore never taken for something of another group.
-/

namespace NodeScaler.Cloning

variable {cloning : Cloning} {cluster group other : String} {number borne : Nat}
  {trials : List Trial} {told : List (Exchange Told.interface)}

/-! ## Names -/

/-- The name of a machine, with what stands behind its last hyphen. -/
theorem machineName_toList (cluster group : String) (number : Nat) :
    (machineName cluster group number).toList =
      (cluster ++ "-" ++ group).toList ++ '-' :: Nat.toDigits 10 number := by
  simp only [machineName, stem, Nat.toString_eq_ofList_toDigits, String.toList_append,
    String.toList_ofList, List.append_assoc]
  rfl

/-- What the names of a group begin with ends with a hyphen. -/
theorem stem_toList_append (cluster group : String) (rest : List Char) :
    (stem cluster group).toList ++ rest = (cluster ++ "-" ++ group).toList ++ '-' :: rest := by
  simp only [stem, String.toList_append, List.append_assoc]
  rfl

/-- The name of a machine bears no number but its own, and that for its own group alone. -/
theorem Bears.eq_of_machineName
    (bears : Bears (stem cluster other) (machineName cluster group number) borne) :
    group = other ∧ borne = number := by
  have noHyphen := hyphen_not_mem_toDigits number
  have sameGroup (same : (cluster ++ "-" ++ group).toList = (cluster ++ "-" ++ other).toList) :
      group = other := by
    simp only [String.toList_append, List.append_cancel_left_eq] at same
    exact String.toList_injective same
  cases bears with
  | plain isNumber fits whole =>
    rw [machineName_toList, stem_toList_append] at whole
    have absent : '-' ∉ _ := fun isIn => absurd (isNumber.areDigits '-' isIn) (by decide)
    obtain ⟨front, digits⟩ := separator_append_inj noHyphen absent whole
    refine ⟨sameGroup front, ?_⟩
    rw [← isNumber.isNumber, ← digits, Nat.ofDigitChars_ten_toDigits]
  | @plus digits isNumber fits whole =>
    rw [machineName_toList, stem_toList_append] at whole
    have absent : '-' ∉ '+' :: digits := by
      intro isIn
      rcases List.mem_cons.1 isIn with isPlus | isIn
      · exact absurd isPlus (by decide)
      · exact absurd (isNumber.areDigits '-' isIn) (by decide)
    -- No number is written with a plus sign.
    obtain ⟨-, signed⟩ := separator_append_inj noHyphen absent whole
    have isDigit : '+'.isDigit = true := by
      apply Nat.isDigit_of_mem_toDigits (b := 10) (n := number) (by decide) (by decide)
      rw [signed]
      exact List.mem_cons_self
    cases isDigit

/-- A number is read off the name of a machine just for the machine's group, and it is the machine's. -/
theorem numberAfter?_machineName_iff :
    numberAfter? (stem cluster other) (machineName cluster group number) = some borne ↔
      group = other ∧ borne = number ∧ number < Nat.pow 2 64 := by
  constructor
  · intro isRead
    have bears := numberAfter?_eq_some_iff.1 isRead
    have fits := bears.fits
    obtain ⟨rfl, rfl⟩ := bears.eq_of_machineName
    exact ⟨rfl, rfl, fits⟩
  · rintro ⟨rfl, rfl, fits⟩
    exact numberAfter?_machineName cluster group fits

/-! ## Calls for machines -/

/-- What may be asked of a client for a group: to read something, to make a machine of the group, and to
attach the tag of the cluster or that of the group. -/
inductive Concerns (cloning : Cloning) (group : String) : Told.Question → Prop where
  /-- Something is read. -/
  | reads {question : Told.Question} (reads : question.Reads) : Concerns cloning group question
  /-- A machine is made. -/
  | clone (number : Nat) : Concerns cloning group (.clone (cloning.numbered group number))
  /-- A machine is tagged for the cluster. -/
  | clusterTag (object : ObjectRef) :
      Concerns cloning group (.attach (clusterTag cloning.cluster) object)
  /-- A machine is tagged for the group. -/
  | groupTag (object : ObjectRef) : Concerns cloning group (.attach (groupTag group) object)

/-- A machine that is made has a number in its group. -/
theorem Concerns.of_clone {request : CloneRequest}
    (concerns : Concerns cloning group (.clone request)) :
    ∃ number, request = cloning.numbered group number := by
  cases concerns with
  | reads reads => exact reads.elim
  | clone number => exact ⟨number, rfl⟩

/-- A tag that is attached is that of the cluster or that of the group. -/
theorem Concerns.of_attach {tag : String} {object : ObjectRef}
    (concerns : Concerns cloning group (.attach tag object)) :
    tag = NodeScaler.clusterTag cloning.cluster ∨ tag = NodeScaler.groupTag group := by
  cases concerns with
  | reads reads => exact reads.elim
  | clusterTag => exact .inl rfl
  | groupTag => exact .inr rfl

/-- What asks for a machine is a clone. -/
theorem question_of_clone? {question : Told.Question} {request : CloneRequest}
    (isClone : question.clone? = some request) : question = .clone request := by
  cases question with
  | clone asked =>
    cases isClone
    rfl
  | resolve | attach | name | uuid => cases isClone

/-- A trial is for its group. -/
theorem Tells.concerns {trial : Trial} (tells : Tells cloning group trial told) :
    ∀ exchange ∈ told, Concerns cloning group exchange.question := by
  cases tells with
  | refused | late => exact List.forall_mem_singleton.2 (.clone _)
  | withoutCluster =>
    exact List.forall_mem_cons.2 ⟨.clone _, List.forall_mem_singleton.2 (.clusterTag _)⟩
  | withoutGroup | tagged =>
    exact List.forall_mem_cons.2 ⟨.clone _,
      List.forall_mem_cons.2 ⟨.clusterTag _, List.forall_mem_singleton.2 (.groupTag _)⟩⟩

/-- So are several trials. -/
theorem Tell.concerns (tell : Tell cloning group trials told) :
    ∀ exchange ∈ told, Concerns cloning group exchange.question := by
  induction tell with
  | nil => exact List.forall_mem_nil _
  | cons first others inductionHypothesis =>
    exact List.forall_mem_append.2 ⟨first.concerns, inductionHypothesis⟩

/-- All that a call for machines asks is for its group. -/
theorem create_concerns {σ : Type} (handler : Handler Told.interface σ) (cloning : Cloning)
    (group : String) (count : Nat) (state : σ) :
    ∀ exchange ∈ ((cloning.create Told.client group count).run.transcript handler state).exchanges,
      Concerns cloning group exchange.question := by
  obtain ⟨trials, result, ⟨looks, told, first, whole, reads, tell, -⟩, -⟩ :=
    create_transcript handler cloning group count state
  rw [whole]
  exact List.forall_mem_append.2 ⟨fun look isIn => .reads (reads look isIn), tell.concerns⟩

/-- **Names and tags tell the group.** In a cluster, machines of the same name are of the same group and
have the same number; groups with the same tag are the same, and no cluster has the tag of a group. A
number is read off the name of a machine for the machine's group alone, and it is the machine's. Whatever
a client does, a call for machines of a group asks only for machines with such names, in which no number is
read for another group, and attaches only the tags of the cluster and of the group. -/
theorem names_identify (cloning : Cloning) (group other : String) :
    (∀ first second,
      machineName cloning.cluster group first = machineName cloning.cluster other second ↔
        group = other ∧ first = second) ∧
    (groupTag group = groupTag other ↔ group = other) ∧
    (∀ cluster, groupTag group ≠ clusterTag cluster) ∧
    (∀ number borne,
      numberAfter? (stem cloning.cluster other) (machineName cloning.cluster group number) =
        some borne ↔ group = other ∧ borne = number ∧ number < Nat.pow 2 64) ∧
    ∀ (σ : Type) (handler : Handler Told.interface σ) (count : Nat) (state : σ),
      let calls := ((cloning.create Told.client group count).run.transcript handler state).exchanges
      (∀ request ∈ clones calls,
        (∃ number, request.name = machineName cloning.cluster group number) ∧
          (group ≠ other → numberAfter? (stem cloning.cluster other) request.name = none)) ∧
      ∀ exchange ∈ calls, ∀ tag object, exchange.question = .attach tag object →
        tag = clusterTag cloning.cluster ∨ tag = groupTag group := by
  refine ⟨fun first second => ⟨machineName_inj, ?_⟩, ⟨groupTag_injective, congrArg groupTag⟩,
    fun cluster => (clusterTag_ne_groupTag cluster group).symm,
    fun number borne => numberAfter?_machineName_iff, fun σ handler count state => ⟨?_, ?_⟩⟩
  · rintro ⟨rfl, rfl⟩
    rfl
  · intro request isAsked
    obtain ⟨exchange, isIn, isClone⟩ := List.mem_filterMap.1 isAsked
    have concerns := create_concerns handler cloning group count state exchange isIn
    rw [question_of_clone? isClone] at concerns
    obtain ⟨number, rfl⟩ := concerns.of_clone
    refine ⟨⟨number, rfl⟩, fun differ => Option.eq_none_iff_forall_ne_some.2 ?_⟩
    intro borne isRead
    exact differ (numberAfter?_machineName_iff.1 isRead).1
  · intro exchange isIn tag object isAttachment
    have concerns := create_concerns handler cloning group count state exchange isIn
    rw [isAttachment] at concerns
    exact concerns.of_attach

end NodeScaler.Cloning
