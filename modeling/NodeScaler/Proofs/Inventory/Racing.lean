import Mathlib.Data.List.Nodup
import NodeScaler.Proofs.Inventory.Answering
import NodeScaler.Proofs.Inventory.Carried
import NodeScaler.Proofs.Plan.Transcript

/-!
# Clones that race for names

Many clones may be on their way at once, each between its two phases: its request is noted and its
template is there, but its name is not checked. Some of them are dropped while they wait. Meanwhile
machines are added, tags are attached, and everything else is done that can be done to an inventory. A
race is any such run, one thing happening after the other in any order. Whatever the order, the second
phase alone sees to it that a clone that goes well has a name and a reference of its own.
-/

namespace NodeScaler

open Memory (answer machine)

/-- A clone that is asked for, perhaps with a deadline. -/
structure Race.Call where
  /-- What is asked for. -/
  request : CloneRequest
  /-- The time that it may take, if that is limited. -/
  limit : Option Duration

/-- What a call does. -/
def Race.Call.plan (call : Call) : Plan Memory.interface (Except InventoryError ObjectRef) :=
  match call.limit with
  | none => (Memory.client.clone call.request).run
  | some limit => ((Memory.client.clone call.request).within limit (.timeout limit)).run

/-- A call on its way: what is left of it, unless it has been dropped. -/
structure Race.Entry where
  /-- The call. -/
  call : Call
  /-- What it still does. -/
  rest : Option (Plan Memory.interface (Except InventoryError ObjectRef))

/-- An inventory in memory, and every call for a clone, in the order in which they arrived. -/
structure Race where
  /-- The inventory. -/
  memory : Memory
  /-- The calls. -/
  entries : List Race.Entry

namespace Race

/-! ## What can happen -/

/-- What else may be done to an inventory, besides clones and the addition of machines. -/
inductive Operation where
  /-- A template is added. -/
  | addTemplate (name : String)
  /-- A tag is created. -/
  | createTag (tag : String)
  /-- Clones with a name are made to fail. -/
  | failCloneOf (name : String)
  /-- The time that a clone takes is set. -/
  | setCloneDelay (delay : Duration)
  /-- The objects that carry a tag are looked up. -/
  | resolve (tag : String)
  /-- A tag is attached to an object. -/
  | attach (tag : String) (object : ObjectRef)
  /-- The name of a machine is looked up. -/
  | readName (object : ObjectRef)
  /-- The BIOS UUID of a machine is looked up. -/
  | readUuid (object : ObjectRef)

/-- The inventory after an operation. -/
def Operation.apply (memory : Memory) : Operation → Memory
  | addTemplate name => memory.addTemplate name
  | createTag tag => memory.createTag tag
  | failCloneOf name => memory.failCloneOf name
  | setCloneDelay delay => memory.setCloneDelay delay
  | resolve tag => (answer (.resolve tag) memory).2
  | attach tag object => (answer (.attach tag object) memory).2
  | readName object => (answer (.name object) memory).2
  | readUuid object => (answer (.uuid object) memory).2

/-- One thing that happens. -/
inductive Happening where
  /-- A call arrives, and takes the next place. -/
  | arrives (index : Nat) (call : Call)
  /-- A call asks the inventory something and is told. -/
  | told (index : Nat) (exchange : Exchange Memory.interface)
  /-- What a call has waited for is over. -/
  | waited (index : Nat)
  /-- A call is dropped where it stands. -/
  | dropped (index : Nat)
  /-- A machine is added with tags, and its reference is handed out. -/
  | added (name : String) (tags : List String) (object : ObjectRef)
  /-- Something else is done. -/
  | operated (operation : Operation)

/-- How one thing happens. -/
inductive Step : Race → Happening → Race → Prop where
  /-- A call arrives by asking its first question. -/
  | arrives {race : Race} {call : Call} {question : Memory.Question}
      {next : Memory.Answer question → Plan Memory.interface (Except InventoryError ObjectRef)}
      (asks : call.plan = .ask question next) :
      Step race (.arrives race.entries.length call)
        ⟨(answer question race.memory).2,
          race.entries ++ [⟨call, some (next (answer question race.memory).1)⟩]⟩
  /-- A call asks something. -/
  | told {race : Race} {index : Nat} {call : Call} {question : Memory.Question}
      {next : Memory.Answer question → Plan Memory.interface (Except InventoryError ObjectRef)}
      (asks : race.entries[index]? = some ⟨call, some (.ask question next)⟩) :
      Step race (.told index ⟨question, (answer question race.memory).1⟩)
        ⟨(answer question race.memory).2,
          race.entries.set index ⟨call, some (next (answer question race.memory).1)⟩⟩
  /-- A call has waited. -/
  | waited {race : Race} {index : Nat} {call : Call} {span : Duration}
      {next : Plan Memory.interface (Except InventoryError ObjectRef)}
      (waits : race.entries[index]? = some ⟨call, some (.wait span next)⟩) :
      Step race (.waited index) ⟨race.memory, race.entries.set index ⟨call, some next⟩⟩
  /-- A call that has not ended is dropped. -/
  | dropped {race : Race} {index : Nat} {call : Call}
      {rest : Plan Memory.interface (Except InventoryError ObjectRef)}
      (isThere : race.entries[index]? = some ⟨call, some rest⟩)
      (goesOn : ∀ result, rest ≠ .done result) :
      Step race (.dropped index) ⟨race.memory, race.entries.set index ⟨call, none⟩⟩
  /-- A machine is added. -/
  | added (race : Race) (name : String) (tags : List String) :
      Step race (.added name tags (race.memory.addMachine name tags).1)
        ⟨(race.memory.addMachine name tags).2, race.entries⟩
  /-- Something else is done. -/
  | operated (race : Race) (operation : Operation) :
      Step race (.operated operation) ⟨operation.apply race.memory, race.entries⟩

/-- One thing that has happened, with the inventory before and after it. -/
structure Moment where
  /-- What happened. -/
  happening : Happening
  /-- The inventory before it. -/
  before : Memory
  /-- The inventory after it. -/
  after : Memory

/-- Anything that happens from an empty inventory on. -/
inductive Runs : List Moment → Race → Prop where
  /-- Nothing has happened. -/
  | start : Runs [] ⟨.empty, []⟩
  /-- One more thing happens. -/
  | next {history : List Moment} {race later : Race} {happening : Happening} (runs : Runs history race)
      (step : Step race happening later) :
      Runs (history ++ [⟨happening, race.memory, later.memory⟩]) later

/-! ## What is seen of a run -/

/-- The call that moves. -/
def Happening.caller? : Happening → Option Nat
  | arrives index _ | told index _ | waited index | dropped index => some index
  | added .. | operated _ => none

/-- The reference that is handed out: that of a machine that is added, or of a clone that is made. -/
def Happening.reference? : Happening → Option ObjectRef
  | told _ ⟨.finishClone _, .ok object⟩ => some object
  | added _ _ object => some object
  | _ => none

/-- The call that arrives. -/
def Happening.arrival? : Happening → Option Call
  | arrives _ call => some call
  | _ => none

/-- The references handed out so far. -/
def references (history : List Moment) : List ObjectRef :=
  history.filterMap (·.happening.reference?)

/-- The calls that have arrived so far. -/
def arrivals (history : List Moment) : List Call := history.filterMap (·.happening.arrival?)

/-- The call has ended with a result. -/
def Returns (race : Race) (index : Nat) (call : Call) (result : Except InventoryError ObjectRef) :
    Prop :=
  race.entries[index]? = some ⟨call, some (.done result)⟩

/-- The call has not ended. -/
def Open (race : Race) (index : Nat) (call : Call) : Prop :=
  ∃ rest, race.entries[index]? = some ⟨call, some rest⟩ ∧ ∀ result, rest ≠ .done result

variable {race later : Race} {happening : Happening} {index : Nat} {call : Call}
  {history : List Moment} {request : CloneRequest}
  {rest : Plan Memory.interface (Except InventoryError ObjectRef)}

/-! ## What a call does -/

/-- What is left of a call whose request is noted: at most, its name is checked once. -/
inductive Awaiting (request : CloneRequest) :
    Plan Memory.interface (Except InventoryError ObjectRef) → Prop where
  /-- The name is checked, and the answer is the result. -/
  | finish {next : Except InventoryError ObjectRef →
        Plan Memory.interface (Except InventoryError ObjectRef)}
      (ends : ∀ result, next result = .done result) :
      Awaiting request (.ask (.finishClone request) next)
  /-- The call waits. -/
  | wait (span : Duration) {rest : Plan Memory.interface (Except InventoryError ObjectRef)}
      (awaits : Awaiting request rest) : Awaiting request (.wait span rest)
  /-- The call has failed. -/
  | failed (error : InventoryError) : Awaiting request (.done (.error error))

/-- The second phase follows a wait of any length. -/
theorem awaiting_delay (request : CloneRequest) (span : Duration) :
    Awaiting request ((Plan.pause span).bind fun _ => .ask (.finishClone request) .done) := by
  unfold Plan.pause
  split
  · exact .finish fun result => rfl
  · exact .wait _ (.finish fun result => rfl)

/-- A deadline ends what a call still does, or lets it be. -/
theorem Awaiting.within {request : CloneRequest} {limit : Duration} {error : InventoryError}
    {rest : Plan Memory.interface (Except InventoryError ObjectRef)} (awaits : Awaiting request rest) :
    Awaiting request ((Option.getD · (.error error)) <$> rest.within limit) := by
  have late (limit : Duration) : Awaiting request ((Option.getD · (.error error)) <$>
      ((Plan.pause limit).bind fun _ => .done none)) := by
    unfold Plan.pause
    split
    · exact .failed error
    · exact .wait _ (.failed error)
  induction awaits generalizing limit with
  | finish ends =>
    refine .finish fun result => ?_
    dsimp only
    rw [ends result]
    rfl
  | wait span awaits inductionHypothesis =>
    rw [Plan.within]
    split
    · exact .wait span inductionHypothesis
    · exact late limit
  | failed cause => exact .failed cause

/-- A call begins with its request, and awaits the second phase whatever it is told. -/
theorem Call.begins (call : Call) : ∃ next, call.plan = .ask (.beginClone call.request) next ∧
    ∀ result, Awaiting call.request (next result) := by
  let next (result : Except InventoryError Duration) :
      Plan Memory.interface (Except InventoryError ObjectRef) :=
    match result with
    | .ok delay => (Plan.pause delay.alarm).bind fun _ => .ask (.finishClone call.request) .done
    | .error error => .done (.error error)
  have awaits (result : Except InventoryError Duration) : Awaiting call.request (next result) := by
    cases result with
    | ok delay => exact awaiting_delay call.request delay.alarm
    | error error => exact .failed error
  have isClone : (Memory.client.clone call.request).run = .ask (.beginClone call.request) next := by
    refine congrArg (Plan.ask _) (funext fun result => ?_)
    cases result with
    | ok delay =>
      change ExceptT.bindCont _ _ = Plan.bind _ _
      dsimp only [id, ExceptT.bindCont, Attempt.sleep, Attempt.pause, Plan.pause]
      split <;> rfl
    | error error => rfl
  obtain ⟨request, - | limit⟩ := call
  · exact ⟨next, isClone, awaits⟩
  · refine ⟨fun result =>
        (Option.getD · (.error (.timeout limit))) <$> (next result).within limit.alarm,
      ?_, fun result => (awaits result).within⟩
    unfold plan
    dsimp only [Attempt.within]
    rw [isClone]
    rfl

/-! ## What one thing that happens does -/

/-- Operations note no request and make no machine. -/
theorem Operation.apply_keeps (operation : Operation) (memory : Memory) :
    (operation.apply memory).machines = memory.machines ∧
      (operation.apply memory).requests = memory.requests := by
  cases operation with
  | addTemplate | createTag | failCloneOf | setCloneDelay | resolve => exact ⟨rfl, rfl⟩
  | attach tag object =>
    rw [apply, answer]
    split
    · exact ⟨rfl, rfl⟩
    · split <;> exact ⟨rfl, rfl⟩
  | readName object | readUuid object =>
    rw [apply, answer]
    split <;> exact ⟨rfl, rfl⟩

/-- Operations are steps of the inventory. -/
theorem Operation.apply_step (operation : Operation) (memory : Memory) :
    Memory.Step memory (operation.apply memory) := by
  cases operation with
  | addTemplate name => exact .addTemplate name memory
  | createTag tag => exact .createTag tag memory
  | failCloneOf name => exact .failCloneOf name memory
  | setCloneDelay delay => exact .setCloneDelay delay memory
  | resolve | attach | readName | readUuid => exact .answer _ memory

/-- A machine that is added is the last one, and no request is noted. -/
theorem addMachine_keeps (name : String) (tags : List String) (memory : Memory) :
    (memory.addMachine name tags).2.machines = memory.machines ++ [name] ∧
      (memory.addMachine name tags).2.requests = memory.requests := by
  have kept (object : ObjectRef) (start : Memory) :
      (tags.foldl (Memory.putTag object) start).machines = start.machines ∧
        (tags.foldl (Memory.putTag object) start).requests = start.requests := by
    induction tags generalizing start with
    | nil => exact ⟨rfl, rfl⟩
    | cons first rest inductionHypothesis => exact inductionHypothesis (start.putTag object first)
  exact kept _ _

/-- The second phase refuses a clone and changes nothing, or it makes a machine of a name that is
free. -/
theorem answer_finishClone (request : CloneRequest) (memory : Memory) :
    (∃ error, answer (.finishClone request) memory = (.error error, memory)) ∨
      request.name ∉ memory.machines ∧ answer (.finishClone request) memory =
        (.ok (machine (memory.machines.length + 1)), (memory.allocate request.name).2) := by
  rw [answer]
  split
  · exact .inl ⟨_, rfl⟩
  · split
    · exact .inl ⟨_, rfl⟩
    · next isFree => exact .inr ⟨isFree, rfl⟩

/-- What a call does when it begins is to note its request. -/
theorem answer_beginClone (request : CloneRequest) (memory : Memory) :
    (answer (.beginClone request) memory).2 = memory.note request := by
  rw [answer]
  dsimp only
  split <;> rfl

/-- What can come of a race in which each call that goes on awaits its second phase. -/
inductive Effect (race : Race) : Happening → Race → Prop where
  /-- A call arrives: its request is noted. -/
  | arrives {call : Call} {rest : Plan Memory.interface (Except InventoryError ObjectRef)}
      (awaits : Awaiting call.request rest) :
      Effect race (.arrives race.entries.length call)
        ⟨race.memory.note call.request, race.entries ++ [⟨call, some rest⟩]⟩
  /-- A call waits, fails, or is dropped: the inventory stays as it is. -/
  | moves {happening : Happening} {index : Nat} {call : Call}
      {more : Option (Plan Memory.interface (Except InventoryError ObjectRef))}
      (isCaller : happening.caller? = some index) (noReference : happening.reference? = none)
      (noArrival : happening.arrival? = none) (isOpen : race.Open index call)
      (awaits : ∀ rest, more = some rest → Awaiting call.request rest) :
      Effect race happening ⟨race.memory, race.entries.set index ⟨call, more⟩⟩
  /-- A call makes a machine of a name that is free. -/
  | makes {index : Nat} {call : Call} (isOpen : race.Open index call)
      (isFree : call.request.name ∉ race.memory.machines) :
      Effect race (.told index
          ⟨.finishClone call.request, .ok (machine (race.memory.machines.length + 1))⟩)
        ⟨(race.memory.allocate call.request.name).2, race.entries.set index
          ⟨call, some (.done (.ok (machine (race.memory.machines.length + 1))))⟩⟩
  /-- A machine is added. -/
  | added (name : String) (tags : List String) :
      Effect race (.added name tags (machine (race.memory.machines.length + 1)))
        ⟨(race.memory.addMachine name tags).2, race.entries⟩
  /-- Something else is done. -/
  | operated (operation : Operation) :
      Effect race (.operated operation) ⟨operation.apply race.memory, race.entries⟩

/-- Each call that goes on awaits its second phase, or has made its machine. -/
def Awaits (race : Race) : Prop :=
  ∀ (index : Nat) (call : Call) (rest : Plan Memory.interface (Except InventoryError ObjectRef)),
    race.entries[index]? = some ⟨call, some rest⟩ →
      Awaiting call.request rest ∨ ∃ object, rest = .done (.ok object)

/-- **One thing that happens.** Nothing else can come of it. -/
theorem Step.effect (step : Step race happening later) (awaits : race.Awaits) :
    Effect race happening later := by
  cases step with
  | @arrives call question next asks =>
    obtain ⟨begins, isPlan, awaiting⟩ := call.begins
    cases asks.symm.trans isPlan
    rw [answer_beginClone]
    exact .arrives (awaiting _)
  | @told index call question next asks =>
    have isOpen : race.Open index call := ⟨_, asks, by simp⟩
    rcases awaits index call _ asks with awaiting | ⟨object, isDone⟩
    · cases awaiting with
      | finish ends =>
        rw [ends]
        rcases answer_finishClone call.request race.memory with ⟨error, refused⟩ | ⟨isFree, made⟩
        · rw [refused]
          refine .moves rfl rfl rfl isOpen fun rest isRest => ?_
          cases isRest
          exact .failed error
        · rw [made]
          exact .makes isOpen isFree
    · cases isDone
  | @waited index call span next waits =>
    refine .moves rfl rfl rfl ⟨_, waits, by simp⟩ fun rest isRest => ?_
    cases isRest
    rcases awaits index call _ waits with awaiting | ⟨object, isDone⟩
    · cases awaiting with
      | wait span awaits => exact awaits
    · cases isDone
  | dropped isThere goesOn =>
    exact .moves rfl rfl rfl ⟨_, isThere, goesOn⟩ fun rest isRest => nomatch isRest
  | added name tags => exact .added name tags
  | operated operation => exact .operated operation

/-! ### The calls -/

/-- The entries after one of them is changed. -/
theorem getElem?_set_of_there {entries : List Entry} {entry : Entry}
    (isThere : entries[index]? = some entry) (changed : Entry) (other : Nat) :
    (entries.set index changed)[other]? = if index = other then some changed else entries[other]? := by
  rw [List.getElem?_set, if_pos (List.getElem?_eq_some_iff.1 isThere).1]

/-- A call stays what it is, and one that has ended stays as it has ended. -/
theorem Effect.keeps (effect : Effect race happening later) {entry : Entry}
    (isThere : race.entries[index]? = some entry) :
    ∃ more, later.entries[index]? = some ⟨entry.call, more⟩ ∧
      ∀ result, entry.rest = some (.done result) → more = some (.done result) := by
  have moved {position : Nat} {call : Call} (isOpen : race.Open position call)
      (more : Option (Plan Memory.interface (Except InventoryError ObjectRef))) :
      ∃ next, (race.entries.set position ⟨call, more⟩)[index]? = some ⟨entry.call, next⟩ ∧
        ∀ result, entry.rest = some (.done result) → next = some (.done result) := by
    obtain ⟨rest, isRest, goesOn⟩ := isOpen
    rw [getElem?_set_of_there isRest]
    split
    · next same =>
      subst same
      cases isRest.symm.trans isThere
      exact ⟨more, rfl, fun result isDone => absurd (Option.some.inj isDone) (goesOn result)⟩
    · exact ⟨entry.rest, isThere, fun result isDone => isDone⟩
  cases effect with
  | arrives awaits =>
    refine ⟨entry.rest, ?_, fun result isDone => isDone⟩
    exact (List.getElem?_append_left (List.getElem?_eq_some_iff.1 isThere).1).trans isThere
  | moves _ _ _ isOpen awaits => exact moved isOpen _
  | makes isOpen isFree => exact moved isOpen _
  | added | operated => exact ⟨entry.rest, isThere, fun result isDone => isDone⟩

/-- A call has its machine already, or it makes it just now, of a name that is free. -/
theorem Effect.returns (effect : Effect race happening later) {object : ObjectRef}
    (returns : later.Returns index call (.ok object)) :
    race.Returns index call (.ok object) ∨
      happening = .told index ⟨.finishClone call.request, .ok object⟩ ∧
        call.request.name ∉ race.memory.machines ∧ call.request.name ∈ later.memory.machines := by
  unfold Returns at returns
  cases effect with
  | arrives awaits =>
    rw [List.getElem?_append] at returns
    split at returns
    · exact .inl returns
    · cases List.mem_singleton.1 (List.mem_of_getElem? returns)
      cases awaits
  | moves _ _ _ isOpen awaits =>
    obtain ⟨rest, isRest, -⟩ := isOpen
    rw [getElem?_set_of_there isRest] at returns
    split at returns
    · next same =>
      cases returns
      cases awaits _ rfl
    · exact .inl returns
  | makes isOpen isFree =>
    obtain ⟨rest, isRest, -⟩ := isOpen
    rw [getElem?_set_of_there isRest] at returns
    split at returns
    · next same =>
      cases returns
      subst same
      exact .inr ⟨rfl, isFree, List.mem_append_right _ (List.mem_singleton.2 rfl)⟩
    · exact .inl returns
  | added | operated => exact .inl returns

/-- Each call that goes on still awaits its second phase. -/
theorem Effect.awaits (effect : Effect race happening later) (awaits : race.Awaits) : later.Awaits := by
  intro index call rest isRest
  have moved {position : Nat} {other : Call} (isOpen : race.Open position other)
      {more : Option (Plan Memory.interface (Except InventoryError ObjectRef))}
      (isMore : ∀ rest, more = some rest →
        Awaiting other.request rest ∨ ∃ object, rest = .done (.ok object))
      (isRest : (race.entries.set position ⟨other, more⟩)[index]? = some ⟨call, some rest⟩) :
      Awaiting call.request rest ∨ ∃ object, rest = .done (.ok object) := by
    obtain ⟨_, isOther, -⟩ := isOpen
    rw [getElem?_set_of_there isOther] at isRest
    split at isRest
    · cases isRest
      exact isMore rest rfl
    · exact awaits index call rest isRest
  cases effect with
  | arrives awaiting =>
    rw [List.getElem?_append] at isRest
    split at isRest
    · exact awaits index call rest isRest
    · cases List.mem_singleton.1 (List.mem_of_getElem? isRest)
      exact .inl awaiting
  | moves _ _ _ isOpen awaiting =>
    exact moved isOpen (fun rest isMore => .inl (awaiting rest isMore)) isRest
  | makes isOpen isFree =>
    refine moved isOpen (fun rest isMore => ?_) isRest
    cases isMore
    exact .inr ⟨_, rfl⟩
  | added | operated => exact awaits index call rest isRest

/-! ### The inventory -/

/-- A reference is handed out just when a machine is made, and it is the next one. -/
theorem Effect.machines (effect : Effect race happening later) :
    happening.reference? = none ∧ later.memory.machines = race.memory.machines ∨
      happening.reference? = some (machine (race.memory.machines.length + 1)) ∧
        ∃ name, later.memory.machines = race.memory.machines ++ [name] := by
  cases effect with
  | arrives => exact .inl ⟨rfl, rfl⟩
  | moves _ noReference => exact .inl ⟨noReference, rfl⟩
  | makes => exact .inr ⟨rfl, _, rfl⟩
  | added name tags => exact .inr ⟨rfl, name, (addMachine_keeps name tags _).1⟩
  | operated operation => exact .inl ⟨rfl, (operation.apply_keeps _).1⟩

/-- A request is noted just when its call arrives. -/
theorem Effect.requests (effect : Effect race happening later) :
    (happening.arrival? = none ∧ later.memory.requests = race.memory.requests ∧
        later.entries.map (·.call) = race.entries.map (·.call)) ∨
      ∃ call, happening.arrival? = some call ∧
        later.memory.requests = race.memory.requests ++ [call.request] ∧
        later.entries.map (·.call) = race.entries.map (·.call) ++ [call] := by
  have moved {position : Nat} {call : Call} (isOpen : race.Open position call)
      (more : Option (Plan Memory.interface (Except InventoryError ObjectRef))) :
      (race.entries.set position ⟨call, more⟩).map (·.call) = race.entries.map (·.call) := by
    obtain ⟨rest, isRest, -⟩ := isOpen
    refine List.ext_getElem? fun other => ?_
    rw [List.getElem?_map, List.getElem?_map, getElem?_set_of_there isRest]
    split
    · next same =>
      subst same
      rw [isRest]
      rfl
    · rfl
  cases effect with
  | @arrives call => exact .inr ⟨call, rfl, rfl, List.map_append⟩
  | moves _ _ noArrival isOpen => exact .inl ⟨noArrival, rfl, moved isOpen _⟩
  | makes isOpen => exact .inl ⟨rfl, rfl, moved isOpen _⟩
  | added name tags => exact .inl ⟨rfl, (addMachine_keeps name tags _).2, rfl⟩
  | operated operation => exact .inl ⟨rfl, (operation.apply_keeps _).2, rfl⟩

/-- What can be reached stays so. -/
theorem Step.reachable (step : Step race happening later) (reachable : race.memory.Reachable) :
    later.memory.Reachable := by
  cases step with
  | arrives | told => exact reachable.tail (.answer _ _)
  | waited | dropped => exact reachable
  | added name tags => exact reachable.tail (.addMachine name tags _)
  | operated operation => exact reachable.tail (operation.apply_step _)

/-- A clone that goes well makes the next machine, of a name that is free. -/
theorem Effect.made {object : ObjectRef}
    (effect : Effect race (.told index ⟨.finishClone request, .ok object⟩) later) :
    object = machine (race.memory.machines.length + 1) ∧ request.name ∉ race.memory.machines ∧
      later.memory = (race.memory.allocate request.name).2 := by
  generalize isTold : Happening.told index ⟨.finishClone request, .ok object⟩ = happening at effect
  cases effect with
  | moves _ noReference =>
    subst isTold
    cases noReference
  | makes isOpen isFree =>
    cases isTold
    exact ⟨rfl, isFree, rfl⟩
  | arrives | added | operated => cases isTold

/-! ## What holds all along -/

/-- What a call has done to the inventory at one moment: nothing, or its request is noted when it
arrives, or it has made the machine that it returns. -/
def Moment.Concerns (moment : Moment) (index : Nat) (entry : Entry) : Prop :=
  moment.after = moment.before ∨
    moment.happening = .arrives index entry.call ∧
      moment.after = moment.before.note entry.call.request ∨
    ∃ object, entry.rest = some (.done (.ok object))

/-- What holds after every run. -/
structure Fair (history : List Moment) (race : Race) : Prop where
  /-- The inventory comes of an empty one. -/
  reachable : race.memory.Reachable
  /-- Calls that go on await their second phase. -/
  awaits : race.Awaits
  /-- The references handed out are the machines, in the order of their numbers. -/
  references_eq : references history =
    (List.range race.memory.machines.length).map fun number => machine (number + 1)
  /-- The calls are those that have arrived. -/
  arrivals_eq : arrivals history = race.entries.map (·.call)
  /-- Their requests are noted. -/
  requests_eq : race.memory.requests = race.entries.map (·.call.request)
  /-- A call that has gone well went well at some moment. -/
  returned (index : Nat) (call : Call) (object : ObjectRef)
    (returns : race.Returns index call (.ok object)) :
    ∃ moment ∈ history, moment.happening = .told index ⟨.finishClone call.request, .ok object⟩
  /-- There is a machine of its name. -/
  named (index : Nat) (call : Call) (object : ObjectRef)
    (returns : race.Returns index call (.ok object)) :
    call.request.name ∈ race.memory.machines
  /-- No two of them have one name. -/
  distinct (first second : Nat) (call other : Call) (object another : ObjectRef)
    (differ : first ≠ second) (returns : race.Returns first call (.ok object))
    (returnsToo : race.Returns second other (.ok another)) :
    call.request.name ≠ other.request.name
  /-- Calls leave the inventory alone, but for their requests and their machines. -/
  concerns (moment : Moment) (isIn : moment ∈ history) (index : Nat)
    (isCaller : moment.happening.caller? = some index) :
    ∃ entry, race.entries[index]? = some entry ∧ moment.Concerns index entry

/-- Before anything has happened. -/
theorem fair_start : Fair [] ⟨.empty, []⟩ where
  reachable := .refl
  awaits := by simp [Awaits]
  references_eq := rfl
  arrivals_eq := rfl
  requests_eq := rfl
  returned := by simp [Returns]
  named := by simp [Returns]
  distinct := by simp [Returns]
  concerns := by simp

/-- What a call does just now concerns the inventory as it should. -/
theorem Effect.concerns (effect : Effect race happening later)
    (isCaller : happening.caller? = some index) :
    ∃ entry, later.entries[index]? = some entry ∧
      Moment.Concerns ⟨happening, race.memory, later.memory⟩ index entry := by
  cases effect with
  | @arrives call rest awaits =>
    cases isCaller
    exact ⟨⟨call, some rest⟩, List.getElem?_concat_length, .inr (.inl ⟨rfl, rfl⟩)⟩
  | @moves _ position call more isMover _ _ isOpen =>
    cases isMover.symm.trans isCaller
    obtain ⟨rest, isRest, -⟩ := isOpen
    exact ⟨⟨call, more⟩, by rw [getElem?_set_of_there isRest, if_pos rfl], .inl rfl⟩
  | @makes position call isOpen =>
    cases isCaller
    obtain ⟨rest, isRest, -⟩ := isOpen
    exact ⟨⟨call, _⟩, by rw [getElem?_set_of_there isRest, if_pos rfl], .inr (.inr ⟨_, rfl⟩)⟩
  | added | operated => cases isCaller

/-- **One step keeps it.** -/
theorem Fair.next (fair : Fair history race) (step : Step race happening later) :
    Fair (history ++ [⟨happening, race.memory, later.memory⟩]) later := by
  have effect := step.effect fair.awaits
  have kept {name : String} (isIn : name ∈ race.memory.machines) : name ∈ later.memory.machines := by
    rcases effect.machines with ⟨-, same⟩ | ⟨-, other, more⟩
    · rwa [same]
    · rw [more]
      exact List.mem_append_left _ isIn
  refine ⟨step.reachable fair.reachable, effect.awaits fair.awaits, ?_, ?_, ?_, ?_, ?_, ?_, ?_⟩
  · rw [references, List.filterMap_append, ← references, fair.references_eq]
    rcases effect.machines with ⟨noReference, same⟩ | ⟨isReference, name, more⟩
    · simp [noReference, same]
    · simp [isReference, more, List.range_succ]
  · rw [arrivals, List.filterMap_append, ← arrivals, fair.arrivals_eq]
    rcases effect.requests with ⟨noArrival, -, same⟩ | ⟨call, isArrival, -, more⟩
    · simp [noArrival, same]
    · simp [isArrival, more]
  · have split (entries : List Entry) :
        entries.map (·.call.request) = (entries.map (·.call)).map (·.request) := by simp
    rw [split]
    rcases effect.requests with ⟨-, same, sameCalls⟩ | ⟨call, -, noted, more⟩
    · rw [same, sameCalls, fair.requests_eq, split]
    · rw [noted, more, fair.requests_eq, split, List.map_append]
      rfl
  · intro index call object returns
    rcases effect.returns returns with before | ⟨rfl, -, -⟩
    · obtain ⟨moment, isIn, isTold⟩ := fair.returned index call object before
      exact ⟨moment, List.mem_append_left _ isIn, isTold⟩
    · exact ⟨_, List.mem_append_right _ (List.mem_singleton.2 rfl), rfl⟩
  · intro index call object returns
    rcases effect.returns returns with before | ⟨-, -, isIn⟩
    · exact kept (fair.named index call object before)
    · exact isIn
  · intro first second call other object another differ returns returnsToo
    rcases effect.returns returns with before | ⟨isTold, isFree, -⟩ <;>
      rcases effect.returns returnsToo with beforeToo | ⟨isToldToo, isFreeToo, -⟩
    · exact fair.distinct first second call other object another differ before beforeToo
    · exact fun same => isFreeToo (same ▸ fair.named first call object before)
    · exact fun same => isFree (same ▸ fair.named second other another beforeToo)
    · exact absurd (Happening.told.inj (isTold.symm.trans isToldToo)).1 differ
  · intro moment isIn index isCaller
    rcases List.mem_append.1 isIn with isIn | isLast
    · obtain ⟨entry, isThere, concerns⟩ := fair.concerns moment isIn index isCaller
      obtain ⟨more, stays, hasEnded⟩ := effect.keeps isThere
      refine ⟨_, stays, ?_⟩
      rcases concerns with same | arrived | ⟨object, isDone⟩
      · exact .inl same
      · exact .inr (.inl arrived)
      · exact .inr (.inr ⟨object, hasEnded _ isDone⟩)
    · obtain rfl := List.mem_singleton.1 isLast
      exact effect.concerns isCaller

/-- What holds all along a run. -/
theorem Runs.fair (runs : Runs history race) : Fair history race := by
  induction runs with
  | start => exact fair_start
  | next runs step inductionHypothesis => exact inductionHypothesis.next step

/-- Each moment of a run is one step of it, after a run with the moments before. -/
theorem Runs.split {earlier after : List Moment} {moment : Moment}
    (runs : Runs (earlier ++ moment :: after) race) :
    ∃ was next, Runs earlier was ∧ Step was moment.happening next ∧ moment.before = was.memory ∧
      moment.after = next.memory := by
  generalize whole : earlier ++ moment :: after = history at runs
  induction runs generalizing after with
  | start => cases earlier <;> cases whole
  | @next history race later happening runs step inductionHypothesis =>
    rcases List.eq_nil_or_concat after with rfl | ⟨rest, last, rfl⟩
    · obtain ⟨rfl, isMoment⟩ := List.append_inj' whole rfl
      cases isMoment
      exact ⟨race, later, runs, step, rfl, rfl⟩
    · rw [List.concat_eq_append, ← List.cons_append, ← List.append_assoc] at whole
      exact inductionHypothesis (List.append_inj' whole rfl).1

/-! ## Every race -/

/-- A reference that is handed out now has not been handed out before. -/
theorem Fair.fresh (fair : Fair history race) :
    machine (race.memory.machines.length + 1) ∉ references history := by
  rw [fair.references_eq, List.mem_map]
  rintro ⟨number, isEarlier, same⟩
  have := Memory.machine_injective same
  rw [List.mem_range] at isEarlier
  omega

/-- No reference is handed out twice. -/
theorem Fair.references_nodup (fair : Fair history race) : (references history).Nodup := by
  rw [fair.references_eq]
  refine List.Nodup.map (fun first second same => ?_) List.nodup_range
  have := Memory.machine_injective same
  omega

/-- A machine that is made by a clone carries no tags. -/
theorem tagsOf_allocate {memory : Memory} (reachable : memory.Reachable) (name : String) :
    (memory.allocate name).2.tagsOf (memory.allocate name).1 = [] := by
  have distinct : (memory.allocate name).2.Distinct := reachable.distinct
  refine List.eq_nil_iff_forall_not_mem.2 fun tag isIn => ?_
  exact (reachable.sound.allocate name).2.2 tag ((Memory.mem_tagsOf distinct).1 isIn)

/-- **Clones race fairly.** Whatever happens in whatever order, from an empty inventory on: no
reference is handed out twice. A clone that has gone well went well at one moment, with a reference that
was not handed out before and a name that no machine had then, for a machine that carries no tags; so no
two of them have one name. A clone that has not gone well has done nothing at any moment but to have its
request noted when it arrived. The requests noted are those of the calls, in the order of their
arrival. -/
theorem clones_fair (runs : Runs history race) :
    (references history).Nodup ∧
    (∀ index call object, race.Returns index call (.ok object) →
      ∃ earlier moment after, history = earlier ++ moment :: after ∧
        moment.happening = .told index ⟨.finishClone call.request, .ok object⟩ ∧
        object ∉ references earlier ∧ call.request.name ∉ moment.before.machines ∧
        moment.after = (moment.before.allocate call.request.name).2 ∧
        moment.after.tagsOf object = []) ∧
    (∀ first second call other object another, first ≠ second →
      race.Returns first call (.ok object) → race.Returns second other (.ok another) →
      call.request.name ≠ other.request.name) ∧
    (∀ index call rest, race.entries[index]? = some ⟨call, rest⟩ →
      (∀ object, rest ≠ some (.done (.ok object))) →
      ∀ moment ∈ history, moment.happening.caller? = some index →
        moment.after = moment.before ∨ moment.happening = .arrives index call ∧
          moment.after = { moment.before with requests := moment.before.requests ++ [call.request] }) ∧
    race.memory.requests = (arrivals history).map (·.request) ∧
    arrivals history = race.entries.map (·.call) := by
  have fair := runs.fair
  refine ⟨fair.references_nodup, fun index call object returns => ?_, fair.distinct,
    fun index call rest isThere hasNone moment isIn isCaller => ?_, ?_, fair.arrivals_eq⟩
  · obtain ⟨moment, isIn, isTold⟩ := fair.returned index call object returns
    obtain ⟨earlier, after, rfl⟩ := List.append_of_mem isIn
    obtain ⟨was, next, before, step, isBefore, isAfter⟩ := runs.split
    rw [isTold] at step
    obtain ⟨rfl, isFree, isNext⟩ := (step.effect before.fair.awaits).made
    refine ⟨earlier, moment, after, rfl, isTold, before.fair.fresh, ?_, ?_, ?_⟩
    · rwa [isBefore]
    · rw [isAfter, isBefore, isNext]
    · rw [isAfter, isNext]
      exact tagsOf_allocate before.fair.reachable call.request.name
  · obtain ⟨entry, isEntry, concerns⟩ := fair.concerns moment isIn index isCaller
    cases isThere.symm.trans isEntry
    rcases concerns with same | arrived | ⟨object, isDone⟩
    · exact .inl same
    · exact .inr arrived
    · exact absurd isDone (hasNone object)
  · rw [fair.requests_eq, fair.arrivals_eq, List.map_map]
    rfl

/-- A call for a machine of one name, with a deadline. -/
def web : Call := ⟨⟨"tmpl", "", "", "web"⟩, some (.seconds 2)⟩

/-- The call while it waits. -/
def webWaits : Plan Memory.interface (Except InventoryError ObjectRef) :=
  .wait (.seconds 1) (.ask (.finishClone web.request) .done)

/-- An inventory where a clone takes a second. -/
def webStock (machines : List String) (requests : List CloneRequest) : Memory :=
  { Memory.empty with machines, templates := ["tmpl"], cloneDelay := .seconds 1, requests }

/-- Two clones of one name are on their way at once. The one that came later is through first, and the
other one is dropped, and then a machine is added. -/
theorem web_fair : ∃ history race, Runs history race ∧
    race.Returns 1 web (.ok (machine 1)) ∧ references history = [machine 1, machine 2] ∧
    (references history).Nodup := by
  have prepared : Runs _ ⟨webStock [] [], []⟩ :=
    (Runs.start.next (.operated _ (.addTemplate "tmpl"))).next
      (.operated _ (.setCloneDelay (.seconds 1)))
  have first : Runs _ ⟨webStock [] [web.request], [⟨web, some webWaits⟩]⟩ :=
    prepared.next (.arrives (rfl : web.plan = .ask _ _))
  have second : Runs _ ⟨webStock [] [web.request, web.request],
      [⟨web, some webWaits⟩, ⟨web, some webWaits⟩]⟩ :=
    first.next (.arrives (rfl : web.plan = .ask _ _))
  have waited := second.next (@Step.waited _ 1 _ _ _ rfl)
  have made := waited.next (@Step.told _ 1 _ _ _ rfl)
  have dropped := made.next (@Step.dropped _ 0 _ _ rfl (by simp [webWaits]))
  have added := dropped.next (.added _ "db" ["blue"])
  exact ⟨_, _, added, rfl, rfl, (clones_fair added).1⟩

end Race

end NodeScaler
