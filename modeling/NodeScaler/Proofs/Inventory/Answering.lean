import NodeScaler.Proofs.Inventory.Reachable

/-!
# What answering questions does to an inventory in memory

Whoever only asks questions creates no tag and adds no template, and takes nothing away: machines
are added behind those that are there, and every request for a clone is noted behind those before.
-/

namespace NodeScaler.Memory

/-- What answering questions may do to an inventory. -/
structure Follows (before after : Memory) : Prop where
  /-- There are the same tags. -/
  tags : after.tags.map (·.1) = before.tags.map (·.1)
  /-- There are the same templates. -/
  templates : after.templates = before.templates
  /-- Clones take the same time. -/
  cloneDelay : after.cloneDelay = before.cloneDelay
  /-- No machine is gone. -/
  machines : before.machines.length ≤ after.machines.length
  /-- No request is forgotten. -/
  requests : ∃ more, after.requests = before.requests ++ more

/-- Nothing need happen. -/
theorem Follows.refl (memory : Memory) : Follows memory memory :=
  ⟨rfl, rfl, rfl, Nat.le_refl _, [], (List.append_nil _).symm⟩

/-- One thing may happen after the other. -/
theorem Follows.trans {first second third : Memory} (follows : Follows first second)
    (later : Follows second third) : Follows first third := by
  obtain ⟨more, noted⟩ := follows.requests
  obtain ⟨others, notedLater⟩ := later.requests
  exact ⟨later.tags.trans follows.tags, later.templates.trans follows.templates,
    later.cloneDelay.trans follows.cloneDelay, Nat.le_trans follows.machines later.machines,
    more ++ others, by rw [notedLater, noted, List.append_assoc]⟩

/-- Changing a tag that exists creates none. -/
theorem alterTag_names {tag : String} (change : RefSet → RefSet) {tags : List (String × RefSet)}
    (present : (tags.lookup tag).isSome = true) :
    (alterTag tag change tags).map (·.1) = tags.map (·.1) := by
  induction tags with
  | nil => cases present
  | cons first rest inductionHypothesis =>
    obtain ⟨name, carriers⟩ := first
    rw [alterTag]
    by_cases same : name = tag
    · rw [if_pos same, same]
      rfl
    · rw [List.lookup_cons, beq_eq_false_iff_ne.2 (Ne.symm same)] at present
      rw [if_neg same, List.map_cons, inductionHypothesis present]
      rfl

/-- What an answer does. -/
theorem answer_follows (question : Question) (memory : Memory) :
    Follows memory (answer question memory).2 := by
  cases question with
  | resolve tag => exact .refl memory
  | name object | uuid object =>
    rw [answer]
    split <;> exact .refl memory
  | attach tag object =>
    rw [answer]
    split
    · exact .refl memory
    · split
      · exact .refl memory
      · next hasTag =>
        have present : (memory.tags.lookup tag).isSome = true := by
          simpa [carriers?, Option.isSome_iff_ne_none] using hasTag
        exact ⟨alterTag_names _ present, rfl, rfl, Nat.le_refl _, [], (List.append_nil _).symm⟩
  | beginClone request =>
    rw [answer]
    dsimp only
    split <;> exact ⟨rfl, rfl, rfl, Nat.le_refl _, [request], rfl⟩
  | finishClone request =>
    rw [answer]
    split
    · exact .refl memory
    · split
      · exact .refl memory
      · exact ⟨rfl, rfl, rfl, by simp [allocate], [], (List.append_nil _).symm⟩

/-- The inventory with one more request noted. -/
def note (request : CloneRequest) (memory : Memory) : Memory :=
  { memory with requests := memory.requests ++ [request] }

/-- A request is noted behind the others. -/
theorem note_follows (request : CloneRequest) (memory : Memory) :
    Follows memory (memory.note request) :=
  ⟨rfl, rfl, rfl, Nat.le_refl _, [request], rfl⟩

/-- What becomes of a clone once its request is noted. -/
def cloned (request : CloneRequest) (memory : Memory) : Except InventoryError ObjectRef × Memory :=
  if request.template ∈ memory.templates then answer (.finishClone request) memory
  else (.error (.notFound ("template " ++ request.template)), memory)

end NodeScaler.Memory
