import NodeScaler.Proofs.Inventory.Growth

/-!
# What an object carries

Each tag is in an inventory at most once, so the tags that are listed for an object are those whose
carriers it is among. When the inventory grows without new tags, the machines that were there before
have the same list as before.
-/

namespace NodeScaler.Memory

variable {memory later : Memory} {object : ObjectRef} {tag : String}

/-- Each tag occurs once. -/
def Distinct (memory : Memory) : Prop := (memory.tags.map (·.1)).Nodup

/-- A tag that does not exist is created behind the others. -/
theorem alterTag_names_of_absent {change : RefSet → RefSet} {tags : List (String × RefSet)}
    (absent : tag ∉ tags.map (·.1)) :
    (alterTag tag change tags).map (·.1) = tags.map (·.1) ++ [tag] := by
  induction tags with
  | nil => rfl
  | cons first rest inductionHypothesis =>
    obtain ⟨name, carriers⟩ := first
    rw [List.map_cons, List.mem_cons, not_or] at absent
    rw [alterTag, if_neg (Ne.symm absent.1), List.map_cons, inductionHypothesis absent.2]
    rfl

/-- Changing a tag, which may be created, leaves each tag once. -/
theorem Distinct.alterTag (distinct : memory.Distinct) (tag : String) (change : RefSet → RefSet) :
    ({ memory with tags := alterTag tag change memory.tags } : Memory).Distinct := by
  unfold Distinct at distinct ⊢
  by_cases present : tag ∈ memory.tags.map (·.1)
  · rw [alterTag_names change (carriers?_isSome_iff.2 present)]
    exact distinct
  · rw [alterTag_names_of_absent present]
    refine List.nodup_append.2 ⟨distinct, List.pairwise_singleton _ _, ?_⟩
    rintro other isOld last isLast rfl
    exact present (List.mem_singleton.1 isLast ▸ isOld)

/-- Operations leave each tag once. -/
theorem Step.distinct (step : Step memory later) (distinct : memory.Distinct) : later.Distinct := by
  cases step with
  | addTemplate | failCloneOf | setCloneDelay => exact distinct
  | createTag tag => exact distinct.alterTag tag id
  | addMachine name tags =>
    unfold Memory.addMachine
    dsimp only
    have start : (memory.allocate name).2.Distinct := distinct
    generalize (memory.allocate name).2 = inventory at start
    induction tags generalizing inventory with
    | nil => exact start
    | cons first rest inductionHypothesis =>
      exact inductionHypothesis _ (start.alterTag first _)
  | answer question =>
    rw [Distinct, (answer_follows question memory).tags]
    exact distinct

/-- In what comes of an empty inventory, each tag occurs once. -/
theorem Reachable.distinct (reachable : memory.Reachable) : memory.Distinct := by
  induction reachable with
  | refl => exact List.nodup_nil
  | tail _ step inductionHypothesis => exact step.distinct inductionHypothesis

/-- The entry of a tag that occurs once says who carries it. -/
theorem carrying_of_mem (distinct : memory.Distinct) {carriers : RefSet}
    (isEntry : (tag, carriers) ∈ memory.tags) : memory.carrying tag = carriers := by
  rw [carrying, carriers?]
  unfold Distinct at distinct
  generalize memory.tags = tags at *
  induction tags with
  | nil => cases isEntry
  | cons first rest inductionHypothesis =>
    obtain ⟨name, others⟩ := first
    rw [List.map_cons, List.nodup_cons] at distinct
    rcases List.mem_cons.1 isEntry with isFirst | isLater
    · cases isFirst
      rw [List.lookup_cons_self]
      rfl
    · have differ : tag ≠ name := fun same =>
        distinct.1 (same ▸ List.mem_map_of_mem (f := (·.1)) isLater)
      rw [List.lookup_cons, beq_eq_false_iff_ne.2 differ]
      exact inductionHypothesis distinct.2 isLater

/-- The tags that are listed for an object are those whose carriers it is among, in order. -/
theorem tagsOf_eq (distinct : memory.Distinct) (object : ObjectRef) :
    memory.tagsOf object =
      ((memory.tags.map (·.1)).filter fun tag => decide (object ∈ memory.carrying tag)).mergeSort
        fun left right => decide (left ≤ right) := by
  have same : ∀ entry ∈ memory.tags, decide (object ∈ entry.2) =
      decide (object ∈ memory.carrying entry.1) := fun entry isEntry => by
    rw [carrying_of_mem distinct isEntry]
  rw [tagsOf, List.filter_map]
  congr 2
  exact List.filter_congr same

/-- A tag is listed for an object that is among its carriers. -/
theorem mem_tagsOf (distinct : memory.Distinct) :
    tag ∈ memory.tagsOf object ↔ object ∈ memory.carrying tag := by
  rw [tagsOf_eq distinct, List.mem_mergeSort, List.mem_filter, decide_eq_true_iff,
    and_iff_right_iff_imp]
  intro carries
  by_contra absent
  rw [← carriers?_isSome_iff, Option.not_isSome_iff_eq_none] at absent
  rw [carrying, absent] at carries
  cases carries

/-- Machines that were there before keep the list of their tags, if no tag is created. -/
theorem tagsOf_grow_of_has (distinct : memory.Distinct) (has : memory.Has object)
    {additions : List Addition} {requests : List CloneRequest}
    (sameNames : (memory.grow additions requests).tags.map (·.1) = memory.tags.map (·.1)) :
    (memory.grow additions requests).tagsOf object = memory.tagsOf object := by
  have distinctToo : (memory.grow additions requests).Distinct := by
    rw [Distinct, sameNames]
    exact distinct
  rw [tagsOf_eq distinctToo, tagsOf_eq distinct, sameNames]
  simp only [mem_carrying_grow_of_has has]

end NodeScaler.Memory
