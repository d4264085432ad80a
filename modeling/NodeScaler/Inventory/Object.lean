/-!
# Objects of the inventory

An object is known by its type and its identifier. References are ordered by type and
then by identifier, both by code points, and a set of references is kept as a strictly
ascending list: two sets with the same members are the same list, and reading a set out
is reading it in order.
-/

namespace NodeScaler

/-- A reference to an object of the inventory. -/
structure ObjectRef where
  /-- The type of the object. -/
  kind : String
  /-- Its identifier, unique among the objects of its type. -/
  id : String
deriving DecidableEq, Repr

namespace ObjectRef

/-- The type of virtual machines. -/
def virtualMachine : String := "VirtualMachine"

/-- The virtual machine with an identifier. -/
def vm (id : String) : ObjectRef := ⟨virtualMachine, id⟩

/-- Type and identifier with a colon between them. -/
def text (object : ObjectRef) : String := object.kind ++ ":" ++ object.id

/-- By type, and within a type by identifier. -/
instance : LT ObjectRef where
  lt left right := left.kind < right.kind ∨ (left.kind = right.kind ∧ left.id < right.id)

instance (left right : ObjectRef) : Decidable (left < right) :=
  inferInstanceAs (Decidable
    (left.kind < right.kind ∨ (left.kind = right.kind ∧ left.id < right.id)))

/-- No reference is below itself, because no text is. -/
theorem lt_irrefl (object : ObjectRef) : ¬object < object := by
  rintro (less | ⟨_, less⟩) <;> exact String.lt_irrefl _ less

/-- The order passes on: a difference in type decides, and within one type the identifiers
are compared as texts. -/
theorem lt_trans {a b c : ObjectRef} (first : a < b) (second : b < c) : a < c := by
  rcases first with first | ⟨sameFirst, first⟩ <;>
    rcases second with second | ⟨sameSecond, second⟩
  · exact .inl (String.lt_trans first second)
  · exact .inl (sameSecond ▸ first)
  · exact .inl (sameFirst ▸ second)
  · exact .inr ⟨sameFirst.trans sameSecond, String.lt_trans first second⟩

/-- Two references that differ are comparable. -/
theorem lt_or_gt_of_ne {left right : ObjectRef} (differ : left ≠ right) :
    left < right ∨ right < left := by
  have order (a b : String) : a < b ∨ a = b ∨ b < a := by grind
  rcases order left.kind right.kind with less | same | greater
  · exact .inl (.inl less)
  · rcases order left.id right.id with less | sameId | greater
    · exact .inl (.inr ⟨same, less⟩)
    · cases left
      cases right
      exact absurd (by simp_all) differ
    · exact .inr (.inr ⟨same.symm, greater⟩)
  · exact .inr (.inl greater)

/-- The order has no cycles. -/
theorem lt_asymm {left right : ObjectRef} (less : left < right) : ¬right < left :=
  fun greater => lt_irrefl left (lt_trans less greater)

/-- The reference is not above the other. -/
def isUpTo (left right : ObjectRef) : Bool := !decide (right < left)

/-- The test, as a statement. -/
theorem isUpTo_iff {left right : ObjectRef} : left.isUpTo right = true ↔ ¬right < left := by
  simp [isUpTo]

/-- Of two references one is not above the other. -/
theorem isUpTo_total (left right : ObjectRef) : (left.isUpTo right || right.isUpTo left) = true := by
  rw [Bool.or_eq_true, isUpTo_iff, isUpTo_iff]
  by_cases greater : right < left
  · exact .inr (lt_asymm greater)
  · exact .inl greater

/-- Two references of which neither is above the other are the same. -/
theorem eq_of_isUpTo {left right : ObjectRef} (first : left.isUpTo right = true)
    (second : right.isUpTo left = true) : left = right := by
  by_cases same : left = right
  · exact same
  · rcases lt_or_gt_of_ne same with less | greater
    · exact absurd less (isUpTo_iff.1 second)
    · exact absurd greater (isUpTo_iff.1 first)

/-- What is not above a reference is not above any that this is not above. -/
theorem isUpTo_trans (a b c : ObjectRef) (first : a.isUpTo b = true) (second : b.isUpTo c = true) :
    a.isUpTo c = true := by
  by_cases same : a = b
  · exact same ▸ second
  · have less := (lt_or_gt_of_ne same).resolve_right (isUpTo_iff.1 first)
    exact isUpTo_iff.2 fun greater => isUpTo_iff.1 second (lt_trans greater less)

end ObjectRef

/-- A set of references, in ascending order. -/
structure RefSet where
  /-- The members. -/
  members : List ObjectRef
  /-- Each member is below all that follow it, so none occurs twice. -/
  ascending : members.Pairwise (· < ·)
deriving DecidableEq

namespace RefSet

/-- The set without members. -/
def empty : RefSet := ⟨[], .nil⟩

instance : Inhabited RefSet := ⟨empty⟩

instance : Membership ObjectRef RefSet := ⟨fun set object => object ∈ set.members⟩

instance (object : ObjectRef) (set : RefSet) : Decidable (object ∈ set) :=
  inferInstanceAs (Decidable (object ∈ set.members))

/-- Puts a reference at its place in an ascending list, unless it is there already. -/
def place (object : ObjectRef) : List ObjectRef → List ObjectRef
  | [] => [object]
  | first :: rest =>
    if object < first then object :: first :: rest
    else if object = first then first :: rest
    else first :: place object rest

/-- Placing a reference adds it and nothing else. -/
theorem mem_place {object other : ObjectRef} {list : List ObjectRef} :
    other ∈ place object list ↔ other = object ∨ other ∈ list := by
  induction list with
  | nil => simp [place]
  | cons first rest inductionHypothesis =>
    rw [place]
    split
    · simp
    · split
      · next same => simp [same]
      · simp only [List.mem_cons, inductionHypothesis]
        constructor <;> rintro (h | h | h) <;> simp [h]

/-- An ascending list stays ascending: the reference goes in front of the first member that
is above it, and everything passed on the way is below it. -/
theorem place_ascending {object : ObjectRef} {list : List ObjectRef}
    (ascending : list.Pairwise (· < ·)) : (place object list).Pairwise (· < ·) := by
  induction list with
  | nil => simp [place]
  | cons first rest inductionHypothesis =>
    obtain ⟨below, restAscending⟩ := List.pairwise_cons.1 ascending
    rw [place]
    split
    · next less =>
      refine List.pairwise_cons.2 ⟨fun other isIn => ?_, ascending⟩
      rcases List.mem_cons.1 isIn with rfl | isIn
      · exact less
      · exact ObjectRef.lt_trans less (below other isIn)
    · split
      · exact ascending
      · next notLess differs =>
        refine List.pairwise_cons.2 ⟨fun other isIn => ?_, inductionHypothesis restAscending⟩
        rcases mem_place.1 isIn with rfl | isIn
        · exact (ObjectRef.lt_or_gt_of_ne differs).resolve_left notLess
        · exact below other isIn

/-- The set with one more reference. -/
def insert (object : ObjectRef) (set : RefSet) : RefSet :=
  ⟨place object set.members, place_ascending set.ascending⟩

/-- The references of a list as a set. -/
def ofList (objects : List ObjectRef) : RefSet := objects.foldr insert empty

/-- The references that two sets share, in ascending order. -/
def intersect (left right : RefSet) : RefSet :=
  ⟨left.members.filter (· ∈ right.members), left.ascending.filter _⟩

/-- A set with one more reference has just that one in addition. -/
@[simp] theorem mem_insert {object other : ObjectRef} {set : RefSet} :
    other ∈ set.insert object ↔ other = object ∨ other ∈ set := mem_place

/-- Order and repetition in the list do not matter. -/
@[simp] theorem mem_ofList {object : ObjectRef} {objects : List ObjectRef} :
    object ∈ ofList objects ↔ object ∈ objects := by
  induction objects with
  | nil => exact ⟨fun isIn => isIn, fun isIn => isIn⟩
  | cons first rest inductionHypothesis =>
    rw [ofList, List.foldr_cons, ← ofList, mem_insert, inductionHypothesis, List.mem_cons]

/-- The common references are those in both sets, whichever of them is read out. -/
@[simp] theorem mem_intersect {object : ObjectRef} {left right : RefSet} :
    object ∈ left.intersect right ↔ object ∈ left ∧ object ∈ right := by
  change object ∈ left.members.filter (· ∈ right.members) ↔
    object ∈ left.members ∧ object ∈ right.members
  rw [List.mem_filter, decide_eq_true_iff]

end RefSet

end NodeScaler
