import Mathlib.Data.List.Basic
import NodeScaler.Inventory.ObjectJson
import NodeScaler.Proofs.Json.ReadBack

/-!
# Texts for references

A text is read as a reference just if it stands for an object in which the fields `type` and `id` occur
once each and hold the two texts, or for the array of these texts. Other fields may hold anything and
stand anywhere. So a reference comes back from its own text, and in whatever way it is spelled.
-/

namespace NodeScaler

open Json (Value Stands)

/-! ## Fields -/

namespace Json

/-- Of the fields with a name there is one, and it holds a value. -/
def HoldsOnce (fields : List (Option String × Value)) (name : String) (value : Value) : Prop :=
  fields.filter (·.1 == some name) = [(some name, value)]

variable {fields others : List (Option String × Value)} {name : String} {value : Value}

/-- The first field with a name is looked up. -/
theorem lookup_eq_head? (fields : List (Option String × Value)) (name : String) :
    fields.lookup (some name) = (fields.filter (·.1 == some name)).head?.map (·.2) := by
  induction fields with
  | nil => rfl
  | cons first rest inductionHypothesis =>
    obtain ⟨found, value⟩ := first
    by_cases isName : found = some name
    · simp [isName]
    · rw [List.lookup_cons, List.filter_cons_of_neg (by simpa using isName),
        beq_false_of_ne (Ne.symm isName)]
      exact inductionHypothesis

/-- A field that occurs once is one that does not occur twice and is found. -/
theorem holdsOnce_iff : HoldsOnce fields name value ↔
    (fields.filter (·.1 == some name)).length ≤ 1 ∧ fields.lookup (some name) = some value := by
  rw [lookup_eq_head?, HoldsOnce]
  constructor
  · intro isOnly
    rw [isOnly]
    exact ⟨Nat.le_refl _, rfl⟩
  · rintro ⟨atMostOne, isFound⟩
    obtain ⟨⟨found, kept⟩, isFirst, rfl⟩ := Option.map_eq_some_iff.1 isFound
    obtain ⟨rest, whole⟩ := List.head?_eq_some_iff.1 isFirst
    have isIn : (found, kept) ∈ fields.filter (·.1 == some name) := whole ▸ List.mem_cons_self
    have isName : found = some name := by simpa using (List.mem_filter.1 isIn).2
    rw [whole] at atMostOne ⊢
    rw [isName, List.eq_nil_of_length_eq_zero (Nat.le_zero.1 (Nat.le_of_succ_le_succ atMostOne))]

/-- In another order a field still occurs once. -/
theorem HoldsOnce.perm (holds : HoldsOnce fields name value) (perm : fields.Perm others) :
    HoldsOnce others name value :=
  List.perm_singleton.1 (holds ▸ (perm.filter _).symm)

/-- A field that occurs once has its name once among the names. -/
theorem HoldsOnce.count (holds : HoldsOnce fields name value) :
    (fields.map (·.1)).count (some name) = 1 := by
  rw [List.count, List.countP_map, List.countP_eq_length_filter]
  exact congrArg List.length holds

/-- A field occurs once behind fields of other names and in front of such fields. -/
theorem holdsOnce_append (before after : List (Option String × Value))
    (otherBefore : ∀ field ∈ before, field.1 ≠ some name)
    (otherAfter : ∀ field ∈ after, field.1 ≠ some name) :
    HoldsOnce (before ++ (some name, value) :: after) name value := by
  have none (fields : List (Option String × Value)) (other : ∀ field ∈ fields, field.1 ≠ some name) :
      fields.filter (·.1 == some name) = [] :=
    List.filter_eq_nil_iff.2 fun field isIn => by simpa using other field isIn
  rw [HoldsOnce, List.filter_append, List.filter_cons_of_pos (by simp), none before otherBefore,
    none after otherAfter, List.nil_append]

/-- A value with the fields of another one, perhaps in another order. -/
inductive Value.Rearranged : Value → Value → Prop where
  /-- Nothing is rearranged. -/
  | refl (value : Value) : Rearranged value value
  /-- The fields of an object are. -/
  | object {fields others : List (Option String × Value)} (perm : fields.Perm others) :
      Rearranged (.object fields) (.object others)

end Json

namespace ObjectRef

variable {object other : ObjectRef} {value : Value} {fields : List (Option String × Value)}
  {elements : List Value} {text tail : String}

/-! ## Values -/

/-- The value is a form of a reference. -/
inductive Describes (object : ObjectRef) : Value → Prop where
  /-- An object in which type and identifier occur once each, and all names are texts. -/
  | fields {fields : List (Option String × Value)} (named : ∀ field ∈ fields, field.1.isSome = true)
      (kind : Json.HoldsOnce fields "type" (.ofText object.kind))
      (id : Json.HoldsOnce fields "id" (.ofText object.id)) : Describes object (.object fields)
  /-- The array of type and identifier. -/
  | pair : Describes object (.array [.ofText object.kind, .ofText object.id])

/-- The values that are texts. -/
theorem text?_eq_some_iff : value.text? = some text ↔ value = .ofText text := by
  cases value <;> simp [Value.text?, Value.ofText]

/-- How a reference is read from the values of its two fields. -/
theorem ofJson?_iff_fields? : ofJson? value = some object ↔
    value.fields? ["type", "id"] = some [some (.ofText object.kind), some (.ofText object.id)] := by
  unfold ofJson?
  split
  · next kind id found =>
    rw [found]
    constructor
    · intro isRead
      obtain ⟨kindText, isKind, isRead⟩ := Option.bind_eq_some_iff.1 isRead
      obtain ⟨idText, isId, same⟩ := Option.bind_eq_some_iff.1 isRead
      cases same
      rw [text?_eq_some_iff.1 isKind, text?_eq_some_iff.1 isId]
    · intro same
      cases same
      rfl
  · next other =>
    constructor
    · intro isRead
      cases isRead
    · intro found
      exact absurd found (other _ _)

/-- A value is read as a reference just if it is a form of this reference. -/
theorem ofJson?_eq_some_iff : ofJson? value = some object ↔ object.Describes value := by
  rw [ofJson?_iff_fields?]
  cases value with
  | object fields =>
    have isObject : object.Describes (.object fields) ↔
        (∀ field ∈ fields, field.1.isSome = true) ∧
          Json.HoldsOnce fields "type" (.ofText object.kind) ∧
          Json.HoldsOnce fields "id" (.ofText object.id) := by
      constructor
      · rintro ⟨named, kind, id⟩
        exact ⟨named, kind, id⟩
      · rintro ⟨named, kind, id⟩
        exact .fields named kind id
    rw [isObject, Json.holdsOnce_iff, Json.holdsOnce_iff, Value.fields?]
    constructor
    · intro found
      split_ifs at found with readable
      simp only [Bool.and_eq_true, List.all_eq_true, List.mem_cons, List.not_mem_nil, or_false,
        forall_eq_or_imp, forall_eq, decide_eq_true_eq] at readable
      simp only [List.map_cons, List.map_nil, Option.some.injEq, List.cons.injEq, and_true] at found
      exact ⟨readable.1, ⟨readable.2.1, found.1⟩, readable.2.2, found.2⟩
    · rintro ⟨named, ⟨oneKind, isKind⟩, oneId, isId⟩
      split_ifs with readable
      · rw [List.map_cons, List.map_cons, List.map_nil, isKind, isId]
      · refine absurd ?_ readable
        simp only [Bool.and_eq_true, List.all_eq_true, List.mem_cons, List.not_mem_nil, or_false,
          forall_eq_or_imp, forall_eq, decide_eq_true_eq]
        exact ⟨named, oneKind, oneId⟩
  | array elements =>
    constructor
    · intro found
      rw [Value.fields?] at found
      split_ifs at found with two
      obtain ⟨first, second, rfl⟩ := List.length_eq_two.1 two
      simp only [List.map_cons, List.map_nil, Option.some.injEq, List.cons.injEq, and_true] at found
      rw [found.1, found.2]
      exact .pair
    · rintro ⟨⟩
      rfl
  | null | boolean | number | string =>
    constructor
    · intro found
      cases found
    · rintro ⟨⟩

/-- A form of a reference is one of no other reference. -/
theorem Describes.unique (describes : object.Describes value) (describesToo : other.Describes value) :
    object = other :=
  Option.some.inj ((ofJson?_eq_some_iff.2 describes).symm.trans (ofJson?_eq_some_iff.2 describesToo))

/-- The fields of a form may be put in another order. -/
theorem Describes.rearranged (describes : object.Describes value) {another : Value}
    (rearranged : value.Rearranged another) : object.Describes another := by
  cases rearranged with
  | refl => exact describes
  | object perm =>
    cases describes with
    | fields named kind id =>
      exact .fields (fun field isIn => named field (perm.mem_iff.2 isIn)) (kind.perm perm)
        (id.perm perm)

/-- The two fields may come in any order, with unknown ones anywhere among them. -/
theorem describes_ofFields {fields others : List (String × Value)}
    (perm : fields.Perm (("type", .ofText object.kind) :: ("id", .ofText object.id) :: others))
    (unknown : ∀ field ∈ others, field.1 ≠ "type" ∧ field.1 ≠ "id") :
    object.Describes (.ofFields fields) := by
  have inOrder : object.Describes
      (.ofFields (("type", .ofText object.kind) :: ("id", .ofText object.id) :: others)) := by
    refine .fields (List.forall_mem_map.2 fun _ _ => rfl) ?_ ?_
    · refine Json.holdsOnce_append [] _ (List.forall_mem_nil _) (List.forall_mem_map.2 ?_)
      exact List.forall_mem_cons.2 ⟨by simp, fun field isIn same =>
        (unknown field isIn).1 (Option.some.inj same)⟩
    · refine Json.holdsOnce_append [(some "type", .ofText object.kind)] _ (by simp)
        (List.forall_mem_map.2 fun field isIn same => ?_)
      exact (unknown field isIn).2 (Option.some.inj same)
  exact inOrder.rearranged (.object (perm.symm.map _))

/-- The form in which a reference is sent. -/
theorem describes_json (object : ObjectRef) : object.Describes object.json :=
  describes_ofFields (.refl _) (by simp)

/-- It is proper, and so it can be written. -/
theorem proper_json (object : ObjectRef) : object.json.Proper :=
  .ofFields (List.forall_mem_cons.2 ⟨.string _, List.forall_mem_singleton.2 (.string _)⟩)

/-- It is read as the reference. -/
theorem ofJson?_json (object : ObjectRef) : ofJson? object.json = some object :=
  ofJson?_eq_some_iff.2 (describes_json object)

/-! ## Texts -/

/-- A text is read as a reference just if it stands for a form of it. -/
theorem ofText?_eq_some_iff :
    ofText? text = some object ↔ ∃ value, Stands value text.toList ∧ object.Describes value := by
  simp only [ofText?, Option.bind_eq_some_iff, Json.read?_eq_some_iff, ofJson?_eq_some_iff]

/-- A form of a reference, in whatever way it is spelled, is read as this reference. -/
theorem Describes.ofText? (describes : object.Describes value) (stands : Stands value text.toList) :
    ofText? text = some object :=
  ofText?_eq_some_iff.2 ⟨value, stands, describes⟩

/-- A reference comes back from the texts for it, and from no others. -/
structure Survives (object : ObjectRef) : Prop where
  /-- Its own text is one. -/
  own : ofText? object.json.text = some object
  /-- So is every text for an object with the two fields, in any order and with unknown fields anywhere
  among them. -/
  fields {fields others : List (String × Value)} {text : String} :
    fields.Perm (("type", .ofText object.kind) :: ("id", .ofText object.id) :: others) →
    (∀ field ∈ others, field.1 ≠ "type" ∧ field.1 ≠ "id") →
    Stands (.ofFields fields) text.toList → ofText? text = some object
  /-- So is every text for the array of type and identifier. -/
  pair {text : String} : Stands (.array [.ofText object.kind, .ofText object.id]) text.toList →
    ofText? text = some object
  /-- There are no others. -/
  only {text : String} : ofText? text = some object →
    ∃ value, Stands value text.toList ∧ object.Describes value

/-- Every reference survives. -/
theorem survives (object : ObjectRef) : object.Survives where
  own := (describes_json object).ofText? (proper_json object).stands_text
  fields perm unknown stands := (describes_ofFields perm unknown).ofText? stands
  pair stands := Describes.pair.ofText? stands
  only isRead := ofText?_eq_some_iff.1 isRead

/-- A text is spoiled. It is well formed, or its beginning is. -/
inductive Spoiled : String → Prop where
  /-- A field is missing or repeated. -/
  | field {fields : List (Option String × Value)} {name text : String}
      (isKnown : name = "type" ∨ name = "id") (stands : Stands (.object fields) text.toList)
      (count : (fields.map (·.1)).count (some name) ≠ 1) : Spoiled text
  /-- There are more or fewer elements than two. -/
  | elements {elements : List Value} {text : String} (stands : Stands (.array elements) text.toList)
      (length : elements.length ≠ 2) : Spoiled text
  /-- There are not just blanks behind the end. -/
  | trailing {value : Value} {text tail : String} (stands : Stands value text.toList)
      (more : ∃ c ∈ tail.toList, Json.isBlank c = false) : Spoiled (text ++ tail)

/-- A spoiled text is refused. -/
theorem Spoiled.refused (spoiled : Spoiled text) : ofText? text = none := by
  rw [Option.eq_none_iff_forall_ne_some]
  intro object isRead
  obtain ⟨value, stands, describes⟩ := ofText?_eq_some_iff.1 isRead
  cases spoiled with
  | field isKnown standsToo count =>
    cases stands.unique standsToo
    cases describes with
    | fields named kind id =>
      rcases isKnown with rfl | rfl
      · exact count kind.count
      · exact count id.count
  | elements standsToo length =>
    cases stands.unique standsToo
    cases describes
    exact length rfl
  | trailing standsToo more =>
    rw [String.toList_append] at stands
    obtain ⟨written, rfl⟩ := standsToo.trailing more stands
    cases describes

end ObjectRef

end NodeScaler
