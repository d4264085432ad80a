import Mathlib.Data.List.Basic
import Mathlib.Data.List.TakeWhile
import NodeScaler.Proofs.Http.User

/-!
# Addresses below a server

An address that names only a scheme and a host is continued by a path. If the segments of the path
hold nothing but letters, digits, hyphens and colons, then the address is read as that host with
these very segments: nothing is encoded, no segment counts as a point, and no query begins.
-/

namespace NodeScaler.Url

/-- A letter, a digit, a hyphen or a colon. -/
def isIdChar (c : Char) : Bool := c.isAlphanum || c == '-' || c == ':'

/-- There are only letters, digits, hyphens and colons. -/
def IsId (text : String) : Prop := ∀ c ∈ text.toList, isIdChar c = true

instance (text : String) : Decidable (IsId text) := List.decidableBAll _ _

/-- The written form of a path. -/
def pathChars (segments : List String) : List Char :=
  segments.flatMap fun segment => '/' :: segment.toList

/-- The address of a host, without a path. -/
structure Bare (base : String) (home : Url) : Prop where
  /-- A scheme, and a host with what belongs to it; there are no blanks. -/
  parts : ∃ scheme authority, base.toList = scheme ++ ':' :: '/' :: '/' :: authority ∧
    (∀ c ∈ scheme, c ≠ ':' ∧ 0x20 < c.toNat) ∧ authority ≠ [] ∧
    ∀ c ∈ authority, endsAuthority c = false ∧ 0x20 < c.toNat
  /-- The address is read. -/
  reads : parse? base = some home

/-! ## Characters -/

/-- Characters of identifiers are in ASCII. -/
theorem toNat_lt_of_isIdChar {c : Char} (isId : isIdChar c = true) : c.toNat < 128 := by
  change (decide (c.val ≥ 65 ∧ c.val ≤ 90) || c.val ≥ 97 && c.val ≤ 122 ||
    c.val ≥ 48 && c.val ≤ 57 || c == '-' || c == ':') = true at isId
  simp only [Bool.or_eq_true, Bool.and_eq_true, decide_eq_true_eq, beq_iff_eq, ge_iff_le,
    UInt32.le_iff_toNat_le] at isId
  rcases isId with (((⟨-, upper⟩ | ⟨-, lower⟩) | ⟨-, digit⟩) | rfl) | rfl
  · exact Nat.lt_of_le_of_lt upper (by decide)
  · exact Nat.lt_of_le_of_lt lower (by decide)
  · exact Nat.lt_of_le_of_lt digit (by decide)
  · decide
  · decide

/-- Characters of identifiers stand in a path as they are. -/
theorem plain_of_isIdChar {c : Char} (isId : isIdChar c = true) :
    isPlainInPath c = true ∧ isSlash c = false ∧ c.toLower ≠ '.' ∧ c.toLower ≠ '%' ∧
      0x20 < c.toNat ∧ c ≠ '?' ∧ c ≠ '#' := by
  have all : ∀ code < 128, isIdChar (Char.ofNat code) = true →
      isPlainInPath (Char.ofNat code) = true ∧ isSlash (Char.ofNat code) = false ∧
        (Char.ofNat code).toLower ≠ '.' ∧ (Char.ofNat code).toLower ≠ '%' ∧
        0x20 < (Char.ofNat code).toNat ∧ Char.ofNat code ≠ '?' ∧ Char.ofNat code ≠ '#' := by
    decide
  have same := all c.toNat (toNat_lt_of_isIdChar isId)
  rw [Char.ofNat_toNat] at same
  exact same isId

/-! ## Paths -/

/-- What stands in front of the first slash belongs to the first part. -/
theorem splitPath_append {front : List Char} (noSlash : ∀ c ∈ front, isSlash c = false)
    {cs first : List Char} {others : List (List Char)} (parts : splitPath cs = first :: others) :
    splitPath (front ++ cs) = (front ++ first) :: others := by
  induction front with
  | nil => exact parts
  | cons c rest inductionHypothesis =>
    have behind := inductionHypothesis fun other isIn => noSlash other (List.mem_cons_of_mem _ isIn)
    rw [List.cons_append, splitPath, behind]
    simp [noSlash c List.mem_cons_self]

/-- The parts of a written path are its segments. -/
theorem splitPath_pathChars {first : String} {others : List String}
    (plain : ∀ segment ∈ first :: others, IsId segment) :
    splitPath (first.toList ++ pathChars others) =
      (first :: others).map String.toList := by
  induction others generalizing first with
  | nil =>
    have noSlash : ∀ c ∈ first.toList, isSlash c = false := fun c isIn =>
      (plain_of_isIdChar (plain first List.mem_cons_self c isIn)).2.1
    have parts := splitPath_append noSlash (show splitPath [] = [] :: [] from rfl)
    simpa [pathChars] using parts
  | cons second rest inductionHypothesis =>
    have noSlash : ∀ c ∈ first.toList, isSlash c = false := fun c isIn =>
      (plain_of_isIdChar (plain first List.mem_cons_self c isIn)).2.1
    have behind := @inductionHypothesis second fun segment isIn =>
      plain segment (List.mem_cons_of_mem _ isIn)
    have slash : splitPath ('/' :: (second.toList ++ pathChars rest)) =
        [] :: second.toList :: rest.map String.toList := by
      rw [splitPath, behind]
      rfl
    have parts := splitPath_append noSlash slash
    simpa [pathChars] using parts

/-- Identifiers are no points and need no encoding, so they are put one behind the other. -/
theorem resolve_isId {segments : List String} (plain : ∀ segment ∈ segments, IsId segment)
    (front : List (List Char)) :
    resolve front (segments.map String.toList) = front.reverse ++ segments.map String.toList := by
  induction segments generalizing front with
  | nil => simp [resolve]
  | cons segment rest inductionHypothesis =>
    have isId := plain segment List.mem_cons_self
    have noPoint : isSingleDot segment.toList = false ∧ isDoubleDot segment.toList = false := by
      cases characters : segment.toList with
      | nil => exact ⟨rfl, rfl⟩
      | cons c cs =>
        have isIn : c ∈ segment.toList := by rw [characters]; exact List.mem_cons_self
        obtain ⟨-, -, notPoint, notPercent, -⟩ := plain_of_isIdChar (isId c isIn)
        constructor
        · simp [isSingleDot, notPoint, notPercent]
        · unfold isDoubleDot
          rw [List.map_cons]
          split
          · next same => exact absurd (List.cons.inj same).1 notPoint
          · next same => exact absurd (List.cons.inj same).1 notPercent
          · rfl
    have kept : Percent.encode isPlainInPath segment.toList = segment.toList := by
      unfold Percent.encode
      rw [List.flatMap_congr fun c isIn => if_pos (plain_of_isIdChar (isId c isIn)).1]
      exact List.flatMap_singleton' _
    have behind := inductionHypothesis (fun other isIn => plain other (List.mem_cons_of_mem _ isIn))
      (segment.toList :: front)
    rw [List.map_cons, resolve]
    simp [noPoint, kept, behind]

/-- A written path is read as its segments. -/
theorem readPath_pathChars {segments : List String} (nonempty : segments ≠ [])
    (plain : ∀ segment ∈ segments, IsId segment) : readPath (pathChars segments) = segments := by
  cases segments with
  | nil => exact absurd rfl nonempty
  | cons first others =>
    have parts := splitPath_pathChars plain
    change (resolve [] (splitPath (first.toList ++ pathChars others))).map String.ofList = _
    rw [parts, resolve_isId plain]
    simp [Function.comp_def]

/-! ## Addresses -/

/-- A text without blanks is clean. -/
theorem cleaned_eq_self {cs : List Char} (noBlank : ∀ c ∈ cs, 0x20 < c.toNat) :
    cleaned cs = cs := by
  have visible : ∀ c ∈ cs, isEdge c = false := fun c isIn =>
    decide_eq_false (Nat.not_le.2 (noBlank c isIn))
  have noEdge (list : List Char) (visible : ∀ c ∈ list, isEdge c = false) :
      list.dropWhile isEdge = list := by
    rw [List.dropWhile_eq_self_iff]
    intro inside
    simpa using visible _ (List.getElem_mem inside)
  rw [cleaned_eq, noEdge cs visible,
    noEdge cs.reverse fun c isIn => visible c (List.mem_reverse.1 isIn), List.reverse_reverse,
    List.filter_eq_self]
  exact fun c isIn => isKept_of_isEdge (visible c isIn)

/-- An address that consists of a scheme, a host and a path is read part by part. -/
theorem parse?_parts {text : String} {scheme authority path : List Char}
    (parts : text.toList = scheme ++ ':' :: '/' :: '/' :: (authority ++ path))
    (schemeChars : ∀ c ∈ scheme, c ≠ ':' ∧ 0x20 < c.toNat) (nonempty : authority ≠ [])
    (authorityChars : ∀ c ∈ authority, endsAuthority c = false ∧ 0x20 < c.toNat)
    (below : ∀ c rest, path = c :: rest → endsAuthority c = true)
    (pathCharacters : ∀ c ∈ path, 0x20 < c.toNat ∧ c ≠ '?' ∧ c ≠ '#') :
    parse? text = do
      let scheme ← Scheme.ofName? scheme
      let (user, name) := cutUser authority
      let (host, port) := cutPort false name
      return {
        scheme
        query := none
        fragment := none
        user := user.bind readUser?
        unread := user.bind unreadText?
        host := ← Host.read? host
        port := ← readPort? scheme port
        path := readPath path } := by
  have noBlank : ∀ c ∈ text.toList, 0x20 < c.toNat := by
    intro c isIn
    rw [parts] at isIn
    simp only [List.mem_append, List.mem_cons] at isIn
    rcases isIn with isIn | rfl | rfl | rfl | isIn | isIn
    · exact (schemeChars c isIn).2
    · decide
    · decide
    · decide
    · exact (authorityChars c isIn).2
    · exact (pathCharacters c isIn).1
  have noColon : ':' ∉ scheme := fun isIn => (schemeChars ':' isIn).1 rfl
  have slashes : ('/' :: '/' :: (authority ++ path)).dropWhile isSlash = authority ++ path := by
    have noSlash : isSlash (authority.head nonempty) = false := by
      have noEnd := (authorityChars _ (List.head_mem nonempty)).1
      simp only [endsAuthority, Bool.or_eq_false_iff] at noEnd
      exact noEnd.1.1
    obtain ⟨first, rest, rfl⟩ := List.exists_cons_of_ne_nil nonempty
    have isFirst : isSlash first = false := noSlash
    simp [isFirst, show isSlash '/' = true from rfl]
  have inside : ∀ c ∈ authority, (!endsAuthority c) = true := fun c isIn => by
    rw [(authorityChars c isIn).1]
    rfl
  have ends :
      path.takeWhile (!endsAuthority ·) = [] ∧ path.dropWhile (!endsAuthority ·) = path := by
    cases path with
    | nil => exact ⟨rfl, rfl⟩
    | cons c rest => simp [below c rest rfl]
  have noQuery : ∀ c ∈ path, (c != '?' && c != '#') = true := fun c isIn => by
    simp [pathCharacters c isIn]
  have wholePath : path.takeWhile (fun c => c != '?' && c != '#') = path ∧
      path.dropWhile (fun c => c != '?' && c != '#') = [] :=
    ⟨List.takeWhile_eq_self_iff.2 noQuery, List.dropWhile_eq_nil_iff.2 noQuery⟩
  unfold parse?
  rw [cleaned_eq_self noBlank, parts, readScheme?_append noColon]
  cases Scheme.ofName? scheme with
  | none => rfl
  | some scheme =>
    simp only [Option.map_some, Option.bind_eq_bind, Option.bind_some, slashes,
      List.takeWhile_append_of_pos inside, List.dropWhile_append_of_pos inside, ends,
      List.append_nil, wholePath]
    rfl

/-- A bare address is continued by a path. -/
theorem Bare.parse?_append {base text : String} {home : Url} (bare : Bare base home)
    {path : List Char} (written : text.toList = base.toList ++ path)
    (below : ∀ c rest, path = c :: rest → endsAuthority c = true)
    (pathCharacters : ∀ c ∈ path, 0x20 < c.toNat ∧ c ≠ '?' ∧ c ≠ '#') :
    parse? text = some { home with path := readPath path, query := none } := by
  obtain ⟨⟨scheme, authority, parts, schemeChars, hasAuthority, authorityChars⟩, reads⟩ := bare
  have alone : base.toList = scheme ++ ':' :: '/' :: '/' :: (authority ++ []) := by
    rw [parts, List.append_nil]
  have whole : text.toList = scheme ++ ':' :: '/' :: '/' :: (authority ++ path) := by
    rw [written, parts]
    simp
  rw [parse?_parts alone schemeChars hasAuthority authorityChars (fun c rest same => by cases same)
    fun c isIn => absurd isIn List.not_mem_nil] at reads
  rw [parse?_parts whole schemeChars hasAuthority authorityChars below pathCharacters]
  simp only [Option.bind_eq_bind, Option.bind_eq_some_iff, Option.pure_def] at reads ⊢
  obtain ⟨found, isScheme, host, isHost, port, isPort, same⟩ := reads
  refine ⟨found, isScheme, host, isHost, port, isPort, ?_⟩
  rw [← Option.some.inj same]

/-- A bare address has no query. -/
theorem Bare.query {base : String} {home : Url} (bare : Bare base home) : home.query = none := by
  have again := bare.parse?_append (List.append_nil base.toList).symm
    (fun c rest same => by cases same) fun c isIn => absurd isIn List.not_mem_nil
  have same := Option.some.inj (bare.reads.symm.trans again)
  rw [same]

/-- Below a bare address a path is read as its segments. -/
theorem Bare.parse?_below {base : String} {home : Url} (bare : Bare base home) {path : String}
    {segments : List String} (nonempty : segments ≠ []) (plain : ∀ segment ∈ segments, IsId segment)
    (written : path.toList = pathChars segments) :
    parse? (base ++ path) = some { home with path := segments } := by
  have whole : (base ++ path).toList = base.toList ++ pathChars segments := by
    rw [String.toList_append, written]
  have pathCharacters : ∀ c ∈ pathChars segments, 0x20 < c.toNat ∧ c ≠ '?' ∧ c ≠ '#' := by
    intro c isIn
    obtain ⟨segment, isSegment, isIn⟩ := List.mem_flatMap.1 isIn
    rcases List.mem_cons.1 isIn with rfl | isIn
    · decide
    · obtain ⟨-, -, -, -, visible, noQuery, noFragment⟩ :=
        plain_of_isIdChar (plain segment isSegment c isIn)
      exact ⟨visible, noQuery, noFragment⟩
  have below : ∀ c rest, pathChars segments = c :: rest → endsAuthority c = true := by
    intro c rest same
    obtain ⟨first, others, rfl⟩ := List.exists_cons_of_ne_nil nonempty
    obtain ⟨rfl, -⟩ := List.cons.inj same
    rfl
  rw [bare.parse?_append whole below pathCharacters, readPath_pathChars nonempty plain,
    ← bare.query]

/-! ## Fields -/

end NodeScaler.Url
