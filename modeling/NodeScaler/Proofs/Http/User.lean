import NodeScaler.Http.Url

/-!
# Users in front of a host

The user of an address stands in front of its host, so it does not depend on what follows the host.
All addresses below one base have the same user, whichever path of the platform's interface they go
on with; and there is none if the base holds no `@`.
-/

namespace NodeScaler.Url

/-! ## Clean texts -/

/-- The character is dropped at the ends of an address. -/
def isEdge (c : Char) : Bool := c.toNat ≤ 0x20

/-- The character is no line break or tab. -/
def isKept (c : Char) : Bool := c != '\t' && c != '\n' && c != '\r'

/-- A text is cleaned at its ends first and then inside. -/
theorem cleaned_eq (cs : List Char) :
    cleaned cs = (((cs.dropWhile isEdge).reverse.dropWhile isEdge).reverse).filter isKept := rfl

/-- Line breaks and tabs are dropped at the ends too, so what is not dropped there is dropped nowhere. -/
theorem isKept_of_isEdge {c : Char} (visible : isEdge c = false) : isKept c = true := by
  have differs (blank : Char) (dropped : isEdge blank = true) : c ≠ blank := by
    rintro rfl
    rw [dropped] at visible
    cases visible
  simp [isKept, differs '\t' (by decide), differs '\n' (by decide), differs '\r' (by decide)]

/-- What stands between two visible characters does not stand at an end, so only line breaks and tabs
are dropped from it. -/
theorem cleaned_between {first last : Char} (visible : isEdge first = false)
    (visibleToo : isEdge last = false) (middle rest : List Char) :
    ∃ more, cleaned (first :: (middle ++ last :: rest)) =
      (first :: (middle ++ [last])).filter isKept ++ more := by
  have reversed : (first :: (middle ++ last :: rest)).reverse =
      rest.reverse ++ (last :: (middle.reverse ++ [first])) := by simp
  refine ⟨(rest.reverse.dropWhile isEdge).reverse.filter isKept, ?_⟩
  rw [cleaned_eq, List.dropWhile_cons_of_neg (by simp [visible]), reversed, List.dropWhile_append,
    ← List.filter_append]
  split
  · next none =>
    rw [List.dropWhile_cons_of_neg (by simp [visibleToo]), List.isEmpty_iff.1 none]
    simp
  · simp

/-! ## The scheme -/

/-- The scheme is what stands in front of the first colon. -/
theorem readScheme?_append {name : List Char} (noColon : ':' ∉ name) (rest : List Char) :
    readScheme? (name ++ ':' :: rest) = (Scheme.ofName? name).map (·, rest) := by
  have apart : ∀ c ∈ name, decide (c ≠ ':') = true := fun c isIn =>
    decide_eq_true fun same => noColon (same ▸ isIn)
  unfold readScheme?
  rw [List.dropWhile_append_of_pos apart, List.takeWhile_append_of_pos apart]
  simp

/-! ## What stands in front of a path -/

/-- What stands in front of a path: the host, with a user and a port if there are any. -/
def front (cs : List Char) : List Char := (cs.dropWhile isSlash).takeWhile (!endsAuthority ·)

/-- The user that is read from what stands in front of a path. -/
def userOf? (front : List Char) : Option (String × Option String) :=
  (cutUser front).1.bind readUser?

/-- Without an `@` there is no user. -/
theorem userOf?_eq_none {front : List Char} (unnamed : '@' ∉ front) : userOf? front = none := by
  unfold userOf? cutUser
  rw [if_neg (by simpa using unnamed)]
  rfl

/-- The user of an address is the one in front of its path. -/
theorem parse?_user {text : String} {url : Url} (reads : parse? text = some url) :
    ∃ scheme cs, readScheme? (cleaned text.toList) = some (scheme, cs) ∧
      url.user = userOf? (front cs) := by
  unfold parse? at reads
  simp only [Option.bind_eq_bind, Option.bind_eq_some_iff, Option.pure_def] at reads
  obtain ⟨⟨scheme, cs⟩, isScheme, host, -, port, -, same⟩ := reads
  refine ⟨scheme, cs, isScheme, ?_⟩
  rw [← Option.some.inj same]
  rfl

/-- What stands in front of the path of an interface. Where there is nothing but slashes, the path
itself is taken for the host. -/
def frontBelow (base : List Char) : List Char :=
  if (base.dropWhile isSlash).isEmpty then "api".toList else front base

/-- It does not depend on how the path goes on. -/
theorem front_below (base more : List Char) :
    front (base ++ ("/api/".toList ++ more)) = frontBelow base := by
  have path : ("/api/".toList ++ more).takeWhile (!endsAuthority ·) = [] := rfl
  unfold frontBelow front
  rw [List.dropWhile_append]
  split
  · rfl
  · rw [List.takeWhile_append, path, List.append_nil]
    split
    · next whole => exact (List.IsPrefix.eq_of_length (List.takeWhile_prefix _) whole).symm
    · rfl

/-- Nothing stands there but what the base holds, or the beginning of the path. -/
theorem mem_frontBelow {base : List Char} {c : Char} (isIn : c ∈ frontBelow base) :
    c ∈ base ∨ c ∈ "api".toList := by
  unfold frontBelow front at isIn
  split at isIn
  · exact .inr isIn
  · exact .inl ((List.dropWhile_suffix _).subset ((List.takeWhile_prefix _).subset isIn))

/-! ## Addresses below a base -/

/-- The user of the addresses below a base, of which what follows the scheme is given. -/
def userBelow? (base : List Char) : Option (String × Option String) :=
  userOf? (frontBelow (base.filter isKept))

/-- Every address below a base has its user. -/
theorem user_below {text : String} {url : Url} {base rest : List Char}
    (below : text.toList = "https:".toList ++ (base ++ ("/api/".toList ++ rest)))
    (reads : parse? text = some url) : url.user = userBelow? base := by
  obtain ⟨scheme, cs, isScheme, isUser⟩ := parse?_user reads
  obtain ⟨more, clean⟩ := cleaned_between (show isEdge 'h' = false by decide)
    (show isEdge '/' = false by decide) ("ttps:".toList ++ (base ++ "/api".toList)) rest
  have whole : cleaned text.toList =
      "https:".toList ++ (base.filter isKept ++ ("/api/".toList ++ more)) := by
    have parts : text.toList = 'h' :: ("ttps:".toList ++ (base ++ "/api".toList) ++ '/' :: rest) := by
      simpa using below
    rw [parts, clean]
    simp [isKept]
  have same : readScheme? (cleaned text.toList) =
      some (.https, base.filter isKept ++ ("/api/".toList ++ more)) := by
    rw [whole]
    rfl
  rw [same] at isScheme
  cases isScheme
  rw [isUser, front_below]
  rfl

/-- A base without an `@` names no user. -/
theorem userBelow?_eq_none {base : List Char} (unnamed : '@' ∉ base) : userBelow? base = none := by
  refine userOf?_eq_none fun isIn => ?_
  rcases mem_frontBelow isIn with isIn | isIn
  · exact unnamed ((List.mem_filter.1 isIn).1)
  · exact absurd isIn (by decide)

end NodeScaler.Url
