import Mathlib.Data.List.Flatten
import NodeScaler.Proofs.Http.Address
import NodeScaler.Proofs.Http.Percent
import NodeScaler.Proofs.Http.User

/-!
# Identifiers in paths

An identifier that is put behind a path does not always become the last segment of it. It may be cut
at a slash, a question mark or a number sign, characters may be dropped, points lead to another place,
and percent signs are not encoded. Which identifiers remain as they are is said here, and just for these
the last segment stands for the identifier. Then different identifiers have different paths.
-/

namespace NodeScaler.Url

open Text (utf8)

variable {front cs : List Char} {text id : String} {url : Url}

/-- The character neither begins a query nor a fragment. -/
def isInPath (c : Char) : Bool := c != '?' && c != '#'

/-- The identifier may stand in a path as a segment of its own. -/
structure IsSegment (id : String) : Prop where
  /-- It is not empty, and does not name this place or the next higher one. -/
  named : id ≠ "" ∧ id ≠ "." ∧ id ≠ ".."
  /-- It holds nothing that ends a segment, and nothing that is dropped. -/
  inside : ∀ c ∈ id.toList, isSlash c = false ∧ isInPath c = true ∧ isKept c = true
  /-- It does not end with something that is dropped there. -/
  ends : ∀ c ∈ id.toList.getLast?, isEdge c = false
  /-- No two hexadecimal digits stand behind a percent sign in it. -/
  plain : ∀ before high low after, id.toList = before ++ '%' :: high :: low :: after →
    ¬(Percent.isHex high = true ∧ Percent.isHex low = true)

/-- It can be decided character by character. -/
theorem isSegment_iff : IsSegment id ↔ (id ≠ "" ∧ id ≠ "." ∧ id ≠ "..") ∧
    id.toList.all (fun c => !isSlash c && (isInPath c && isKept c)) = true ∧
      id.toList.getLast?.all (!isEdge ·) = true ∧ Percent.hasEncoded id.toList = false := by
  rw [Percent.hasEncoded_eq_false_iff, List.all_eq_true]
  simp only [Bool.and_eq_true, Bool.not_eq_true', Option.all_eq_true]
  constructor
  · rintro ⟨named, inside, ends, plain⟩
    exact ⟨named, inside, ends, plain⟩
  · rintro ⟨named, inside, ends, plain⟩
    exact ⟨named, inside, ends, plain⟩

instance (id : String) : Decidable (IsSegment id) := decidable_of_iff _ isSegment_iff.symm

/-! ## Cutting -/

/-- What is dropped in front does not reach beyond a character that is not dropped. -/
theorem dropWhile_append_cons {dropped : Char → Bool} {c : Char} (stays : dropped c = false)
    (front rest : List Char) :
    (front ++ c :: rest).dropWhile dropped = front.dropWhile dropped ++ c :: rest := by
  induction front with
  | nil => exact List.dropWhile_cons_of_neg (by simp [stays])
  | cons first others inductionHypothesis =>
    rw [List.cons_append, List.dropWhile_cons, List.dropWhile_cons]
    split
    · exact inductionHypothesis
    · rfl

/-- What is left of an identifier at the end of an address. -/
def tail (id : List Char) : List Char := ((id.reverse.dropWhile isEdge).reverse).filter isKept

/-- What stands behind the last slash. -/
def lastPart (cs : List Char) : List Char := (cs.reverse.takeWhile (!isSlash ·)).reverse

/-- The part of an identifier that stands behind the last slash of a path. -/
def lastOf (id : List Char) : List Char := lastPart ((tail id).takeWhile isInPath)

/-- The segment that a part of a path becomes at its end. -/
def written (part : List Char) : List Char :=
  if isSingleDot part || isDoubleDot part then [] else Percent.encode isPlainInPath part

/-! ## Parts of a path -/

/-- There is at least one part. -/
theorem exists_splitPath (cs : List Char) : ∃ first others, splitPath cs = first :: others := by
  cases cs with
  | nil => exact ⟨[], [], rfl⟩
  | cons c rest =>
    rw [splitPath]
    split
    · exact ⟨_, _, rfl⟩
    · split <;> exact ⟨_, _, rfl⟩

/-- A slash stands between parts. -/
theorem splitPath_append_slash {slash : Char} (isSlash : isSlash slash = true) (front cs : List Char) :
    splitPath (front ++ slash :: cs) = splitPath front ++ splitPath cs := by
  induction front with
  | nil =>
    obtain ⟨first, others, parts⟩ := exists_splitPath cs
    simp [splitPath, parts, isSlash]
  | cons c rest inductionHypothesis =>
    obtain ⟨first, others, parts⟩ := exists_splitPath rest
    rw [List.cons_append, splitPath, inductionHypothesis, splitPath, parts]
    simp only [List.cons_append]
    split <;> rfl

/-- A path either has no slash, or has a last one. -/
theorem eq_lastPart (cs : List Char) : cs = lastPart cs ∨
    ∃ front slash, isSlash slash = true ∧ cs = front ++ slash :: lastPart cs := by
  have whole := List.takeWhile_append_dropWhile (p := (!isSlash ·)) (l := cs.reverse)
  cases rest : cs.reverse.dropWhile (!isSlash ·) with
  | nil =>
    rw [rest, List.append_nil] at whole
    exact .inl (by rw [lastPart, whole, List.reverse_reverse])
  | cons slash others =>
    have isLast := List.head_dropWhile_not (!isSlash ·) (l := cs.reverse) (by simp [rest])
    rw [rest] at whole
    refine .inr ⟨others.reverse, slash, by simpa [rest] using isLast, ?_⟩
    have reversed := congrArg List.reverse whole
    rw [List.reverse_append, List.reverse_cons, List.append_assoc, List.reverse_reverse] at reversed
    exact reversed.symm

/-- No slash stands in the last part. -/
theorem isSlash_of_mem_lastPart {c : Char} (isIn : c ∈ lastPart cs) : isSlash c = false := by
  have apart := List.mem_takeWhile_imp (List.mem_reverse.1 isIn)
  simpa using apart

/-- The last part is what stands behind the last slash. -/
theorem splitPath_getLast? (cs : List Char) : (splitPath cs).getLast? = some (lastPart cs) := by
  have alone : splitPath (lastPart cs) = [lastPart cs] := by
    have noSlash : ∀ c ∈ lastPart cs, isSlash c = false := fun c isIn => isSlash_of_mem_lastPart isIn
    have parts := splitPath_append noSlash (show splitPath [] = [] :: [] from rfl)
    simpa using parts
  rcases eq_lastPart cs with same | ⟨front, slash, isSlash, same⟩
  · rw [← same] at alone ⊢
    rw [alone]
    rfl
  · have parts : splitPath cs = splitPath front ++ [lastPart cs] := by
      rw [← alone, ← splitPath_append_slash isSlash, ← same]
    rw [parts, List.getLast?_concat]

/-- At the end of a path stands what its last part becomes. -/
theorem resolve_getLast? (front parts : List (List Char)) (last : List Char) :
    (resolve front (parts ++ [last])).getLast? = some (written last) := by
  induction parts generalizing front with
  | nil =>
    rw [List.nil_append, resolve, written]
    split <;> simp [resolve]
  | cons part parts inductionHypothesis =>
    rw [List.cons_append, resolve]
    split <;> exact inductionHypothesis _

/-- The last segment of a path is what stands behind its last slash, in its written form. -/
theorem readPath_getLast? (front cs : List Char) :
    (readPath (front ++ '/' :: cs)).getLast? = some (String.ofList (written (lastPart cs))) := by
  obtain ⟨before, parts⟩ : ∃ before, splitPath cs = before ++ [lastPart cs] :=
    List.getLast?_eq_some_iff.1 (splitPath_getLast? cs)
  cases front with
  | nil =>
    rw [List.nil_append, readPath, parts, List.getLast?_map, resolve_getLast?, Option.map_some]
  | cons c rest =>
    rw [List.cons_append, readPath, splitPath_append_slash (by decide), parts, ← List.append_assoc,
      List.getLast?_map, resolve_getLast?, Option.map_some]

/-! ## Addresses that end with an identifier -/

/-- What stands in front of an identifier: it ends with a letter, and no query or fragment begins
in it. -/
structure Leads (front : List Char) : Prop where
  /-- All of it stands in front of a query. -/
  inPath : ∀ c ∈ front, isInPath c = true
  /-- A letter stands at its end. -/
  ends : ∃ before c, front = before ++ [c] ∧ c.isAlpha = true

/-- A letter is not dropped, and is neither a slash nor a colon. -/
theorem of_isAlpha {c : Char} (isAlpha : c.isAlpha = true) :
    isSlash c = false ∧ isEdge c = false ∧ isKept c = true ∧ c ≠ ':' := by
  obtain ⟨-, noSlash, -, -, visible, -⟩ := plain_of_isIdChar (c := c)
    (by simp [isIdChar, Char.isAlphanum, isAlpha])
  have noEdge : isEdge c = false := decide_eq_false (Nat.not_le.2 visible)
  refine ⟨noSlash, noEdge, isKept_of_isEdge noEdge, ?_⟩
  rintro rfl
  cases isAlpha

/-- What is left of it when something is dropped in front leads on. -/
theorem Leads.dropWhile (leads : Leads front) {dropped : Char → Bool}
    (stays : ∀ c : Char, c.isAlpha = true → dropped c = false) (rest : List Char) :
    (front ++ rest).dropWhile dropped = front.dropWhile dropped ++ rest ∧
      Leads (front.dropWhile dropped) := by
  obtain ⟨inPath, before, c, rfl, isAlpha⟩ := leads
  have more := dropWhile_append_cons (stays c isAlpha) before
  have alone : (before ++ [c]).dropWhile dropped = before.dropWhile dropped ++ [c] := more []
  refine ⟨by rw [alone, List.append_assoc, List.append_assoc]; exact more rest, ?_, ?_⟩
  · exact fun c isIn => inPath c ((List.dropWhile_suffix dropped).subset isIn)
  · exact ⟨_, c, alone, isAlpha⟩

/-- An identifier behind a slash is cleaned on its own. -/
theorem Leads.cleaned (leads : Leads front) (id : List Char) :
    ∃ clean, cleaned (front ++ '/' :: id) = clean ++ '/' :: tail id ∧ Leads clean := by
  obtain ⟨atFront, leadsOn⟩ := leads.dropWhile (fun c isAlpha => (of_isAlpha isAlpha).2.1) ('/' :: id)
  refine ⟨(front.dropWhile isEdge).filter isKept, ?_, ?_, ?_⟩
  · have reversed : (front.dropWhile isEdge ++ '/' :: id).reverse =
        id.reverse ++ '/' :: (front.dropWhile isEdge).reverse := by simp
    rw [cleaned_eq, atFront, reversed, dropWhile_append_cons (by decide), List.reverse_append,
      List.reverse_cons, List.reverse_reverse, List.append_assoc, List.filter_append]
    rfl
  · exact fun c isIn => leadsOn.inPath c (List.mem_filter.1 isIn).1
  · obtain ⟨before, c, same, isAlpha⟩ := leadsOn.ends
    refine ⟨before.filter isKept, c, ?_, isAlpha⟩
    rw [same, List.filter_append, List.filter_cons_of_pos (of_isAlpha isAlpha).2.2.1]
    rfl

/-- There is no slash in the name of a scheme. -/
theorem Scheme.ofName?_eq_none {name : List Char} (hasSlash : '/' ∈ name) :
    Scheme.ofName? name = none := by
  have isIn : '/' ∈ (String.ofList (name.map Char.toLower)).toList := by
    rw [String.toList_ofList]
    exact List.mem_map.2 ⟨'/', hasSlash, by decide⟩
  unfold Scheme.ofName?
  split
  · next same => rw [same] at isIn; exact absurd isIn (by decide)
  · next same => rw [same] at isIn; exact absurd isIn (by decide)
  · rfl

/-- The scheme stands in front of an identifier. -/
theorem Leads.readScheme? (leads : Leads front) {scheme : Scheme} {rest : List Char}
    (reads : readScheme? (front ++ '/' :: cs) = some (scheme, rest)) :
    ∃ behind, rest = behind ++ '/' :: cs ∧ Leads behind := by
  by_cases hasColon : ':' ∈ front
  · obtain ⟨name, behind, rfl, noColon⟩ := List.eq_append_cons_of_mem hasColon
    rw [List.append_assoc, List.cons_append, readScheme?_append noColon] at reads
    obtain ⟨found, -, same⟩ := Option.map_eq_some_iff.1 reads
    refine ⟨behind, (Prod.mk.inj same).2.symm, ?_, ?_⟩
    · exact fun c isIn => leads.inPath c (List.mem_append_right _ (List.mem_cons_of_mem _ isIn))
    · obtain ⟨before, c, same, isAlpha⟩ := leads.ends
      rcases List.eq_nil_or_concat' behind with rfl | ⟨others, last, rfl⟩
      · have isColon := (List.append_inj' same rfl).2
        exact absurd (List.cons.inj isColon).1.symm (of_isAlpha isAlpha).2.2.2
      · rw [← List.cons_append, ← List.append_assoc] at same
        have isLast := (List.cons.inj (List.append_inj' same rfl).2).1
        exact ⟨others, last, rfl, isLast ▸ isAlpha⟩
  · have apart : ∀ c ∈ front ++ ['/'], decide (c ≠ ':') = true := by
      intro c isIn
      refine decide_eq_true ?_
      rintro rfl
      rcases List.mem_append.1 isIn with isIn | isIn
      · exact hasColon isIn
      · exact absurd isIn (by decide)
    have name : (front ++ '/' :: cs).takeWhile (· ≠ ':') =
        (front ++ ['/']) ++ cs.takeWhile (· ≠ ':') := by
      rw [← List.takeWhile_append_of_pos apart, List.append_assoc]
      rfl
    have hasSlash : '/' ∈ (front ++ '/' :: cs).takeWhile (· ≠ ':') := by
      rw [name]
      simp
    unfold Url.readScheme? at reads
    split at reads
    · cases reads
    · rw [Scheme.ofName?_eq_none hasSlash] at reads
      cases reads

/-- An address that ends with an identifier has the last part of the identifier as the last segment of
its path, and nothing behind the path if nothing in the identifier begins a query. -/
theorem Leads.parse? (leads : Leads front) (isText : text.toList = front ++ '/' :: id.toList)
    (reads : parse? text = some url) :
    url.path.getLast? = some (String.ofList (written (lastOf id.toList))) ∧
      ((∀ c ∈ tail id.toList, isInPath c = true) → url.query = none) := by
  obtain ⟨clean, isClean, leadsClean⟩ := leads.cleaned id.toList
  rw [← isText] at isClean
  unfold Url.parse? at reads
  simp only [Option.bind_eq_bind, Option.bind_eq_some_iff, Option.pure_def] at reads
  obtain ⟨⟨scheme, rest⟩, isScheme, host, -, port, -, same⟩ := reads
  rw [isClean] at isScheme
  obtain ⟨behind, rfl, leadsBehind⟩ := leadsClean.readScheme? isScheme
  obtain ⟨noSlashes, leadsOn⟩ := leadsBehind.dropWhile (fun c isAlpha => (of_isAlpha isAlpha).1)
    ('/' :: tail id.toList)
  -- The slash in front of the identifier ends the host at the latest.
  let place := (behind.dropWhile isSlash).dropWhile (!endsAuthority ·)
  have below : (behind.dropWhile isSlash ++ '/' :: tail id.toList).dropWhile (!endsAuthority ·) =
      place ++ '/' :: tail id.toList := dropWhile_append_cons (by decide) _ _
  have inPath : ∀ c ∈ place ++ ['/'], isInPath c = true := by
    intro c isIn
    rcases List.mem_append.1 isIn with isIn | isIn
    · exact leadsOn.inPath c ((List.dropWhile_suffix _).subset isIn)
    · rw [List.mem_singleton.1 isIn]
      decide
  have path : (place ++ '/' :: tail id.toList).takeWhile isInPath =
      place ++ '/' :: (tail id.toList).takeWhile isInPath := by
    rw [List.append_cons, List.takeWhile_append_of_pos inPath, ← List.append_cons]
  have behindPath : (place ++ '/' :: tail id.toList).dropWhile isInPath =
      (tail id.toList).dropWhile isInPath := by
    rw [List.append_cons, List.dropWhile_append_of_pos inPath]
  have isInPath_eq : (fun c : Char => c != '?' && c != '#') = isInPath := rfl
  constructor
  · rw [← Option.some.inj same]
    simp only [noSlashes, below]
    rw [isInPath_eq, path]
    exact readPath_getLast? _ _
  · intro allInPath
    rw [← Option.some.inj same]
    simp only [noSlashes, below]
    rw [isInPath_eq, behindPath, List.dropWhile_eq_nil_iff.2 allInPath]

/-! ## Points -/

/-- Only capital letters have another lower-case form. -/
theorem toLower_eq_self_or (c : Char) : c.toLower = c ∨ c.toNat < 91 := by
  unfold Char.toLower
  split
  · next isCapital => exact .inr (Nat.lt_succ_of_le (UInt32.le_iff_toNat_le.1 isCapital.2))
  · exact .inl rfl

/-- What holds of the lower-case forms of capital letters, and of all characters that are their own,
holds of every one. -/
theorem of_toLower (holds : Char → Char → Prop) (alone : ∀ c : Char, holds c c)
    (each : ∀ code ∈ List.range 91, holds (Char.ofNat code) (Char.ofNat code).toLower) (c : Char) :
    holds c c.toLower := by
  rcases toLower_eq_self_or c with isSelf | isSmall
  · rw [isSelf]
    exact alone c
  · have holdsOf := each c.toNat (List.mem_range.2 isSmall)
    rwa [Char.ofNat_toNat] at holdsOf

/-- The marks in a written point are the lower-case forms of nothing else. -/
theorem eq_of_toLower {c lower : Char} (same : c.toLower = lower) (isMark : lower ∈ ['.', '%', '2']) :
    c = lower := by
  have holds := of_toLower (fun c other => other ∈ ['.', '%', '2'] → c = other)
    (fun c _ => rfl) (by decide) c
  rw [same] at holds
  exact holds isMark

/-- The letter in an encoded point is a digit in both cases. -/
theorem isHex_of_toLower {c : Char} (same : c.toLower = 'e') : Percent.isHex c = true := by
  have holds := of_toLower (fun c other => other = 'e' → Percent.isHex c = true)
    (fun c isLetter => by rw [isLetter]; decide) (by decide) c
  exact holds same

/-- A lower-case form is its own one. -/
theorem toLower_toLower (c : Char) : c.toLower.toLower = c.toLower := by
  rcases toLower_eq_self_or c with isSelf | isSmall
  · rw [isSelf, isSelf]
  · have each : ∀ code ∈ List.range 91,
        (Char.ofNat code).toLower.toLower = (Char.ofNat code).toLower := by decide
    have same := each c.toNat (List.mem_range.2 isSmall)
    rwa [Char.ofNat_toNat] at same

/-- An encoded point holds an encoded byte. -/
theorem hasEncoded_of_toLower {a b c : Char} {rest : List Char} (isSign : a.toLower = '%')
    (isTwo : b.toLower = '2') (isLetter : c.toLower = 'e') :
    Percent.hasEncoded (a :: b :: c :: rest) = true := by
  rw [eq_of_toLower isSign (by decide), eq_of_toLower isTwo (by decide), Percent.hasEncoded,
    Percent.startsEncoded, isHex_of_toLower isLetter]
  rfl

/-- A point is written as it is or holds an encoded byte. -/
theorem eq_of_isSingleDot (isDot : isSingleDot cs = true) :
    cs = ['.'] ∨ Percent.hasEncoded cs = true := by
  simp only [isSingleDot, Bool.or_eq_true, beq_iff_eq] at isDot
  rcases isDot with plain | encoded
  · obtain ⟨c, rfl, isPoint⟩ := List.map_eq_singleton_iff.1 plain
    exact .inl (by rw [eq_of_toLower isPoint (by decide)])
  · obtain ⟨a, rest, rfl, isSign, others⟩ := List.map_eq_cons_iff.1 encoded
    obtain ⟨b, rest, rfl, isTwo, others⟩ := List.map_eq_cons_iff.1 others
    obtain ⟨c, rfl, isLetter⟩ := List.map_eq_singleton_iff.1 others
    exact .inr (hasEncoded_of_toLower isSign isTwo isLetter)

/-- So are two points. -/
theorem eq_of_isDoubleDot (isDots : isDoubleDot cs = true) :
    cs = ['.', '.'] ∨ Percent.hasEncoded cs = true := by
  unfold isDoubleDot at isDots
  split at isDots
  · next rest lower =>
    obtain ⟨c, others, rfl, isPoint, rfl⟩ := List.map_eq_cons_iff.1 lower
    have again : isSingleDot (others.map Char.toLower) = isSingleDot others := by
      simp only [isSingleDot, List.map_map, Function.comp_def, toLower_toLower]
    rw [again] at isDots
    rw [eq_of_toLower isPoint (by decide)]
    rcases eq_of_isSingleDot isDots with rfl | isEncoded
    · exact .inl rfl
    · exact .inr (by rw [Percent.hasEncoded, isEncoded, Bool.or_true])
  · next rest lower =>
    obtain ⟨a, others, rfl, isSign, lower⟩ := List.map_eq_cons_iff.1 lower
    obtain ⟨b, others, rfl, isTwo, lower⟩ := List.map_eq_cons_iff.1 lower
    obtain ⟨c, others, rfl, isLetter, -⟩ := List.map_eq_cons_iff.1 lower
    exact .inr (hasEncoded_of_toLower isSign isTwo isLetter)
  · cases isDots

/-! ## Segments that stand for identifiers -/

/-- Percent signs and hexadecimal digits stand in a path as they are. -/
theorem keeps_isPlainInPath : Percent.Keeps isPlainInPath := by
  refine ⟨by decide, fun c isHex => ?_⟩
  have isSmall : c.toNat < 128 := by
    unfold Percent.isHex Percent.value? at isHex
    split at isHex
    · next range => exact Nat.lt_of_le_of_lt (UInt32.le_iff_toNat_le.1 range.2) (by decide)
    · split at isHex
      · next range => exact Nat.lt_of_le_of_lt (UInt32.le_iff_toNat_le.1 range.2) (by decide)
      · split at isHex
        · next range => exact Nat.lt_of_le_of_lt (UInt32.le_iff_toNat_le.1 range.2) (by decide)
        · cases isHex
  have each : ∀ code < 128, Percent.isHex (Char.ofNat code) = true →
      isPlainInPath (Char.ofNat code) = true := by decide
  have isPlain := each c.toNat isSmall
  rw [Char.ofNat_toNat] at isPlain
  exact isPlain isHex

/-- What an identifier becomes is a part of it. -/
theorem lastOf_sublist (cs : List Char) :
    (lastOf cs).Sublist (tail cs) ∧ (tail cs).Sublist (cs.reverse.dropWhile isEdge).reverse ∧
      ((cs.reverse.dropWhile isEdge).reverse).Sublist cs := by
  refine ⟨?_, List.filter_sublist, ?_⟩
  · have behind : (lastOf cs).Sublist ((tail cs).takeWhile isInPath) := by
      have front := (List.takeWhile_sublist (!isSlash ·) (l := ((tail cs).takeWhile isInPath).reverse)).reverse
      rwa [List.reverse_reverse] at front
    exact behind.trans (List.takeWhile_sublist _)
  · have front := (List.dropWhile_sublist isEdge (l := cs.reverse)).reverse
    rwa [List.reverse_reverse] at front

/-- An identifier that may stand in a path stays whole. -/
theorem IsSegment.lastOf (isSegment : IsSegment id) :
    tail id.toList = id.toList ∧ lastOf id.toList = id.toList := by
  have atEnd : id.toList.reverse.dropWhile isEdge = id.toList.reverse := by
    have ends := isSegment.ends
    rw [← List.head?_reverse] at ends
    cases characters : id.toList.reverse with
    | nil => rfl
    | cons c rest =>
      rw [characters] at ends
      exact List.dropWhile_cons_of_neg (by simp [ends c rfl])
  have whole : tail id.toList = id.toList := by
    rw [tail, atEnd, List.reverse_reverse, List.filter_eq_self]
    exact fun c isIn => (isSegment.inside c isIn).2.2
  have inPath : id.toList.takeWhile isInPath = id.toList :=
    List.takeWhile_eq_self_iff.2 fun c isIn => (isSegment.inside c isIn).2.1
  have noSlash : id.toList.reverse.takeWhile (!isSlash ·) = id.toList.reverse :=
    List.takeWhile_eq_self_iff.2 fun c isIn => by
      rw [(isSegment.inside c (List.mem_reverse.1 isIn)).1]
      rfl
  refine ⟨whole, ?_⟩
  rw [Url.lastOf, whole, inPath, lastPart, noSlash, List.reverse_reverse]

/-- It is encoded, and stands for itself. -/
theorem IsSegment.decode (isSegment : IsSegment id) :
    Percent.decode (written id.toList) = utf8 id.toList := by
  have plain : Percent.hasEncoded id.toList = false :=
    Percent.hasEncoded_eq_false_iff.2 isSegment.plain
  have noPoint : (isSingleDot id.toList || isDoubleDot id.toList) = false := by
    rw [Bool.or_eq_false_iff, Bool.eq_false_iff, Bool.eq_false_iff]
    constructor
    · intro isDot
      rcases eq_of_isSingleDot isDot with same | isEncoded
      · exact isSegment.named.2.1 (String.toList_injective same)
      · rw [plain] at isEncoded
        cases isEncoded
    · intro areDots
      rcases eq_of_isDoubleDot areDots with same | isEncoded
      · exact isSegment.named.2.2 (String.toList_injective same)
      · rw [plain] at isEncoded
        cases isEncoded
  rw [written, noPoint, if_neg (by decide), keeps_isPlainInPath.decode_encode,
    Percent.decode_eq_utf8 plain]

/-- If the last segment stands for an identifier that is not empty, then nothing of the identifier was
dropped or cut off, and it holds no encoded byte. -/
theorem lastOf_of_decode (nonempty : id ≠ "")
    (stands : Percent.decode (written (lastOf id.toList)) = utf8 id.toList) :
    (isSingleDot id.toList || isDoubleDot id.toList) = false ∧ lastOf id.toList = id.toList ∧
      Percent.hasEncoded id.toList = false := by
  have noPoint : (isSingleDot (lastOf id.toList) || isDoubleDot (lastOf id.toList)) = false := by
    refine Bool.eq_false_iff.2 fun isPoint => nonempty ?_
    rw [written, isPoint, if_pos rfl] at stands
    exact String.toList_injective (Text.utf8_inj (show utf8 id.toList = utf8 [] from stands.symm))
  rw [written, noPoint, if_neg (by decide), keeps_isPlainInPath.decode_encode] at stands
  -- Decoding does not add bytes, so none may be missing.
  obtain ⟨isPart, isRest, isFront⟩ := lastOf_sublist id.toList
  have bytes : (utf8 (lastOf id.toList)).Sublist (utf8 id.toList) :=
    (isPart.trans (isRest.trans isFront)).flatMap _
  obtain ⟨atMost, fewer⟩ := Percent.length_decode (lastOf id.toList)
  have sameLength : (utf8 (lastOf id.toList)).length = (utf8 id.toList).length := by
    have noMore := bytes.length_le
    rw [stands] at atMost
    omega
  have same : lastOf id.toList = id.toList := Text.utf8_inj (bytes.eq_of_length sameLength)
  refine ⟨same ▸ noPoint, same, Bool.eq_false_iff.2 fun isEncoded => ?_⟩
  have missing := fewer (same.symm ▸ isEncoded)
  rw [stands] at missing
  omega

/-- An identifier that stays whole holds nothing that would be dropped or cut off. -/
theorem inside_of_lastOf (whole : lastOf cs = cs) :
    (∀ c ∈ cs, isSlash c = false ∧ isInPath c = true ∧ isKept c = true) ∧
      ∀ c ∈ cs.getLast?, isEdge c = false := by
  obtain ⟨isPart, isRest, isFront⟩ := lastOf_sublist cs
  rw [whole] at isPart
  constructor
  · intro c isIn
    have isLast : c ∈ lastOf cs := by
      rw [whole]
      exact isIn
    have inFront : c ∈ (tail cs).takeWhile isInPath :=
      List.mem_reverse.1 ((List.takeWhile_prefix _).subset (List.mem_reverse.1 isLast))
    exact ⟨isSlash_of_mem_lastPart isLast, List.mem_takeWhile_imp inFront,
      (List.mem_filter.1 ((List.takeWhile_prefix _).subset inFront)).2⟩
  · intro c isLast
    have kept : cs.reverse.dropWhile isEdge = cs.reverse := by
      rw [← List.reverse_inj, List.reverse_reverse]
      exact isFront.antisymm (isPart.trans isRest)
    have isFirst : (cs.reverse.dropWhile isEdge).head? = some c := by
      rw [kept, List.head?_reverse]
      exact isLast
    simpa [isFirst] using List.head?_dropWhile_not isEdge cs.reverse

/-- The segment stands for the identifier just if the identifier may stand in a path. -/
theorem decodedText?_written (nonempty : id ≠ "") :
    Percent.decodedText? (written (lastOf id.toList)) = some id ↔ IsSegment id := by
  rw [Percent.decodedText?, Text.fromUTF8?_eq_some_iff]
  constructor
  · intro stands
    obtain ⟨noPoint, whole, plain⟩ := lastOf_of_decode nonempty stands
    obtain ⟨inside, ends⟩ := inside_of_lastOf whole
    refine ⟨⟨nonempty, ?_, ?_⟩, inside, ends, Percent.hasEncoded_eq_false_iff.1 plain⟩
    · rintro rfl
      cases noPoint
    · rintro rfl
      cases noPoint
  · intro isSegment
    rw [isSegment.lastOf.2, isSegment.decode]

example : IsSegment "vm 42%" ∧ ¬IsSegment "vm-1#old" ∧ ¬IsSegment "vm%2D1" ∧ ¬IsSegment ".." := by
  decide

/-! ## Different identifiers -/

/-- No slash stands in a written segment. -/
theorem isSlash_of_mem_written {c : Char} (isIn : c ∈ written (lastOf cs)) : isSlash c = false := by
  unfold written at isIn
  split at isIn
  · exact absurd isIn List.not_mem_nil
  · rcases Percent.mem_encode isIn with isIn | rfl | isDigit
    · exact isSlash_of_mem_lastPart isIn
    · decide
    · refine Bool.eq_false_iff.2 fun isSlash => ?_
      rcases Bool.or_eq_true_iff.1 isSlash with same | same
      · rw [eq_of_beq same] at isDigit
        cases isDigit
      · rw [eq_of_beq same] at isDigit
        cases isDigit

/-- What stands behind a slash is the last part if there is no slash in it. -/
theorem lastPart_append (noSlash : ∀ c ∈ cs, isSlash c = false) (front : List Char) :
    lastPart (front ++ '/' :: cs) = cs := by
  have reversed : (front ++ '/' :: cs).reverse = cs.reverse ++ '/' :: front.reverse := by simp
  have apart : ∀ c ∈ cs.reverse, (!isSlash c) = true := fun c isIn => by
    rw [noSlash c (List.mem_reverse.1 isIn)]
    rfl
  rw [lastPart, reversed, List.takeWhile_append_of_pos apart, List.takeWhile_cons_of_neg (by decide),
    List.append_nil, List.reverse_reverse]

/-- The last segment stands behind a slash at the end of the path. -/
theorem exists_pathText_eq {last : String} (isLast : url.path.getLast? = some last) :
    ∃ before, url.pathText.toList = before ++ '/' :: last.toList := by
  obtain ⟨before, isPath⟩ := List.getLast?_eq_some_iff.1 isLast
  rw [pathText, isPath]
  by_cases none : before = []
  · subst none
    exact ⟨[], by rw [List.nil_append, String.intercalate_singleton]; simp⟩
  · refine ⟨("/" ++ "/".intercalate before).toList, ?_⟩
    rw [String.intercalate_append_of_ne_nil none (List.cons_ne_nil _ _), String.intercalate_singleton]
    simp

/-- Paths that end with different identifiers are different, if the identifiers may stand there. -/
theorem pathText_ne {other : String} {twin : Url} (isSegment : IsSegment id)
    (isSegmentToo : IsSegment other) (differ : id ≠ other)
    (isLast : url.path.getLast? = some (String.ofList (written (lastOf id.toList))))
    (isLastToo : twin.path.getLast? = some (String.ofList (written (lastOf other.toList)))) :
    url.pathText ≠ twin.pathText := by
  have ends {id : String} {url : Url} (isSegment : IsSegment id)
      (isLast : url.path.getLast? = some (String.ofList (written (lastOf id.toList)))) :
      Percent.decode (lastPart url.pathText.toList) = utf8 id.toList := by
    obtain ⟨before, isPath⟩ := exists_pathText_eq isLast
    rw [isPath, String.toList_ofList, lastPart_append (fun c isIn => isSlash_of_mem_written isIn),
      isSegment.lastOf.2, isSegment.decode]
  intro same
  have bytes : utf8 id.toList = utf8 other.toList := by
    rw [← ends isSegment isLast, ← ends isSegmentToo isLastToo, same]
  exact differ (String.toList_injective (Text.utf8_inj bytes))

end NodeScaler.Url
