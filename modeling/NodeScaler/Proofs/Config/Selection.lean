import NodeScaler.Proofs.Provider.Starting
import NodeScaler.Proofs.Text.Encoding
import NodeScaler.Proofs.Text.Numeral

/-!
# Which backend is selected

The setting in the environment is a sequence of bytes. It selects a backend if it spells the name of
one, and it is refused if it spells any other name; then nothing is sent. Without the setting there is
the default. The default is also what bytes select that spell nothing, which is not what a setting
that is no name of a backend should come to.
-/

namespace NodeScaler

namespace Backend

variable {bytes : List UInt8} {name : String} {setting : Option (List UInt8)} {backend : Backend}
  {error : ConfigError}

/-- The bytes spell a name, between blanks that do not belong to it. -/
inductive Spells : List UInt8 → String → Prop where
  /-- Blanks may come before and after. -/
  | intro {before after : List Char} {name : String} (blankBefore : ∀ c ∈ before, Text.isBlank c = true)
      (bare : Text.Bare name.toList) (blankAfter : ∀ c ∈ after, Text.isBlank c = true) :
      Spells (Text.utf8 (before ++ name.toList ++ after)) name

/-- Bytes spell what remains of their text. -/
theorem spells_iff :
    Spells bytes name ↔ ∃ text, String.fromUTF8? ⟨bytes.toArray⟩ = some text ∧ Text.trim text = name := by
  constructor
  · rintro @⟨before, after, name, blankBefore, bare, blankAfter⟩
    refine ⟨String.ofList (before ++ name.toList ++ after), Text.fromUTF8?_eq_some_iff.2 ?_, ?_⟩
    · rw [String.toList_ofList]
    · rw [Text.trim, String.toList_ofList, bare.trimBlanks_around blankBefore blankAfter,
        String.ofList_toList]
  · rintro ⟨text, reads, rfl⟩
    have remains : Text.trimBlanks text.toList = (Text.trim text).toList := String.toList_ofList.symm
    obtain ⟨bare, before, after, whole, blankBefore, blankAfter⟩ := Text.trimBlanks_eq_iff.1 remains
    rw [Text.fromUTF8?_eq_some_iff.1 reads, whole]
    exact .intro blankBefore bare blankAfter

/-- What a setting selects; all others are refused. -/
inductive Selects : Option (List UInt8) → Backend → Prop where
  /-- Without a setting there is the default. -/
  | unset : Selects none .rest
  /-- A setting selects the backend whose name it spells. -/
  | named {bytes : List UInt8} {backend : Backend} (spells : Spells bytes backend.name) :
      Selects (some bytes) backend
  /-- Bytes that are no UTF-8 select the default too. -/
  | garbled {bytes : List UInt8} (noText : ∀ text : String, bytes ≠ Text.utf8 text.toList) :
      Selects (some bytes) .rest

/-- The setting spells a name that no backend has. -/
inductive Misnames : Option (List UInt8) → String → Prop where
  /-- It spells a name, and all backends have others. -/
  | intro {bytes : List UInt8} {name : String} (spells : Spells bytes name)
      (unknown : ∀ backend : Backend, name ≠ backend.name) : Misnames (some bytes) name

/-- A setting that can be read counts by its name. -/
theorem ofSetting_of_spells (spells : Spells bytes name) : ofSetting (some bytes) =
    if name = Backend.rest.name then .ok .rest else .error (.unknownBackend name) := by
  obtain ⟨text, reads, rfl⟩ := spells_iff.1 spells
  simp only [ofSetting, Option.bind_some, reads, ofName]
  rfl

/-- A setting that cannot be read counts as absent. -/
theorem ofSetting_of_garbled (noText : ∀ text : String, bytes ≠ Text.utf8 text.toList) :
    ofSetting (some bytes) = .ok .rest := by
  simp only [ofSetting, Option.bind_some, Text.fromUTF8?_eq_none_iff.2 noText]

/-- Every setting selects a backend or misnames one. -/
theorem selects_or_misnames (setting : Option (List UInt8)) :
    (∃ backend, Selects setting backend) ∨ ∃ name, Misnames setting name := by
  rcases setting with - | bytes
  · exact .inl ⟨.rest, .unset⟩
  · by_cases noText : ∀ text : String, bytes ≠ Text.utf8 text.toList
    · exact .inl ⟨.rest, .garbled noText⟩
    · obtain ⟨text, isText⟩ : ∃ text : String, bytes = Text.utf8 text.toList := by
        simpa only [not_forall, not_not] using noText
      have spells := spells_iff.2 ⟨text, Text.fromUTF8?_eq_some_iff.2 isText, rfl⟩
      by_cases known : Text.trim text = Backend.rest.name
      · exact .inl ⟨.rest, .named (known ▸ spells)⟩
      · exact .inr ⟨_, .intro spells fun | .rest => known⟩

/-- The backend that a setting selects is the one that is taken. -/
theorem Selects.ofSetting (selects : Selects setting backend) :
    Backend.ofSetting setting = .ok backend := by
  cases selects with
  | unset => rfl
  | named spells =>
    cases backend with
    | rest => rw [ofSetting_of_spells spells, if_pos rfl]
  | garbled noText => exact ofSetting_of_garbled noText

/-- A setting that misnames a backend is refused. -/
theorem Misnames.ofSetting (misnames : Misnames setting name) :
    Backend.ofSetting setting = .error (.unknownBackend name) := by
  obtain ⟨spells, unknown⟩ := misnames
  rw [ofSetting_of_spells spells, if_neg (unknown .rest)]

/-- A backend is taken just if the setting selects it. -/
theorem ofSetting_eq_ok_iff : ofSetting setting = .ok backend ↔ Selects setting backend := by
  refine ⟨fun taken => ?_, Selects.ofSetting⟩
  rcases selects_or_misnames setting with ⟨other, selects⟩ | ⟨name, misnames⟩
  · rw [selects.ofSetting] at taken
    exact Except.ok.inj taken ▸ selects
  · rw [misnames.ofSetting] at taken
    cases taken

/-- A setting is refused just if it misnames a backend. -/
theorem ofSetting_eq_error_iff :
    ofSetting setting = .error error ↔ ∃ name, Misnames setting name ∧ error = .unknownBackend name := by
  constructor
  · intro refused
    rcases selects_or_misnames setting with ⟨backend, selects⟩ | ⟨name, misnames⟩
    · rw [selects.ofSetting] at refused
      cases refused
    · rw [misnames.ofSetting] at refused
      exact ⟨name, misnames, (Except.error.inj refused).symm⟩
  · rintro ⟨name, misnames, rfl⟩
    exact misnames.ofSetting

end Backend

namespace StartOptions

open Backend (Selects Misnames Spells)

/-- The checks before that of the backend pass. -/
def IsOtherwiseSound (options : StartOptions) : Prop :=
  options.IsComplete ∧ ∃ written spec, options.specs = [written] ∧
    GroupSpec.parse written true = .ok spec

/-- With a name that no backend has something is wrong, and it is this name unless it is something
before it. -/
theorem exists_flaw_of_misnames {options : StartOptions} {name : String}
    (misnames : Misnames options.backend name) :
    ∃ error, options.Flaw error ∧ (options.IsOtherwiseSound → error = .unknownBackend name) := by
  have refused := misnames.ofSetting
  obtain ⟨error, flaw⟩ | ⟨cluster, spec, inOrder⟩ := flaw_or_inOrder options
  · refine ⟨error, flaw, ?_⟩
    rintro ⟨complete, written, spec, isOne, valid⟩
    have reports : options.check = .error (.unknownBackend name) := by
      obtain ⟨cluster, loaded⟩ := complete.load
      simp [StartOptions.check, loaded, isOne, GroupSpec.single, valid, refused, bind, Except.bind]
    exact Except.error.inj (flaw.check.symm.trans reports)
  · have taken := inOrder.check
    obtain ⟨loaded, ⟨written, isOne, valid⟩, -⟩ := inOrder
    simp [StartOptions.check, loaded, isOne, GroupSpec.single, valid, refused, bind, Except.bind]
      at taken

/-- **The backend setting.** A setting selects a backend just if it is absent, is no UTF-8, or is the
name of the backend between blanks; whoever looks up the environment is not told an unreadable value
from none, so such a value selects the default. It is refused just if it is UTF-8 and, without the
blanks around it, no backend's name, and the refusal has this name.

A start with a refused setting asks nothing, since `check` comes before the first request. It reports
the refusal itself if the cloud config and the discovery string, which are checked first, are sound. -/
theorem setting_decides (options : StartOptions) :
    (∀ backend, Backend.ofSetting options.backend = .ok backend ↔ Selects options.backend backend) ∧
    (∀ error, Backend.ofSetting options.backend = .error error ↔
      ∃ name, Misnames options.backend name ∧ error = .unknownBackend name) ∧
    ∀ name, Misnames options.backend name →
      ∃ error, (options.IsOtherwiseSound → error = .unknownBackend name) ∧
        ∀ (σ : Type) (server : Handler Http σ) (cells : List Nat) (state : σ),
          options.start.run.transcript (Targets.answer.sum server) (cells, state) =
            ⟨[], some (.error (.config error)), (cells, state)⟩ := by
  refine ⟨fun backend => Backend.ofSetting_eq_ok_iff, fun error => Backend.ofSetting_eq_error_iff, ?_⟩
  intro name misnames
  obtain ⟨error, flaw, isUnknown⟩ := exists_flaw_of_misnames misnames
  exact ⟨error, isUnknown, fun σ server cells state => start_flaw flaw server cells state⟩

/-- The setting is absent or spells the name of the one backend. -/
def NamesRest (options : StartOptions) : Prop :=
  options.backend = none ∨ ∃ bytes, options.backend = some bytes ∧ Spells bytes Backend.rest.name

/-- The small start with a name that no backend has, between blanks. -/
def misnamed : StartOptions := { small with backend := some (Text.utf8 " vsphere\n".toList) }

/-- The small start is refused for this name, and nothing is sent. -/
theorem misnamed_stops : Misnames misnamed.backend "vsphere" ∧
    misnamed.start.run.transcript (Targets.answer.sum reciting) ([], ["\"token\""]) =
      ⟨[], some (.error (.config (.unknownBackend "vsphere"))), ([], ["\"token\""])⟩ := by
  have misnames : Misnames misnamed.backend "vsphere" := by
    have noBlank : "vsphere".toList.all (!Text.isBlank ·) = true := by decide
    have bare : Text.Bare "vsphere".toList := .of_not_isBlank fun c isIn => by
      simpa using List.all_eq_true.1 noBlank c isIn
    have spells : Spells (Text.utf8 ([' '] ++ "vsphere".toList ++ ['\n'])) "vsphere" :=
      .intro (List.all_eq_true.1 (by decide)) bare (List.all_eq_true.1 (by decide))
    exact .intro spells fun | .rest => by decide
  have read : (misnamed.settings.toOption.map (Cluster.firstMissing? · misnamed.clusterName)) =
      some none := by decide +kernel
  obtain ⟨file, isFile, noneMissing⟩ := Option.map_eq_some_iff.1 read
  have sound : misnamed.IsOtherwiseSound := by
    refine ⟨⟨file, ?_, noneMissing⟩, "0:5:workers", ⟨"workers", 0, 5⟩, rfl, by decide⟩
    cases reads : misnamed.settings with
    | error error =>
      rw [reads] at isFile
      cases isFile
    | ok other =>
      rw [reads] at isFile
      exact congrArg Except.ok (Option.some.inj isFile)
  obtain ⟨error, isUnknown, stops⟩ := (setting_decides misnamed).2.2 "vsphere" misnames
  rw [isUnknown sound] at stops
  exact ⟨misnames, stops _ reciting [] _⟩

/-- The backend is taken only by its name or by default, and with any other setting nothing is sent. -/
structure FailsClosed (options : StartOptions) : Prop where
  /-- The name of the backend selects it, and so does no setting. -/
  selected : Backend.ofSetting options.backend = .ok .rest ↔ options.NamesRest
  /-- All else is refused as unknown. -/
  refused : ¬options.NamesRest → ∃ name, Backend.ofSetting options.backend = .error (.unknownBackend name)
  /-- It ends the start before the first request. -/
  silent : ¬options.NamesRest → ∀ (σ : Type) (server : Handler Http σ) (cells : List Nat) (state : σ),
    (options.start.run.transcript (Targets.answer.sum server) (cells, state)).exchanges = []

/-- The small start with a setting that is no text. -/
def garbled : StartOptions := { small with backend := some [0xFF, 0xFE] }

/-- A setting that is no text is taken for none, and the start goes on to the login and to reading tags. -/
theorem garbled_starts : ¬garbled.FailsClosed ∧
    (sent (garbled.start.run.transcript (Targets.answer.sum reciting)
      ([], ["\"token\"", "[]", "[]"])).exchanges).length = 3 := by
  have noText : String.fromUTF8? ⟨[0xFF, 0xFE].toArray⟩ = none := by decide
  constructor
  · intro closed
    have taken : Backend.ofSetting garbled.backend = .ok .rest :=
      Backend.ofSetting_of_garbled (Text.fromUTF8?_eq_none_iff.1 noText)
    rcases closed.selected.1 taken with isNone | ⟨bytes, isSome, spells⟩
    · cases isNone
    · obtain ⟨text, reads, -⟩ := Backend.spells_iff.1 spells
      rw [← Option.some.inj isSome, noText] at reads
      cases reads
  · decide +kernel

end StartOptions

end NodeScaler
