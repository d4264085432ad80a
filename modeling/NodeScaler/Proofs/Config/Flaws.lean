import Mathlib.Data.List.TakeWhile
import NodeScaler.Provider.Startup

/-!
# What is wrong with a configuration

Of all that is wrong with what is given at the start, one flaw is reported. The file comes first:
that it cannot be read, or the first required setting that is missing in it. Then comes the discovery
string, and then the backend. Which flaw is the first one is said here without following the checks,
and it is the one that they report.
-/

namespace NodeScaler

/-! ## Blanks -/

namespace Text

/-- If something remains behind the blanks, it does not begin with one. -/
theorem exists_mem_dropWhile {cs : List Char} (nonempty : cs.dropWhile isBlank ≠ []) :
    ∃ c ∈ cs.dropWhile isBlank, isBlank c = false :=
  ⟨_, List.head_mem nonempty, List.head_dropWhile_not isBlank nonempty⟩

/-- Nothing remains of a text just if it holds blanks only. -/
theorem trimBlanks_eq_nil_iff {cs : List Char} :
    trimBlanks cs = [] ↔ ∀ c ∈ cs, isBlank c = true := by
  rw [trimBlanks, List.reverse_eq_nil_iff, List.dropWhile_eq_nil_iff]
  constructor
  · intro rest
    by_contra some
    have nonempty : cs.dropWhile isBlank ≠ [] := fun none => some (List.dropWhile_eq_nil_iff.1 none)
    obtain ⟨c, isIn, noBlank⟩ := exists_mem_dropWhile nonempty
    rw [rest c (List.mem_reverse.2 isIn)] at noBlank
    cases noBlank
  · intro blank c isIn
    exact blank c ((List.dropWhile_suffix isBlank).subset (List.mem_reverse.1 isIn))

/-- What remains of a text does not hold blanks only. -/
theorem trimBlanks_trimBlanks_ne_nil {cs : List Char} (nonempty : trimBlanks cs ≠ []) :
    trimBlanks (trimBlanks cs) ≠ [] := by
  intro none
  have rest := trimBlanks_eq_nil_iff.1 none
  rw [trimBlanks, Ne, List.reverse_eq_nil_iff] at nonempty
  obtain ⟨c, isIn, noBlank⟩ := exists_mem_dropWhile nonempty
  rw [rest c (List.mem_reverse.2 isIn)] at noBlank
  cases noBlank

/-- A text is empty just if it has no characters. -/
theorem trim_eq_empty_iff {text : String} : trim text = "" ↔ trimBlanks text.toList = [] := by
  rw [trim, ← String.toList_inj, String.toList_ofList, String.toList_empty]

end Text

/-! ## Missing settings -/

namespace Cluster

variable {key : String} {written : Option String} {file : ClusterFile} {nameOption : Option String}

/-- The setting is absent or holds blanks only. -/
def isMissing (written : Option String) : Bool := written.all (Text.trim · == "")

/-- The required settings, in the order in which they are looked at, with the places where each of
them may be given. -/
def requirements (file : ClusterFile) (nameOption : Option String) :
    List (String × List (Option String)) :=
  [("cluster-name", [file.clusterName, nameOption]), ("server", [file.server]),
    ("user", [file.user]), ("password", [file.password]), ("template", [file.template])]

/-- The first of the required settings that is missing in every place. -/
def firstMissing? (file : ClusterFile) (nameOption : Option String) : Option String :=
  ((requirements file nameOption).find? fun (_, places) => places.all isMissing).map (·.1)

/-- A setting that is missing is reported. -/
theorem required_of_missing (missing : isMissing written = true) :
    required key written = .error (.missingSetting key) := by
  cases written with
  | none => rfl
  | some text => simp_all [isMissing, required, Text.nonBlank?]

/-- A setting that is not missing is taken without the blanks around it. -/
theorem required_of_given (given : isMissing written = false) :
    ∃ text, written = some text ∧ required key written = .ok (Text.trim text) := by
  cases written with
  | none => cases given
  | some text => exact ⟨text, rfl, by simp_all [isMissing, required, Text.nonBlank?]⟩

/-- The name of the cluster is missing if it is missing in both places. -/
theorem isMissing_name (inFile nameOption : Option String) :
    isMissing ((inFile.bind Text.nonBlank?).or nameOption) =
      (isMissing inFile && isMissing nameOption) := by
  cases inFile with
  | none => rfl
  | some text =>
    by_cases blank : Text.trim text = ""
    · simp [isMissing, Text.nonBlank?, blank]
    · have remains : Text.trim (Text.trim text) ≠ "" := by
        rw [Ne, Text.trim_eq_empty_iff, Text.trim, String.toList_ofList]
        exact Text.trimBlanks_trimBlanks_ne_nil (mt Text.trim_eq_empty_iff.2 blank)
      simp [isMissing, Text.nonBlank?, blank, beq_false_of_ne remains]

/-- The first setting that is missing is reported; if there is none, the file is taken. -/
theorem resolve_firstMissing (file : ClusterFile) (nameOption : Option String) :
    match firstMissing? file nameOption with
    | some key => resolve file nameOption = .error (.missingSetting key)
    | none => ∃ cluster, resolve file nameOption = .ok cluster := by
  have isName := isMissing_name file.clusterName nameOption
  unfold firstMissing? requirements
  simp only [List.all_cons, List.all_nil, Bool.and_true, List.find?_cons, ← isName]
  cases name : isMissing ((file.clusterName.bind Text.nonBlank?).or nameOption) with
  | true => simp [resolve, required_of_missing name, bind, Except.bind]
  | false =>
    obtain ⟨_, _, name⟩ := @required_of_given "cluster-name" _ name
    cases server : isMissing file.server with
    | true => simp [resolve, name, required_of_missing server, bind, Except.bind]
    | false =>
      obtain ⟨_, _, server⟩ := @required_of_given "server" _ server
      cases user : isMissing file.user with
      | true => simp [resolve, name, server, required_of_missing user, bind, Except.bind]
      | false =>
        obtain ⟨_, _, user⟩ := @required_of_given "user" _ user
        cases password : isMissing file.password with
        | true => simp [resolve, name, server, user, required_of_missing password, bind, Except.bind]
        | false =>
          obtain ⟨_, _, password⟩ := @required_of_given "password" _ password
          cases template : isMissing file.template with
          | true =>
            simp [resolve, name, server, user, password, required_of_missing template, bind,
              Except.bind]
          | false =>
            obtain ⟨_, _, template⟩ := @required_of_given "template" _ template
            simp [resolve, name, server, user, password, template, bind, Except.bind, pure,
              Except.pure]

/-- A file is refused just if a required setting is missing, and the first one is reported. -/
theorem resolve_eq_error_iff {error : ConfigError} :
    resolve file nameOption = .error error ↔
      ∃ key, firstMissing? file nameOption = some key ∧ error = .missingSetting key := by
  have whole := resolve_firstMissing file nameOption
  cases first : firstMissing? file nameOption with
  | some key =>
    rw [first] at whole
    simp [show resolve file nameOption = _ from whole, eq_comm]
  | none =>
    rw [first] at whole
    obtain ⟨cluster, isCluster⟩ := whole
    simp [isCluster]

end Cluster

/-! ## Flaws -/

namespace StartOptions

variable {options : StartOptions} {error : ConfigError}

/-- The settings that are given in a file; without a file there are none. -/
def settings (options : StartOptions) : Except ConfigError ClusterFile :=
  match options.config with
  | none => .ok .empty
  | some config => config.read

/-- The file can be read and nothing is missing in it. -/
def IsComplete (options : StartOptions) : Prop :=
  ∃ file, options.settings = .ok file ∧ Cluster.firstMissing? file options.clusterName = none

/-- The first thing that is wrong with what is given. -/
inductive Flaw (options : StartOptions) : ConfigError → Prop where
  /-- The file cannot be read. -/
  | file {error : ConfigError} (unread : options.settings = .error error) : Flaw options error
  /-- A required setting is missing. -/
  | setting {file : ClusterFile} {key : String} (reads : options.settings = .ok file)
      (missing : Cluster.firstMissing? file options.clusterName = some key) :
      Flaw options (.missingSetting key)
  /-- There is no discovery string. -/
  | none (complete : options.IsComplete) (isNone : options.specs = []) : Flaw options .noNodeGroups
  /-- There are several discovery strings. -/
  | several (complete : options.IsComplete) (isSeveral : 2 ≤ options.specs.length) :
      Flaw options (.tooManyNodeGroups options.specs.length)
  /-- The discovery string is not valid. -/
  | spec {written : String} {error : ConfigError} (complete : options.IsComplete)
      (isOne : options.specs = [written]) (invalid : GroupSpec.parse written true = .error error) :
      Flaw options error
  /-- The backend is unknown. -/
  | backend {written name : String} {spec : GroupSpec} (complete : options.IsComplete)
      (isOne : options.specs = [written]) (valid : GroupSpec.parse written true = .ok spec)
      (named : (options.backend.bind fun bytes => String.fromUTF8? ⟨bytes.toArray⟩) = some name)
      (unknown : Text.trim name ≠ "rest") : Flaw options (.unknownBackend (Text.trim name))

/-- All is in order with what is given: it describes this cluster and this node group. -/
structure InOrder (options : StartOptions) (cluster : Cluster) (spec : GroupSpec) : Prop where
  /-- The file and the name of the cluster. -/
  cluster : Cluster.load options.config options.clusterName = .ok cluster
  /-- The discovery string. -/
  spec : ∃ written, options.specs = [written] ∧ GroupSpec.parse written true = .ok spec
  /-- The backend: the default one, or one that is known. -/
  backend : ∀ name, (options.backend.bind fun bytes => String.fromUTF8? ⟨bytes.toArray⟩) = some name →
    Text.trim name = "rest"

/-- The configuration is that of the settings. -/
theorem load_eq_settings (options : StartOptions) :
    Cluster.load options.config options.clusterName =
      options.settings >>= fun file => Cluster.resolve file options.clusterName := by
  unfold settings Cluster.load
  cases options.config <;> rfl

/-- A file without missing settings is taken. -/
theorem IsComplete.load (complete : options.IsComplete) :
    ∃ cluster, Cluster.load options.config options.clusterName = .ok cluster := by
  obtain ⟨file, reads, noneMissing⟩ := complete
  have resolved := Cluster.resolve_firstMissing file options.clusterName
  rw [noneMissing] at resolved
  rw [load_eq_settings, reads]
  exact resolved

/-- The first flaw is reported. -/
theorem Flaw.check (flaw : options.Flaw error) : options.check = .error error := by
  unfold StartOptions.check
  cases flaw with
  | file unread =>
    rw [load_eq_settings, unread]
    rfl
  | setting reads missing =>
    have resolved := Cluster.resolve_eq_error_iff.2 ⟨_, missing, rfl⟩
    rw [load_eq_settings, reads]
    simp [resolved, bind, Except.bind]
  | none complete isNone =>
    obtain ⟨cluster, loaded⟩ := complete.load
    rw [loaded, isNone]
    rfl
  | several complete isSeveral =>
    obtain ⟨cluster, loaded⟩ := complete.load
    match isList : options.specs with
    | [] | [written] => simp [isList] at isSeveral
    | first :: second :: rest =>
      rw [loaded]
      rfl
  | spec complete isOne invalid =>
    obtain ⟨cluster, loaded⟩ := complete.load
    rw [loaded, isOne]
    simp [GroupSpec.single, invalid, bind, Except.bind]
  | backend complete isOne valid named unknown =>
    obtain ⟨cluster, loaded⟩ := complete.load
    rw [loaded, isOne, Backend.ofSetting, named]
    simp [GroupSpec.single, valid, Backend.ofName, unknown, bind, Except.bind]

/-- Either something is wrong with what is given, or all is in order. -/
theorem flaw_or_inOrder (options : StartOptions) :
    (∃ error, options.Flaw error) ∨ ∃ cluster spec, options.InOrder cluster spec := by
  cases reads : options.settings with
  | error error => exact .inl ⟨error, .file reads⟩
  | ok file =>
    cases noneMissing : Cluster.firstMissing? file options.clusterName with
    | some key => exact .inl ⟨_, .setting reads noneMissing⟩
    | none =>
      have complete : options.IsComplete := ⟨file, reads, noneMissing⟩
      obtain ⟨cluster, loaded⟩ := complete.load
      match isList : options.specs with
      | [] => exact .inl ⟨_, .none complete isList⟩
      | first :: second :: rest =>
        exact .inl ⟨_, .several complete (by rw [isList]; exact Nat.le_add_left 2 _)⟩
      | [written] =>
        cases parsed : GroupSpec.parse written true with
        | error error => exact .inl ⟨error, .spec complete isList parsed⟩
        | ok spec =>
          by_cases known : ∀ name,
              (options.backend.bind fun bytes => String.fromUTF8? ⟨bytes.toArray⟩) = some name →
                Text.trim name = "rest"
          · exact .inr ⟨cluster, spec, loaded, ⟨written, isList, parsed⟩, known⟩
          · obtain ⟨name, named, unknown⟩ : ∃ name, _ ∧ Text.trim name ≠ "rest" := by
              simpa only [not_forall, exists_prop] using known
            exact .inl ⟨_, .backend complete isList parsed named unknown⟩

/-- When all is in order the checks pass. -/
theorem InOrder.check {cluster : Cluster} {spec : GroupSpec} (inOrder : options.InOrder cluster spec) :
    options.check = .ok ⟨cluster, spec, .rest⟩ := by
  obtain ⟨loaded, ⟨written, isOne, valid⟩, known⟩ := inOrder
  have backend : Backend.ofSetting options.backend = .ok .rest := by
    unfold Backend.ofSetting
    cases named : options.backend.bind fun bytes => String.fromUTF8? ⟨bytes.toArray⟩ with
    | none => rfl
    | some name => exact if_pos (known name named)
  simp [StartOptions.check, loaded, isOne, GroupSpec.single, valid, backend, bind, Except.bind, pure,
    Except.pure]

/-- What is in order is one cluster and one node group. -/
theorem InOrder.unique {cluster other : Cluster} {spec another : GroupSpec}
    (inOrder : options.InOrder cluster spec) (inOrderToo : options.InOrder other another) :
    cluster = other ∧ spec = another := by
  have same := Except.ok.inj (inOrder.check.symm.trans inOrderToo.check)
  exact ⟨congrArg StartPlan.cluster same, congrArg StartPlan.spec same⟩

end StartOptions

end NodeScaler
