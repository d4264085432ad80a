import NodeScaler.Text.Quoted

/-!
# What can be wrong with the configuration

Every flaw is fatal at start-up. The texts name the setting or the discovery string at
fault.

What exactly is malformed in a file is said by the TOML library, in words that change with its
version and that nothing in the program reads. So the flaw carries no such words, and `<toml>`
stands for them in its text.
-/

namespace NodeScaler

/-- Why the contents of a file cannot be had. -/
inductive FileFailure where
  /-- There is no such file. -/
  | missing
  /-- The path leads to a directory. -/
  | directory
  /-- The contents are not UTF-8. -/
  | notText
  /-- Anything else, with the words and the number of the operating system. -/
  | other (words : String) (number : Nat)
deriving DecidableEq, Repr

/-- The operating system's words for a failure. -/
def FileFailure.message : FileFailure → String
  | missing => "No such file or directory (os error 2)"
  | directory => "Is a directory (os error 21)"
  | notText => "stream did not contain valid UTF-8"
  | other words number => s!"{words} (os error {number})"

/-- A flaw of the configuration. -/
inductive ConfigError where
  /-- The cloud config at the path could not be read. -/
  | unreadable (path : String) (failure : FileFailure)
  /-- The cloud config is no TOML document, or a setting has the wrong type. -/
  | malformed
  /-- A required setting is absent or blank. -/
  | missingSetting (key : String)
  /-- A discovery string is not of its form. -/
  | invalidSpec (spec reason : String)
  /-- No discovery string was given. -/
  | noNodeGroups
  /-- More than one discovery string was given. -/
  | tooManyNodeGroups (count : Nat)
  /-- There is no backend of this name. -/
  | unknownBackend (name : String)
deriving DecidableEq, Repr

/-- The text of a flaw. -/
def ConfigError.message : ConfigError → String
  | unreadable path failure => s!"failed to read cloud config {path}: {failure.message}"
  | malformed => "failed to parse cloud config: <toml>"
  | missingSetting key => s!"{key} must be provided"
  | invalidSpec spec reason => s!"invalid node group spec {Text.quoted spec}: {reason}"
  | noNodeGroups => "must specify at least one node group with --nodes=<min>:<max>:<name>"
  | tooManyNodeGroups count => s!"only a single node group is supported, got {count}"
  | unknownBackend name => s!"vsphere manager does not exist: {name}"

end NodeScaler
