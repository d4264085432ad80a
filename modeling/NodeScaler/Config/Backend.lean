import NodeScaler.Config.Error
import NodeScaler.Text.Blank

/-!
# Choice of the backend

One backend exists, the REST interface of the platform, and it is the default. The
environment may name it, with blanks around the name. A setting that is not UTF-8 counts
as absent, so it selects the default; any other name is refused.
-/

namespace NodeScaler

/-- The ways to reach the platform. -/
inductive Backend where
  /-- The platform's REST interface. -/
  | rest
deriving DecidableEq, Repr

namespace Backend

/-- The name of a backend. -/
def name : Backend → String
  | rest => "rest"

/-- The environment variable that selects the backend. -/
def variableName : String := "VSPHERE_MANAGER"

/-- The backend of a name; blanks around it do not matter. -/
def ofName (written : String) : Except ConfigError Backend :=
  if Text.trim written = "rest" then .ok .rest
  else .error (.unknownBackend (Text.trim written))

/-- The backend selected by the bytes of the environment variable, if it is set. -/
def ofSetting (setting : Option (List UInt8)) : Except ConfigError Backend :=
  match setting.bind fun bytes => String.fromUTF8? ⟨bytes.toArray⟩ with
  | none => .ok .rest
  | some written => ofName written

end Backend

end NodeScaler
