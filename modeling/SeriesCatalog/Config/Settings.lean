import SeriesCatalog.Config.Toml.Reader
import SeriesCatalog.Service.Policy
import SeriesCatalog.Text.Numeral
import SeriesCatalog.Words

/-!
# Settings

Six settings may be set or not.  They come from several places, of which some fill in what
is not set yet and others override what is set.

* `Settings.ofToml?`: the settings of a configuration file.
* `Settings.fill`: fills in what is not set.
* `Settings.applyVariables`: overrides settings by environment variables.
-/

namespace SeriesCatalog

/-- The settings of the program. -/
structure Settings where
  /-- The file with the records. -/
  dataPath? : Option String := none
  /-- The file with a configuration of the logs. -/
  logConfig? : Option String := none
  /-- The directory of the logs. -/
  logDir? : Option String := none
  /-- The level of the logs. -/
  logLevel? : Option String := none
  /-- The number of old logs to keep. -/
  logRetention? : Option Nat := none
  /-- The policy for unbounded requests without conditions. -/
  policy? : Option Policy := none
deriving DecidableEq, Repr

/-- Why settings cannot be put together. -/
inductive SettingsError
  /-- A file cannot be read. -/
  | io (path complaint : String)
  /-- A file is no configuration. -/
  | toml
  /-- A variable has a value that cannot be used. -/
  | invalid (key complaint : String)
deriving DecidableEq, Repr

namespace SettingsError

def message : SettingsError → String
  | io path complaint => s!"I/O error reading {path}: {complaint}"
  | toml => "TOML: the text is no configuration"
  | invalid key complaint => s!"Invalid setting {key}: {complaint}"

end SettingsError

namespace Settings

def policy (s : Settings) : Policy :=
  s.policy?.getD .standard

/-- Fills in what is not set. -/
def fill (s other : Settings) : Settings :=
  { dataPath? := s.dataPath? <|> other.dataPath?
    logConfig? := s.logConfig? <|> other.logConfig?
    logDir? := s.logDir? <|> other.logDir?
    logLevel? := s.logLevel? <|> other.logLevel?
    logRetention? := s.logRetention? <|> other.logRetention?
    policy? := s.policy? <|> other.policy? }

/-- The greatest number of old logs. -/
def greatestRetention : Nat := Words.greatest64

/-- The text at a key, if there is one; the answer is `none` if another value is there. -/
def textAt? (key : String) (t : Toml.Table) : Option (Option String) :=
  match Entries.lookup key t with
  | none => some none
  | some (.string s) => some (some s)
  | some _ => none

/-- The number at a key, if there is one. -/
def retentionAt? (key : String) (t : Toml.Table) : Option (Option Nat) :=
  match Entries.lookup key t with
  | none => some none
  | some (.integer n) =>
      if 0 ≤ n && n ≤ greatestRetention then some (some n.toNat) else none
  | some _ => none

/-- The policy of a value: its name, or a table with its name and nothing in it. -/
def policyOfItem? : Toml.Item → Option Policy
  | .string s => Policy.ofName? s
  | .table _ [(key, .table _ [])] => Policy.ofName? key
  | .table _ [(key, .array [])] => Policy.ofName? key
  | _ => none

/-- The policy at a key, if there is one. -/
def policyAt? (key : String) (t : Toml.Table) : Option (Option Policy) :=
  match Entries.lookup key t with
  | none => some none
  | some v => (policyOfItem? v).map some

/-- The settings in a table, in which other keys mean nothing. -/
def ofTable? (t : Toml.Table) : Option Settings := do
  let dataPath ← textAt? "data_path" t
  let logConfig ← textAt? "log_config" t
  let logDir ← textAt? "log_dir" t
  let logLevel ← textAt? "log_level" t
  let logRetention ← retentionAt? "log_retention" t
  let policy ← policyAt? "empty_filter_policy" t
  pure ⟨dataPath, logConfig, logDir, logLevel, logRetention, policy⟩

/-- The settings of a configuration file. -/
def ofToml? (text : String) : Option Settings := do
  let t ← Toml.read? text
  ofTable? t

abbrev Variables := String → Option String

/-- The variable of the file with the records. -/
def dataVariable : String := "SERIESQUERY_DATA"

/-- The variable of the file with a configuration of the logs. -/
def logConfigVariable : String := "SERIESQUERY_LOG_CONFIG"

/-- The variable of the directory of the logs. -/
def logDirVariable : String := "SERIESQUERY_LOG_DIR"

/-- The variable of the level of the logs. -/
def logLevelVariable : String := "SERIESQUERY_LOG_LEVEL"

/-- The variable of the number of old logs. -/
def logRetentionVariable : String := "SERIESQUERY_LOG_RETENTION"

def policyVariable : String := "SERIESQUERY_EMPTY_FILTER"

/-- Overrides the settings whose variables hold texts. -/
def applyTexts (v : Variables) (s : Settings) : Settings :=
  { s with
    dataPath? := v dataVariable <|> s.dataPath?
    logConfig? := v logConfigVariable <|> s.logConfig?
    logDir? := v logDirVariable <|> s.logDir?
    logLevel? := v logLevelVariable <|> s.logLevel? }

/-- Overrides the number of old logs. -/
def applyRetention (v : Variables) (s : Settings) : Except SettingsError Settings :=
  match v logRetentionVariable with
  | none => .ok s
  | some text =>
      match Text.readUnsigned greatestRetention text with
      | .ok n => .ok { s with logRetention? := some n }
      | .error e => .error (.invalid logRetentionVariable e.message)

def applyPolicy (v : Variables) (s : Settings) : Except SettingsError Settings :=
  match v policyVariable with
  | none => .ok s
  | some text =>
      match Policy.parse text with
      | .ok p => .ok { s with policy? := some p }
      | .error name => .error (.invalid policyVariable (Policy.unknown name))

/-- Overrides settings by environment variables.  What was overridden before an error stays
overridden. -/
def applyVariables (v : Variables) (s : Settings) : Settings × Option SettingsError :=
  let s := s.applyTexts v
  match s.applyRetention v with
  | .error e => (s, some e)
  | .ok s =>
      match s.applyPolicy v with
      | .error e => (s, some e)
      | .ok s => (s, none)

end Settings

end SeriesCatalog
