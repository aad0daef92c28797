import SeriesCatalog.Command.Arguments
import SeriesCatalog.Logging.Files

/-!
# The paths of a run

A run touches few files: those with settings, the one with the records and the logs.  The
paths of the latter two are settings themselves, so that the settings come first.

* `Invocation.settingsPaths`: the files with settings.
* `Invocation.references`: the variables that a setting refers to.
* `Invocation.workPaths`: the files that the settings name.
-/

namespace SeriesCatalog
namespace Command

def variableNames : List String :=
  Settings.homeVariables
    ++ [Settings.configVariable, Settings.dataVariable, Settings.logConfigVariable,
      Settings.logDirVariable, Settings.logLevelVariable, Settings.logRetentionVariable,
      Settings.policyVariable]

/-- The paths of the files with settings. -/
def Invocation.settingsPaths (i : Invocation) (v : Settings.Variables) (t : FileTree) :
    List String :=
  i.config?.toList ++ Settings.implicitPaths v t

/-- The settings that are in effect. -/
def Invocation.settings (i : Invocation) (v : Settings.Variables) (t : FileTree) :
    Except SettingsError Settings :=
  (·.override i.flags) <$> Settings.load v t i.config?

/-- The paths of the files that settings name, and that of the directory of the logs. -/
def workPathsOf (v : Settings.Variables) (s : Settings) : List String :=
  let logs := LogFiles.inDirectory v (s.logDir?.getD "") none
  s.dataPath?.toList ++ s.logDir?.toList ++ [logs.general, logs.audit]

/-- The paths of the files that the settings in effect name. -/
def Invocation.workPaths (i : Invocation) (v : Settings.Variables) (t : FileTree) :
    List String :=
  match i.settings v t with
  | .ok s => workPathsOf v s
  | .error _ => []

/-- The variables that the directory of the logs refers to. -/
def Invocation.references (i : Invocation) (v : Settings.Variables) (t : FileTree) :
    List String :=
  match i.settings v t with
  | .ok s => (Reference.names (s.logDir?.getD "").toList).map String.ofList
  | .error _ => []

/-- Whether the standard input is read. -/
def Invocation.readsInput (i : Invocation) : Bool :=
  i.task = .serve

end Command
end SeriesCatalog
