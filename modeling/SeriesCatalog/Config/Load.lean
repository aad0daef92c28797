import SeriesCatalog.Config.FileTree
import SeriesCatalog.Config.Settings

/-!
# Loading settings

The settings come from the command line, the environment and up to four files: the one that
the command line names, the one that a variable names, one in the home directory and one in
the working directory.  Of two files, the earlier wins; the environment wins over files,
and the command line over the environment.

* `Settings.load`: the settings of files and environment.
* `Settings.override`: the settings with those of the command line.
-/

namespace SeriesCatalog
namespace Settings

/-- The variable of a file with settings. -/
def configVariable : String := "SERIESQUERY_CONFIG"

/-- The variables of the home directory, of which the first that is set counts. -/
def homeVariables : List String := ["USERPROFILE", "HOME"]

/-- The name of a file with settings. -/
def fileName : String := "seriesquery.toml"

/-- The directory of settings in a home directory. -/
def homeFolder : String := ".config"

/-- The files that are read if they are there. -/
def implicitPaths (v : Variables) (t : FileTree) : List String :=
  let home? := homeVariables.findSome? v
  (v configVariable).toList
    ++ (home?.map fun home =>
      FileTree.join (FileTree.join home homeFolder) fileName).toList
    ++ [FileTree.join t.workPath fileName]

def ofFile (t : FileTree) (path : String) : Except SettingsError Settings :=
  match t.readText path with
  | .error complaint => .error (.io path complaint)
  | .ok text =>
      match ofToml? text with
      | some s => .ok s
      | none => .error .toml

/-- Fills in what is not set from files, one after the other. -/
def fillFrom (t : FileTree) (s : Settings) : List String → Except SettingsError Settings
  | [] => .ok s
  | path :: l =>
      match ofFile t path with
      | .ok other => fillFrom t (s.fill other) l
      | .error e => .error e

def readPaths (v : Variables) (t : FileTree) (explicit? : Option String) : List String :=
  explicit?.toList ++ (implicitPaths v t).filter t.stands

/-- The settings of files and environment. -/
def load (v : Variables) (t : FileTree) (explicit? : Option String) :
    Except SettingsError Settings := do
  let s ← fillFrom t {} (readPaths v t explicit?)
  match s.applyVariables v with
  | (s, none) => pure s
  | (_, some e) => throw e

/-- The settings that the command line gives. -/
structure Flags where
  dataPath? : Option String := none
  policy? : Option Policy := none
  logLevel? : Option String := none
deriving DecidableEq, Repr

/-- Overrides settings by those of the command line. -/
def override (s : Settings) (f : Flags) : Settings :=
  { s with
    dataPath? := f.dataPath? <|> s.dataPath?
    policy? := f.policy? <|> s.policy?
    logLevel? := f.logLevel? <|> s.logLevel? }

end Settings
end SeriesCatalog
