import SeriesCatalog.Config.Load
import SeriesCatalog.Logging.Reference
import SeriesCatalog.Logging.Level

/-!
# Log files

Records at the level that is set, and at graver ones, are appended to one of two files:
those of the audit to one, all others to the other.

* `LogFiles.open?`: makes the directory and the two files, as settings ask for.
* `LogFiles.write`: appends records.
-/

namespace SeriesCatalog

/-- The least grave level that is logged, or none if nothing is. -/
abbrev Threshold := Option Level

namespace Threshold

/-- The threshold of a name, in which case does not matter.  An unknown name is as good as
none. -/
def parse (name? : Option String) : Threshold :=
  let name := (name?.getD "info").map Char.toLower
  if name = "error" then some .error
  else if name = "warn" then some .warn
  else if name = "debug" then some .debug
  else if name = "trace" then some .trace
  else if name = "off" then none
  else some .info

def name : Threshold → String
  | some l => l.name
  | none => "OFF"

/-- Whether records of a level are logged. -/
def admits (t : Threshold) (l : Level) : Bool :=
  match t with
  | some m => l.rank ≤ m.rank
  | none => false

end Threshold

/-- Whether a record belongs to the audit: its target is that of the audit or below it. -/
def LogRecord.isAudit (r : LogRecord) : Bool :=
  r.target = auditTarget || r.target.startsWith (auditTarget ++ "::")

/-- A record on a line, with its time. -/
def LogRecord.line (time : String) (r : LogRecord) : String :=
  s!"{time} [{r.level.name}] {r.target} - {r.text}\n"

structure LogFiles where
  /-- The path of the file for the audit. -/
  audit : String
  /-- The path of the file for all other records. -/
  general : String
  /-- The least grave level that is logged. -/
  threshold : Threshold
deriving DecidableEq, Repr

namespace LogFiles

/-- The name of the file for the audit. -/
def auditName : String := "audit.log"

/-- The name of the file for all other records. -/
def generalName : String := "app.log"

/-- The log files of a directory, which may refer to variables.  The directory of no name is
the working directory. -/
def inDirectory (v : Settings.Variables) (directory : String) (threshold : Threshold) :
    LogFiles :=
  let path (name : String) : String := Reference.expand v (FileTree.join directory name)
  ⟨path auditName, path generalName, threshold⟩

/-- Makes a file if there is none, and the directories around it. -/
def touch (path : String) (t : FileTree) : Except FileTree FileTree :=
  match t.makeDirectories (FileTree.directoryOf path) with
  | none => .error t
  | some t =>
      match t.append path [] with
      | some t => .ok t
      | none => .error t

/-- Makes a directory, in which references stand for themselves, and the two files.  What
was made before a failure stays. -/
def make (directory : String) (f : LogFiles) (t : FileTree) : Except FileTree FileTree :=
  match t.makeDirectories directory with
  | none => .error t
  | some t =>
      match touch f.general t with
      | .error t => .error t
      | .ok t => touch f.audit t

/-- Log files that are opened, if that succeeds, and the tree with them. -/
abbrev Opened := Option LogFiles × FileTree

/-- Opens log files in a directory, at a level. -/
def openIn (v : Settings.Variables) (directory? level? : Option String) (t : FileTree) :
    Opened :=
  let directory := directory?.getD ""
  let f := inDirectory v directory (.parse level?)
  match f.make directory t with
  | .ok t => (some f, t)
  | .error t => (none, t)

/-- Opens log files as settings ask for.  A configuration of the logs in a file of its own
is not understood. -/
def ofSettings (v : Settings.Variables) (s : Settings) (t : FileTree) : Opened :=
  match s.logConfig? with
  | some _ => (none, t)
  | none => openIn v s.logDir? s.logLevel? t

/-- Opens log files as environment variables ask for. -/
def ofVariables (v : Settings.Variables) (t : FileTree) : Opened :=
  openIn v (v Settings.logDirVariable) (v Settings.logLevelVariable) t

/-- Appends records, each with the time given. -/
def write (f : LogFiles) (time : String) (records : List LogRecord) (t : FileTree) : FileTree :=
  records.foldl
    (fun t r =>
      if f.threshold.admits r.level then
        let path := if r.isAudit then f.audit else f.general
        (t.append path (Text.Utf8.encode (r.line time))).getD t
      else t)
    t

end LogFiles

end SeriesCatalog
