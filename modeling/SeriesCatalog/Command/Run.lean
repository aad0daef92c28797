import SeriesCatalog.Command.Paths
import SeriesCatalog.Service.Startup
import SeriesCatalog.Transport.Session

/-!
# Running the program

Input: arguments, environment variables, a tree of files and the octets of the standard
input, and a clock that says how many milliseconds each request takes.

Result: `run`, what the program writes, its exit code and the tree with the logs.
-/

namespace SeriesCatalog
namespace Command

structure World where
  environment : Settings.Variables
  tree : FileTree
  input : List UInt8
  fresh : Nat → ObjectId
  time : String

structure Report where
  code : Nat
  output : List UInt8 := []
  errors : String := ""
  tree : FileTree

def successCode : Nat := 0

/-- The exit code of a failure before the first request. -/
def failureCode : Nat := 1

/-- The exit code of an answer with an error, or of arguments without a meaning. -/
def errorCode : Nat := 2

/-- The name of the program and its version. -/
def versionText : String := "seriesquery 0.1.0\n"

/-- The warning that nothing is logged. -/
def loggingWarning : String :=
  "warning: logging disabled: the log files cannot be opened\n"

def usageText : String :=
  "Usage: seriesquery [--config FILE] [--data FILE] [--empty-filter POLICY]\n"
    ++ "                   [--log-level LEVEL] COMMAND\n\n"
    ++ "Commands:\n"
    ++ "  query [--query TEXT] [--len N] [--distinct FIELD]... [--pretty]\n"
    ++ "  keys [--query TEXT]\n"
    ++ "  serve-stdio\n"

/-- A message on the standard error. -/
def errorLine (message : String) : String :=
  "error: " ++ message ++ "\n"

structure Written where
  code : Nat
  output : List UInt8
  errors : String
  records : List LogRecord

/-- The milliseconds that each request takes, by its number, where they are measured. -/
abbrev Clock := Nat → Option Nat

/-- No request is measured. -/
def Clock.stopped : Clock := fun _ => none

def runQuery (s : Service) (text : String) (len : Int) (distinct : List String)
    (pretty : Bool) (clock : Clock := .stopped) : Written :=
  let distinct? := if distinct.isEmpty then none else some distinct
  let (e, record) := s.handle (.ofParts text len distinct?) (clock 0)
  let line := if pretty then e.toJson.indentedText else e.line
  let code := if e.isSuccess then successCode else errorCode
  ⟨code, Text.Utf8.encode (line ++ "\n"), "", [record]⟩

/-- The texts among values, each on a line. -/
def linesOfTexts (values : List Value) : String :=
  String.join (values.filterMap fun v =>
    match v with
    | .string s => some (s ++ "\n")
    | _ => none)

def runKeys (s : Service) (text : String) (clock : Clock := .stopped) : Written :=
  let (e, record) := s.handle (.ofParts text 0 (some [Series.fieldsKey])) (clock 0)
  match e.distinct?.bind (Entries.lookup Series.fieldsKey) with
  | some values => ⟨successCode, Text.Utf8.encode (linesOfTexts values), "", [record]⟩
  | none => ⟨errorCode, [], errorLine (e.message?.getD "no keys returned"), [record]⟩

/-- The conduct of a session on a service. -/
def conduct (s : Service) : Transport.Conduct :=
  ⟨fun line => .answered (s.handleLine line).1, none⟩

/-- The audit records of a session. -/
def sessionRecords (s : Service) (requests : List String) (clock : Clock := .stopped) :
    List LogRecord :=
  requests.mapIdx fun i line => (s.handleLine line (clock i)).2

def runServe (s : Service) (input : List UInt8) (clock : Clock := .stopped) : Written :=
  let final := Transport.serve (conduct s) (Transport.arrivals input)
  let records := sessionRecords s final.requests clock
  match final.result? with
  | some (.ok n) =>
      let closed : LogRecord :=
        ⟨.info, Startup.programTarget, s!"stdio transport closed after {n} requests"⟩
      ⟨successCode, final.output, "", records ++ [closed]⟩
  | some (.error c) => ⟨failureCode, final.output, errorLine c, records⟩
  | none => ⟨failureCode, final.output, "", records⟩

def runTask (s : Service) (input : List UInt8) (clock : Clock) : Task → Written
  | .query text len distinct pretty => runQuery s text len distinct pretty clock
  | .keys text => runKeys s text clock
  | .serve => runServe s input clock

/-- Starts the service and does what is asked for. -/
def runInvocation (w : World) (i : Invocation) (clock : Clock := .stopped) : Report :=
  match i.settings w.environment w.tree with
  | .error e => { code := failureCode, errors := errorLine e.message, tree := w.tree }
  | .ok s =>
      let (logs?, tree) := LogFiles.ofSettings w.environment s w.tree
      let warning := if logs?.isSome then "" else loggingWarning
      let log (records : List LogRecord) : FileTree :=
        match logs? with
        | some f => f.write w.time records tree
        | none => tree
      match Startup.store w.fresh tree s with
      | (.error e, records) =>
          let failed : LogRecord :=
            ⟨.error, Startup.programTarget, "startup failed: " ++ e.message⟩
          { code := failureCode
            errors := warning ++ errorLine e.message
            tree := log (records ++ [failed]) }
      | (.ok store, records) =>
          let done := runTask (Startup.service s store) w.input clock i.task
          { code := done.code
            output := done.output
            errors := warning ++ done.errors
            tree := log (records ++ done.records) }

/-- What the program writes when its arguments end it at once. -/
def runEnded (t : FileTree) : Ended → Report
  | .version => { code := successCode, output := Text.Utf8.encode versionText, tree := t }
  | .help => { code := successCode, output := Text.Utf8.encode usageText, tree := t }
  | .misuse => { code := errorCode, errors := usageText, tree := t }

def run (w : World) (arguments : List String) (clock : Clock := .stopped) : Report :=
  match parse arguments with
  | .error e => runEnded w.tree e
  | .ok i => runInvocation w i clock

end Command
end SeriesCatalog
