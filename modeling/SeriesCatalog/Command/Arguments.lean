import SeriesCatalog.Config.Load

/-!
# Arguments of the command line

Options stand before a command and after it, each with the ones that it knows.  Arguments
are taken from left to right, and the first that has no meaning ends the reading.

* `Arguments.parse`: what the arguments ask for.
-/

namespace SeriesCatalog
namespace Command

/-- What the program can be asked to do. -/
inductive Task
  | query (text : String) (len : Int) (distinct : List String) (pretty : Bool)
  | keys (text : String)
  | serve
deriving DecidableEq, Repr

/-- What the arguments ask for. -/
structure Invocation where
  config? : Option String
  flags : Settings.Flags
  task : Task
deriving DecidableEq, Repr

inductive Ended
  | misuse
  | version
  | help
deriving DecidableEq, Repr

inductive Argument
  /-- A name after two dashes, with a value after an equals sign. -/
  | long (name : String) (value? : Option String)
  /-- A letter after one dash. -/
  | short (letter : Char)
  | dashes
  | word (text : String)
deriving DecidableEq, Repr

/-- The characters before the first equals sign and those after it. -/
def splitValue (l : List Char) : String × Option String :=
  match l.dropWhile (· ≠ '=') with
  | [] => (String.ofList l, none)
  | _ :: value => (String.ofList (l.takeWhile (· ≠ '=')), some (String.ofList value))

def argument (text : String) : Argument :=
  match text.toList with
  | ['-', '-'] => .dashes
  | '-' :: '-' :: l =>
      let (name, value?) := splitValue l
      .long name value?
  | '-' :: c :: _ => .short c
  | _ => .word text

/-- Whether a text is a number with a minus sign. -/
def isNegativeNumber (text : String) : Bool :=
  match text.toList with
  | '-' :: l => !l.isEmpty && l.all Char.isDigit
  | _ => false

/-- The value of an option in an argument of its own, which must not look like an option.
A negative number may be allowed. -/
def separateValue (negative : Bool) (text : String) : Except Ended String :=
  match argument text with
  | .word _ => .ok text
  | _ => if negative && isNegativeNumber text then .ok text else .error .misuse

/-- Sets what has not been set before. -/
def setOnce {α : Type} (old : Option α) (new : α) : Except Ended (Option α) :=
  match old with
  | none => .ok (some new)
  | some _ => .error .misuse

/-- A path, which is not empty. -/
def path (text : String) : Except Ended String :=
  if text.isEmpty then .error .misuse else .ok text

def policy (text : String) : Except Ended Policy :=
  match Policy.parse text with
  | .ok p => .ok p
  | .error _ => .error .misuse

/-- A number of 64 bits with a sign. -/
def number (text : String) : Except Ended Int :=
  match Text.readSigned Words.half64 text with
  | .ok n => .ok n
  | .error _ => .error .misuse

/-- An option after a command. -/
inductive TaskOption
  | query
  | len
  /-- A specifier, which may be given again. -/
  | distinct
  /-- Whether the answer is written on several lines.  It takes no value. -/
  | pretty
deriving DecidableEq, Repr

namespace TaskOption

def name : TaskOption → String
  | query => "query"
  | len => "len"
  | distinct => "distinct"
  | pretty => "pretty"

/-- Whether an option takes a value. -/
def takesValue : TaskOption → Bool
  | pretty => false
  | _ => true

/-- Whether a negative number may follow an option. -/
def allowsNegative : TaskOption → Bool
  | len => true
  | _ => false

end TaskOption

/-- The options given after a command. -/
structure TaskOptions where
  text? : Option String := none
  len? : Option Int := none
  distinct : List String := []
  /-- Whether the answer is written on several lines. -/
  pretty : Bool := false

def TaskOptions.give (o : TaskOptions) : TaskOption → String → Except Ended TaskOptions
  | .query, v => do
      let text? ← setOnce o.text? v
      pure { o with text? := text? }
  | .len, v => do
      let n ← number v
      let len? ← setOnce o.len? n
      pure { o with len? := len? }
  | .distinct, v => pure { o with distinct := o.distinct ++ [v] }
  | .pretty, _ => if o.pretty then .error .misuse else pure { o with pretty := true }

/-- Takes the options after a command that knows some of them, where one may be waiting for
its value. -/
def taskOptions (known : List TaskOption) (waiting? : Option TaskOption) (o : TaskOptions) :
    List String → Except Ended TaskOptions
  | [] => if waiting?.isSome then .error .misuse else .ok o
  | a :: rest =>
      match waiting? with
      | some option => do
          let v ← separateValue option.allowsNegative a
          let o ← o.give option v
          taskOptions known none o rest
      | none =>
          match argument a with
          | .long name value? =>
              match known.find? (·.name = name), value? with
              | some option, some v =>
                  if option.takesValue then do
                    let o ← o.give option v
                    taskOptions known none o rest
                  else .error .misuse
              | some option, none =>
                  if option.takesValue then taskOptions known (some option) o rest
                  else do
                    let o ← o.give option ""
                    taskOptions known none o rest
              | none, some _ => .error .misuse
              | none, none => .error (if name = "help" then .help else .misuse)
          | .short 'h' => .error .help
          | .dashes => if rest.isEmpty then .ok o else .error .misuse
          | _ => .error .misuse

/-- The commands, of which the last tells about the others. -/
def commandNames : List String :=
  ["query", "keys", "serve-stdio", "help"]

/-- What asking for help on commands comes to.  No command has commands of its own. -/
def helpOn : List String → Ended
  | [] => .help
  | [name] => if commandNames.contains name then .help else .misuse
  | _ => .misuse

/-- The task of a command with its options. -/
def taskOf (name : String) (rest : List String) : Except Ended Task :=
  if name = "query" then do
    let o ← taskOptions [.query, .len, .distinct, .pretty] none {} rest
    pure (.query (o.text?.getD "") (o.len?.getD (-1)) o.distinct o.pretty)
  else if name = "keys" then do
    let o ← taskOptions [.query] none {} rest
    pure (.keys (o.text?.getD ""))
  else if name = "serve-stdio" then do
    let _ ← taskOptions [] none {} rest
    pure .serve
  else if name = "help" then .error (helpOn rest)
  else .error .misuse

/-- An option before the command. -/
inductive SettingOption
  | config
  | data
  | emptyFilter
  | logLevel
deriving DecidableEq, Repr

namespace SettingOption

def name : SettingOption → String
  | config => "config"
  | data => "data"
  | emptyFilter => "empty-filter"
  | logLevel => "log-level"

def all : List SettingOption :=
  [config, data, emptyFilter, logLevel]

end SettingOption

/-- The options given before the command. -/
structure SettingOptions where
  config? : Option String := none
  flags : Settings.Flags := {}

def SettingOptions.give (o : SettingOptions) :
    SettingOption → String → Except Ended SettingOptions
  | .config, v => do
      let p ← path v
      let config? ← setOnce o.config? p
      pure { o with config? := config? }
  | .data, v => do
      let p ← path v
      let dataPath? ← setOnce o.flags.dataPath? p
      pure { o with flags := { o.flags with dataPath? := dataPath? } }
  | .emptyFilter, v => do
      let p ← policy v
      let policy? ← setOnce o.flags.policy? p
      pure { o with flags := { o.flags with policy? := policy? } }
  | .logLevel, v => do
      let logLevel? ← setOnce o.flags.logLevel? v
      pure { o with flags := { o.flags with logLevel? := logLevel? } }

/-- Why a name that is no option with a value ends the reading. -/
def endedByName (name : String) : Ended :=
  if name = "version" then .version else if name = "help" then .help else .misuse

/-- Takes the options before the command, of which one may be waiting for its value, and
the command. -/
def invocation (waiting? : Option SettingOption) (o : SettingOptions) :
    List String → Except Ended Invocation
  | [] => .error .misuse
  | a :: rest =>
      match waiting? with
      | some option => do
          let v ← separateValue false a
          let o ← o.give option v
          invocation none o rest
      | none =>
          match argument a with
          | .long name value? =>
              match SettingOption.all.find? (·.name = name), value? with
              | some option, some v => do
                  let o ← o.give option v
                  invocation none o rest
              | some option, none => invocation (some option) o rest
              | none, some _ => .error .misuse
              | none, none => .error (endedByName name)
          | .short 'V' => .error .version
          | .short 'h' => .error .help
          | .word name => do
              let task ← taskOf name rest
              pure ⟨o.config?, o.flags, task⟩
          | _ => .error .misuse

def parse (arguments : List String) : Except Ended Invocation :=
  invocation none {} arguments

end Command
end SeriesCatalog
